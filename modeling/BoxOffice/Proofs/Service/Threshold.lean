import BoxOffice.Proofs.Service.Standing

/-!
# The threshold

Whether a country is exhausted is a matter of its records alone, not of their order.

1. `AssessedAsSet` says what the standard policy makes of a list of records: all but the tag of the last one
   stays the same when they change places, the sold-out records of two lists add up, and a country stays
   exhausted whatever records come in. Online sale is refused between the first record and the fourth one that
   is sold out.
2. A request for a listing tests two things, whether the list is exhausted and whether it has a last tag. The
   second follows from the first, so that the test is whether the list is exhausted (`TurnsIfExhausted`).
-/

namespace BoxOffice

open AvailabilityPolicy

variable {σ π : Type}

/-- What the standard policy makes of a list of records, of rearrangements of it and of longer lists. -/
structure AssessedAsSet (rs : List TicketRecord) : Prop where
  rearranged : ∀ rs' : List TicketRecord, rs'.Perm rs → (standard.assess rs').SameStanding (standard.assess rs)
  joined : ∀ more, (standard.assess (rs ++ more)).soldOut =
    (standard.assess rs).soldOut + (standard.assess more).soldOut
  grown : (standard.assess rs).status = .exhausted →
    ∀ longer : List TicketRecord, rs.Sublist longer → (standard.assess longer).status = .exhausted
  refused_iff : (standard.assess rs).onlineEligibility = .offlineAvailable ↔ rs ≠ [] ∧ soldOutCount rs < 4
  last : (standard.assess rs).isExhausted = true →
    ∃ last, rs.getLast? = some last ∧ (standard.assess rs).lastTag = some last.tag

theorem assessedAsSet (rs : List TicketRecord) : AssessedAsSet rs where
  rearranged _ h := sameStanding_of_perm standard h
  joined more := soldOut_assess_append standard rs more
  grown h _ hsub := status_assess_of_sublist standard h hsub
  refused_iff := by
    rw [onlineEligibility_assess_iff, Exhausted, Nat.not_le]
  last h := by
    obtain ⟨last, hlast⟩ := ((isExhausted_assess_iff rs).1 h).exists_last
    exact ⟨last, hlast, lastTag_assess_of_last standard hlast⟩

/-- A listing goes on to other countries, for the tag of its last record, if its list is exhausted, and only
then. -/
structure TurnsIfExhausted (topic : String) (r : AvailabilityRequest) (offline : List TicketRecord)
    (p : Performance σ π TicketListing) : Prop where
  exhausted : (standard.assess offline).isExhausted = true → LooksElsewhere r topic offline p
  otherwise : (standard.assess offline).isExhausted = false → ListsOnly r offline p

/-- Exhaustion is a fact about the set of records: neither their order nor further records undo it. Whatever
the store and the deadline, a listing for which the records are found turns to other countries if and only if
they are exhausted. -/
theorem exhaustion_of_set (rs : List TicketRecord) :
    AssessedAsSet rs ∧
      ∀ (s : TicketStore σ) (publisher : Publisher π) (deadline : Option Nat) (state : σ) (begin : π)
        (topic : String) (id : Uuid) (r : AvailabilityRequest),
        firstOutcome s deadline 0 state r = .ok (some rs) →
          TurnsIfExhausted topic r rs ((TicketService.withTopic topic).perform s publisher deadline
            (state, begin) ((TicketService.withTopic topic).resolve id r)) := by
  refine ⟨assessedAsSet rs, ?_⟩
  intro s publisher deadline state begin topic id r hfound
  refine ⟨fun hex => ?_, fun hnot => ?_⟩
  · exact looksElsewhere_of_exhausted publisher begin topic id hfound ((isExhausted_assess_iff rs).1 hex)
  · have hex : ¬ Exhausted rs := by
      rw [← isExhausted_assess_iff, hnot]
      exact Bool.false_ne_true
    exact listsOnly_of_not_exhausted publisher begin topic id hfound hex

/-- Four of five records are sold out, but not the last one, and they are found just before the deadline: the
listing turns to other countries for the tag of the last. -/
theorem exhaustion_of_four_among_five :
    let soldOut : TicketRecord := { ticketRecord with totalRemaining := 0 }
    let offline := List.replicate 4 soldOut ++ [ticketRecord]
    let answers : ScriptedStore :=
      ⟨fun kind => if kind = .offlineByCountryEvent then [⟨.ok (some offline), 7⟩] else []⟩
    let r : AvailabilityRequest := ⟨ticketRecord.country.code, ticketRecord.eventId⟩
    let id : Uuid := ⟨List.replicate 32 0, rfl⟩
    firstOutcome ScriptedStore.store (some 7) 0 answers r = .ok (some offline) ∧
      (standard.assess offline).isExhausted = true ∧
      LooksElsewhere r standardTopic offline ((TicketService.withTopic standardTopic).perform
        ScriptedStore.store .refusing (some 7) (answers, ())
          ((TicketService.withTopic standardTopic).resolve id r)) := by
  intro soldOut offline answers r id
  have hfound : firstOutcome ScriptedStore.store (some 7) 0 answers r = .ok (some offline) := rfl
  have hex : (standard.assess offline).isExhausted = true := by decide
  have hturns := (exhaustion_of_set offline).2 ScriptedStore.store .refusing (some 7) answers ()
    standardTopic id r hfound
  exact ⟨hfound, hex, hturns.exhausted hex⟩

end BoxOffice
