import BoxOffice.Proofs.Service.Run
import BoxOffice.Proofs.Ticket.Exhaustion

/-!
# The stages of a request

`resolve`, `suggest` and `decideOnline` are a first lookup and what follows it. What follows depends on
the records found: `complete` goes on only with an exhausted list (`complete_cases`), and `sell` only if
nothing is on sale (`sell_cases`).
-/

namespace BoxOffice

namespace TicketService

theorem resolve_eq (s : TicketService) (id : Uuid) (r : AvailabilityRequest) :
    s.resolve id r = Plan.lookupMany [requestSpan "resolve" id r] "ticket not found"
      (.offlineByCountryEvent r.countryCode r.eventId) >>= s.complete id r := rfl

/-- A list is complete as it is, or suggestions are looked for and the tag of the last record is announced. -/
theorem complete_cases (s : TicketService) (id : Uuid) (r : AvailabilityRequest) (offline : List TicketRecord) :
    s.complete id r offline = pure ⟨offline.map TicketView.ofRecord, []⟩ ∨
      ∃ last, offline.getLast? = some last ∧ s.complete id r offline = do
        Plan.note [requestSpan "resolve" id r] (.of .info "offline stock exhausted"
          [("sold_out", Text.intText (s.policy.assess offline).soldOut), ("tag", last.tag.text)])
        let suggestions ← s.suggest [requestSpan "resolve" id r] id last.tag
        Plan.notify [requestSpan "resolve" id r] ⟨last.tag, r.countryCode⟩
        return ⟨offline.map TicketView.ofRecord, suggestions⟩ := by
  unfold complete
  dsimp only
  split
  · next tag _ htag =>
    have hmap : offline.getLast?.map TicketRecord.tag = some tag := htag
    obtain ⟨last, hlast, rfl⟩ := Option.map_eq_some_iff.1 hmap
    exact .inr ⟨last, hlast, rfl⟩
  · exact .inl rfl

theorem suggest_eq (s : TicketService) (outer : List Span) (id : Uuid) (tag : Tag) :
    s.suggest outer id tag = Plan.lookupMany (outer ++ [suggestSpan id tag]) "ticket not found"
      (.cheapestAvailableByTag tag) >>= s.alternatives outer id tag := rfl

theorem decideOnline_eq (s : TicketService) (id : Uuid) (r : AvailabilityRequest) :
    s.decideOnline id r = Plan.lookupMany [requestSpan "decide_online" id r]
      "offline ticket not found" (.offlineByCountryEvent r.countryCode r.eventId) >>= s.sell id r := rfl

section Standard

variable (topic : String) (id : Uuid) (r : AvailabilityRequest) {offline : List TicketRecord}

theorem complete_of_not_exhausted (h : ¬ Exhausted offline) :
    (withTopic topic).complete id r offline = pure ⟨offline.map TicketView.ofRecord, []⟩ := by
  have hf : (AvailabilityPolicy.standard.assess offline).isExhausted = false := by
    rw [Bool.eq_false_iff, ne_eq, isExhausted_assess_iff]
    exact h
  unfold complete
  simp only [show (withTopic topic).policy = .standard from rfl, hf]

theorem complete_of_exhausted (h : Exhausted offline) {last : TicketRecord}
    (hl : offline.getLast? = some last) :
    (withTopic topic).complete id r offline = do
      Plan.note [requestSpan "resolve" id r] (.of .info "offline stock exhausted"
        [("sold_out", Text.intText (soldOutCount offline)), ("tag", last.tag.text)])
      let suggestions ← (withTopic topic).suggest [requestSpan "resolve" id r] id last.tag
      Plan.notify [requestSpan "resolve" id r] ⟨last.tag, r.countryCode⟩
      return ⟨offline.map TicketView.ofRecord, suggestions⟩ := by
  have ht := lastTag_assess_of_last .standard hl
  unfold complete
  simp only [show (withTopic topic).policy = .standard from rfl, (isExhausted_assess_iff offline).2 h,
    ht, soldOut_assess]

theorem sell_of_on_sale (hne : offline ≠ []) (hex : ¬ Exhausted offline) :
    (withTopic topic).sell id r offline =
      (Plan.note [requestSpan "decide_online" id r] (.of .info "online sale refused"
        [("total", Text.intText offline.length), ("sold_out", Text.intText (soldOutCount offline))])
      >>= fun _ => Plan.fail (.conflict "Offline ticket still available")) := by
  have h := (onlineEligibility_assess_iff offline).2 ⟨hne, hex⟩
  unfold sell
  simp only [show (withTopic topic).policy = .standard from rfl, h, soldOut_assess]
  rfl

theorem sell_of_none_on_sale (hnone : offline ≠ [] → Exhausted offline) :
    (withTopic topic).sell id r offline = do
      let online ← Plan.lookupOne [requestSpan "decide_online" id r] "ticket not found"
        (.onlineByCountryEvent r.countryCode r.eventId)
      return .ofRecord online := by
  have hnot := mt (onlineEligibility_assess_iff offline).1 fun ⟨hne, hex⟩ => hex (hnone hne)
  have h : (AvailabilityPolicy.standard.assess offline).onlineEligibility = .onlineEligible := by
    cases hel : (AvailabilityPolicy.standard.assess offline).onlineEligibility with
    | offlineAvailable => exact absurd hel hnot
    | onlineEligible => rfl
  unfold sell
  simp only [show (withTopic topic).policy = .standard from rfl, h]

/-- A sale is refused, or the online ticket is looked up. -/
theorem sell_cases (offline : List TicketRecord) :
    (∃ event, (withTopic topic).sell id r offline =
      (Plan.note [requestSpan "decide_online" id r] event >>= fun _ =>
        Plan.fail (.conflict "Offline ticket still available"))) ∨
    (withTopic topic).sell id r offline = do
      let online ← Plan.lookupOne [requestSpan "decide_online" id r] "ticket not found"
        (.onlineByCountryEvent r.countryCode r.eventId)
      return .ofRecord online := by
  by_cases hne : offline = []
  · exact .inr (sell_of_none_on_sale topic id r fun h => absurd hne h)
  · by_cases hex : Exhausted offline
    · exact .inr (sell_of_none_on_sale topic id r fun _ => hex)
    · exact .inl ⟨_, sell_of_on_sale topic id r hne hex⟩

end Standard

end TicketService

end BoxOffice
