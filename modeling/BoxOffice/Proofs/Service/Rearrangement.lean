import Mathlib.Data.List.Pairwise
import BoxOffice.Proofs.Service.Isolation
import BoxOffice.Proofs.Service.Shown

/-!
# Documents in another order

Documents of one price are told apart by the order of insertion, and by nothing else. Where no two
offline documents have the same price, that order makes no difference.

1. Two arrangements of such documents are sorted to the same list, since a price decides on a document
   (`PricedApart.arrange_eq`). Whatever is cut out of it or decoded from it is the same as well.
2. The lookups that sort are about offline documents (`SortedLookup`), and a listing and its suggestions
   ask for nothing else (`sortedLookup_of_mem_calls_resolve`).
3. So both run in the same way over either arrangement (`rearranged_alike`). A tie between two documents is
   enough for a difference (`select_swap_ne`).
-/

namespace BoxOffice

open BoxOffice.Json

variable {π : Type} {ds ds' : List Value} {q : TicketQuery} {r : AvailabilityRequest} {t : Tag}

/-! ## Prices that tell documents apart -/

instance : DecidablePred Offline := fun d => by unfold Offline; infer_instance

/-- No two of the offline documents are sorted by the same price. -/
def PricedApart (ds : List Value) : Prop :=
  ds.Pairwise fun a b => Offline a → Offline b → ∀ price, SortedAt a price → ¬ SortedAt b price

theorem pricedApart_iff :
    PricedApart ds ↔ ds.Pairwise fun a b => Offline a → Offline b → priceKey a ≠ priceKey b := by
  unfold PricedApart
  simp only [forall_sortedAt_not_iff]

/-- What a query for offline documents accepts is offline. -/
theorem offline_of_accepts (hchannel : q.filter.channel = .offline) {d : Value}
    (h : q.filter.accepts d = true) : Offline d := by
  unfold TicketFilter.accepts at h
  simp only [hchannel, Bool.and_eq_true] at h
  exact (admits_offline_iff d).1 h.1.1.1.1

/-- A query arranges the documents that it accepts. -/
theorem TicketQuery.arrange_perm (q : TicketQuery) (ds : List Value) :
    (q.arrange ds).Perm (ds.filter q.filter.accepts) := by
  unfold arrange BoxOffice.sortByPrice
  split
  · exact List.mergeSort_perm _ _
  · exact List.Perm.refl _

/-- A query that sorts arranges documents by their prices. -/
theorem TicketQuery.pairwise_arrange (q : TicketQuery) (hsort : q.sortByPrice = true) (ds : List Value) :
    (q.arrange ds).Pairwise fun a b => priceKey a ≤ priceKey b := by
  unfold arrange BoxOffice.sortByPrice
  rw [if_pos hsort]
  exact (List.pairwise_mergeSort (key_le_trans priceKey) (key_le_total priceKey) _).imp of_decide_eq_true

namespace PricedApart

/-- A price decides on an offline document. -/
theorem eq_of_priceKey_eq (h : PricedApart ds) {a b : Value} (ha : a ∈ ds) (hb : b ∈ ds)
    (hoffa : Offline a) (hoffb : Offline b) (hkey : priceKey a = priceKey b) : a = b := by
  have hsymm : Std.Symm fun a b : Value => Offline a → Offline b → priceKey a ≠ priceKey b :=
    ⟨fun _ _ hne hb ha heq => hne ha hb heq.symm⟩
  by_contra hab
  exact (pricedApart_iff.1 h).forall ha hb hab hoffa hoffb hkey

/-- A query that sorts offline documents arranges them in the same way, in whatever order they are. -/
theorem arrange_eq (h : PricedApart ds) (hperm : ds.Perm ds') (hchannel : q.filter.channel = .offline)
    (hsort : q.sortByPrice = true) : q.arrange ds = q.arrange ds' := by
  have harranged : (q.arrange ds).Perm (q.arrange ds') :=
    (q.arrange_perm ds).trans ((hperm.filter _).trans (q.arrange_perm ds').symm)
  have hmem : ∀ d ∈ q.arrange ds, d ∈ ds ∧ Offline d := by
    intro d hd
    obtain ⟨hstored, haccepted⟩ := List.mem_filter.1 ((q.arrange_perm ds).mem_iff.1 hd)
    exact ⟨hstored, offline_of_accepts hchannel haccepted⟩
  refine List.Perm.eq_of_pairwise ?_ (q.pairwise_arrange hsort ds) (q.pairwise_arrange hsort ds') harranged
  intro a b ha hb hab hba
  obtain ⟨hina, hoffa⟩ := hmem a ha
  obtain ⟨hinb, hoffb⟩ := hmem b (harranged.mem_iff.2 hb)
  exact h.eq_of_priceKey_eq hina hinb hoffa hoffb (Int.le_antisymm hab hba)

theorem select_eq (h : PricedApart ds) (hperm : ds.Perm ds') (hchannel : q.filter.channel = .offline)
    (hsort : q.sortByPrice = true) : q.select ds = q.select ds' := by
  rw [TicketQuery.select_eq, TicketQuery.select_eq, h.arrange_eq hperm hchannel hsort]

end PricedApart

/-- Of two documents of one price that a query accepts, the one inserted first stands first. -/
theorem select_pair_of_tie (hsort : q.sortByPrice = true) (hpage : q.page = none) {a b : Value}
    (ha : q.filter.accepts a = true) (hb : q.filter.accepts b = true) (hkey : priceKey a = priceKey b) :
    q.select [a, b] = [a, b] := by
  have hfilter : [a, b].filter q.filter.accepts = [a, b] := by simp [ha, hb]
  have hsorted : [a, b].Pairwise fun a b => decide (priceKey a ≤ priceKey b) = true := by
    rw [List.pairwise_pair]
    exact decide_eq_true (Int.le_of_eq hkey)
  rw [TicketQuery.select_eq, hpage]
  show q.arrange [a, b] = [a, b]
  unfold TicketQuery.arrange sortByPrice
  rw [if_pos hsort, hfilter]
  exact List.mergeSort_of_pairwise hsorted

/-- With a tie the order of insertion shows. -/
theorem select_swap_ne (hsort : q.sortByPrice = true) (hpage : q.page = none) {a b : Value}
    (ha : q.filter.accepts a = true) (hb : q.filter.accepts b = true) (hkey : priceKey a = priceKey b)
    (hne : a ≠ b) : q.select [a, b] ≠ q.select [b, a] := by
  rw [select_pair_of_tie hsort hpage ha hb hkey, select_pair_of_tie hsort hpage hb ha hkey.symm]
  intro h
  exact hne (List.cons.inj h).1

/-! ## Lookups that sort -/

/-- The lookups that sort what they find. -/
inductive SortedLookup : TicketQuery → Prop
  | byCountryEvent (c : CountryCode) (e : EventId) : SortedLookup (.offlineByCountryEvent c e)
  | byCountryTag (c : CountryCode) (t : Tag) : SortedLookup (.offlineByCountryTag c t)
  | cheapest (t : Tag) : SortedLookup (.cheapestAvailableByTag t)

theorem SortedLookup.select_eq (h : SortedLookup q) (hperm : ds.Perm ds') (hds : PricedApart ds) :
    q.select ds = q.select ds' := by
  cases h with
  | byCountryEvent c e => exact hds.select_eq hperm rfl rfl
  | byCountryTag c t => exact hds.select_eq hperm rfl rfl
  | cheapest t => exact hds.select_eq hperm rfl rfl

section Calls

variable {topic : String} {id : Uuid} {deadline : Option Nat} {time : Nat}

theorem sortedLookup_of_suggest (hq : q = .cheapestAvailableByTag t ∨ ∃ c, q = .offlineByCountryTag c t) :
    SortedLookup q := by
  rcases hq with rfl | ⟨c, rfl⟩
  · exact .cheapest t
  · exact .byCountryTag c t

/-- A search for suggestions asks for nothing but sorted lookups. -/
theorem sortedLookup_of_mem_calls_suggest {outer : List Span}
    (hq : q ∈ (((TicketService.withTopic topic).suggest outer id t).run MemoryStore.store deadline time
      ⟨ds⟩).calls) : SortedLookup q := by
  obtain ⟨calls, h⟩ := asks_suggest MemoryStore.store deadline time ⟨ds⟩
    (TicketService.withTopic topic) outer id t
  rw [h.calls_eq] at hq
  obtain ⟨c, hc, rfl⟩ := List.mem_map.1 hq
  obtain ⟨found, hnext⟩ := h.follows.exists_next hc
  exact sortedLookup_of_suggest (suggestInquiry_eq_some hnext)

theorem sortedLookup_of_mem_calls_resolve
    (hq : q ∈ (((TicketService.withTopic topic).resolve id r).run MemoryStore.store deadline time
      ⟨ds⟩).calls) : SortedLookup q := by
  rcases mem_calls_resolve hq with rfl | ⟨t, -, hsuggest⟩
  · exact .byCountryEvent _ _
  · exact sortedLookup_of_suggest hsuggest

end Calls

/-- Over the same documents in another order, where no two offline ones have the same price, sorted lookups
give the same, and suggestions and listings are the same with all that is asked, announced and logged. -/
theorem rearranged_alike (topic : String) (publisher : Publisher π) (deadline : Option Nat) (begin : π)
    (id : Uuid) (hperm : ds.Perm ds') (hds : PricedApart ds) :
    let service := TicketService.withTopic topic
    (∀ q, SortedLookup q → (⟨ds⟩ : MemoryStore).findMany q = (⟨ds'⟩ : MemoryStore).findMany q ∧
      (⟨ds⟩ : MemoryStore).findOne q = (⟨ds'⟩ : MemoryStore).findOne q) ∧
    (∀ outer t, SameAnswer
      (service.perform MemoryStore.store publisher deadline (⟨ds⟩, begin) (service.suggest outer id t))
      (service.perform MemoryStore.store publisher deadline (⟨ds'⟩, begin) (service.suggest outer id t))) ∧
    ∀ r, SameAnswer
      (service.perform MemoryStore.store publisher deadline (⟨ds⟩, begin) (service.resolve id r))
      (service.perform MemoryStore.store publisher deadline (⟨ds'⟩, begin) (service.resolve id r)) := by
  intro service
  refine ⟨?_, ?_, ?_⟩
  · intro q hq
    have hselect := hq.select_eq hperm hds
    exact ⟨MemoryStore.findMany_eq_of_select_eq hselect, MemoryStore.findOne_eq_of_select_eq hselect⟩
  · intro outer t
    apply sameAnswer_of_selects
    intro q hq
    exact (sortedLookup_of_mem_calls_suggest hq).select_eq hperm hds
  · intro r
    apply sameAnswer_of_selects
    intro q hq
    exact (sortedLookup_of_mem_calls_resolve hq).select_eq hperm hds

/-- Five tickets, a document without a price and two online tickets of one price, the other way round. -/
theorem rearranged_alike_in_reverse :
    let ds := fiveDocuments "SG" ++ [strayDocument, onlineDocument, onlineDocument]
    let service := TicketService.withTopic standardTopic
    let id : Uuid := ⟨List.replicate 32 0, rfl⟩
    ds.Perm ds.reverse ∧ PricedApart ds ∧ ds ≠ ds.reverse ∧
      SameAnswer
        (service.perform MemoryStore.store .refusing none (⟨ds⟩, ()) (service.resolve id indonesianRequest))
        (service.perform MemoryStore.store .refusing none (⟨ds.reverse⟩, ())
          (service.resolve id indonesianRequest)) := by
  intro ds service id
  have hperm : ds.Perm ds.reverse := (List.reverse_perm ds).symm
  have happart : PricedApart ds := by
    rw [pricedApart_iff]
    decide +kernel
  have hne : ds ≠ ds.reverse := by
    intro h
    have hprices := congrArg (List.map priceKey) h
    exact absurd hprices (by decide +kernel)
  exact ⟨hperm, happart, hne,
    (rearranged_alike standardTopic .refusing none () id hperm happart).2.2 indonesianRequest⟩

end BoxOffice
