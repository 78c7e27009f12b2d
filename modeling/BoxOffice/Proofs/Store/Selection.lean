import BoxOffice.Store.Memory
import Mathlib.Data.List.Forall2
import Mathlib.Data.List.Nodup

/-!
# What a query selects

The documents of a store have places, in the order of insertion. A selection is described by places
alone, and there is one list that fits the description.

1. `PriceBefore` is the order by price and place, where a document without a price is sorted as if it had
   the greatest one (`SortedAt`). It is the order of the key of the sort (`priceBefore_iff`).
2. `Arranged P before ds out`: `out` lists the documents of `ds` with the property `P`, one for
   each place, in the order `before`. The order decides the list (`Arranged.unique`).
3. Filtering keeps the order of places (`arranged_filter`), and sorting by price is stable, so that
   it leads to the order by price and place (`Arranged.sortByPrice`).
4. `IsSelection` adds the page; `TicketQuery.select` is the one selection (`isSelection_iff`).
-/

namespace BoxOffice

open BoxOffice.Json

/-! ## Places and prices -/

/-- The order of places. -/
def PlaceBefore (a b : Value × Nat) : Prop := a.2 < b.2

/-- The price of a document is the number of signed 64 bits that stands in its member `ticketPrice`. -/
def HasPrice (d : Value) (price : Int64) : Prop :=
  ∃ ms, d = .object ms ∧ ms.lookup "ticketPrice" = some (.int64 price)

/-- The price that a document is sorted by: its own, or the greatest number of signed 64 bits where it has
none. -/
inductive SortedAt (d : Value) : Int64 → Prop
  | priced {price : Int64} : HasPrice d price → SortedAt d price
  | unpriced : (∀ price, ¬ HasPrice d price) → SortedAt d Int64.maxValue

/-- The order by price, and by place where the price is the same. -/
def PriceBefore (a b : Value × Nat) : Prop :=
  ∃ price price', SortedAt a.1 price ∧ SortedAt b.1 price' ∧
    (price < price' ∨ price = price' ∧ a.2 < b.2)

/-- `out` lists the documents of `ds` with the property `P`, each as often as it is stored, in the
order `before` of documents and places. -/
def Arranged (P : Value → Prop) (before : Value × Nat → Value × Nat → Prop)
    (ds out : List Value) : Prop :=
  ∃ placed : List (Value × Nat), (∀ x, x ∈ placed ↔ x ∈ ds.zipIdx ∧ P x.1) ∧
    placed.Pairwise before ∧ out = placed.map Prod.fst

/-! ## The key of the sort -/

theorem hasPrice_iff {d : Value} {price : Int64} :
    HasPrice d price ↔ (d.get? "ticketPrice").bind Value.int64? = some price := by
  unfold HasPrice
  cases d with
  | object ms => simp [Option.bind_eq_some_iff, Value.int64?_eq_some_iff]
  | _ => simp [Value.get?]

theorem exists_sortedAt (d : Value) : ∃ price, SortedAt d price := by
  by_cases h : ∃ price, HasPrice d price
  · obtain ⟨price, hprice⟩ := h
    exact ⟨price, .priced hprice⟩
  · exact ⟨_, .unpriced fun price hprice => h ⟨price, hprice⟩⟩

/-- The key of the sort is the price that a document is sorted by. -/
theorem SortedAt.toInt_eq {d : Value} {price : Int64} (h : SortedAt d price) :
    price.toInt = priceKey d := by
  unfold priceKey
  cases h with
  | priced hprice => rw [hasPrice_iff.1 hprice]
  | unpriced hnone =>
    have hmissing : (d.get? "ticketPrice").bind Value.int64? = none :=
      Option.eq_none_iff_forall_ne_some.2 fun price => mt hasPrice_iff.2 (hnone price)
    rw [hmissing]

theorem sortedAt_iff {d : Value} {price : Int64} : SortedAt d price ↔ price.toInt = priceKey d := by
  refine ⟨SortedAt.toInt_eq, fun h => ?_⟩
  obtain ⟨price', h'⟩ := exists_sortedAt d
  cases Int64.toInt_inj.1 (h.trans h'.toInt_eq.symm)
  exact h'

/-- Two documents are sorted by the same price if and only if the key of the sort is the same. -/
theorem forall_sortedAt_not_iff {a b : Value} :
    (∀ price, SortedAt a price → ¬ SortedAt b price) ↔ priceKey a ≠ priceKey b := by
  constructor
  · intro h hkey
    obtain ⟨price, ha⟩ := exists_sortedAt a
    exact h price ha (sortedAt_iff.2 (ha.toInt_eq.trans hkey))
  · intro hkey price ha hb
    exact hkey (ha.toInt_eq.symm.trans hb.toInt_eq)

theorem priceBefore_iff {a b : Value × Nat} :
    PriceBefore a b ↔ priceKey a.1 < priceKey b.1 ∨ priceKey a.1 = priceKey b.1 ∧ a.2 < b.2 := by
  constructor
  · rintro ⟨price, price', ha, hb, hbefore⟩
    rwa [← ha.toInt_eq, ← hb.toInt_eq, ← Int64.lt_iff_toInt_lt, Int64.toInt_inj]
  · intro hbefore
    obtain ⟨price, ha⟩ := exists_sortedAt a.1
    obtain ⟨price', hb⟩ := exists_sortedAt b.1
    rw [← ha.toInt_eq, ← hb.toInt_eq, ← Int64.lt_iff_toInt_lt, Int64.toInt_inj] at hbefore
    exact ⟨price, price', ha, hb, hbefore⟩

/-! ## Arrangements -/

instance : Std.Asymm PlaceBefore := ⟨fun _ _ h => Nat.lt_asymm h⟩

instance : Std.Asymm PriceBefore where
  asymm a b h := by
    rw [priceBefore_iff] at h ⊢
    omega

theorem nodup_of_pairwise {α : Type} {before : α → α → Prop} [Std.Asymm before] {xs : List α}
    (h : xs.Pairwise before) : xs.Nodup := by
  refine h.imp fun {a b} hab hne => ?_
  subst hne
  exact Std.Asymm.asymm _ _ hab hab

namespace Arranged

variable {P Q : Value → Prop} {before : Value × Nat → Value × Nat → Prop} {ds out out' : List Value}

/-- The order leaves no choice. -/
theorem unique [Std.Asymm before] (h : Arranged P before ds out) (h' : Arranged P before ds out') :
    out = out' := by
  obtain ⟨placed, hmem, hord, rfl⟩ := h
  obtain ⟨placed', hmem', hord', rfl⟩ := h'
  have hperm : placed.Perm placed' :=
    (List.perm_ext_iff_of_nodup (nodup_of_pairwise hord) (nodup_of_pairwise hord')).2
      fun x => (hmem x).trans (hmem' x).symm
  rw [hperm.eq_of_pairwise (fun a b _ _ hab hba => absurd hba (Std.Asymm.asymm _ _ hab)) hord hord']

theorem mem_iff (h : Arranged P before ds out) (d : Value) : d ∈ out ↔ d ∈ ds ∧ P d := by
  obtain ⟨placed, hmem, -, rfl⟩ := h
  constructor
  · intro hd
    obtain ⟨⟨d', i⟩, hx, rfl⟩ := List.mem_map.1 hd
    obtain ⟨hz, hP⟩ := (hmem _).1 hx
    exact ⟨List.fst_mem_of_mem_zipIdx hz, hP⟩
  · rintro ⟨hd, hP⟩
    obtain ⟨i, hi⟩ := List.mem_iff_getElem?.1 hd
    exact List.mem_map.2 ⟨(d, i), (hmem _).2 ⟨List.mem_zipIdx_iff_getElem?.2 hi, hP⟩, rfl⟩

/-- The documents stand in places of their own. -/
theorem exists_places [Std.Asymm before] (h : Arranged P before ds out) :
    ∃ places : List Nat, places.Nodup ∧ List.Forall₂ (fun d i => ds[i]? = some d) out places := by
  obtain ⟨placed, hmem, hord, rfl⟩ := h
  have hstands : ∀ x ∈ placed, ds[x.2]? = some x.1 := fun x hx =>
    List.mem_zipIdx_iff_getElem?.1 ((hmem x).1 hx).1
  refine ⟨placed.map Prod.snd, ?_, ?_⟩
  · -- A place holds one document.
    refine List.Nodup.map_on (fun x hx y hy hplace => ?_) (nodup_of_pairwise hord)
    have hdoc := (hstands x hx).symm.trans (hplace ▸ hstands y hy)
    exact Prod.ext (Option.some.inj hdoc) hplace
  · exact List.forall₂_map_right_iff.2 (List.forall₂_map_left_iff.2
      (List.forall₂_same.2 hstands))

theorem congr (hPQ : ∀ d, P d ↔ Q d) (h : Arranged P before ds out) : Arranged Q before ds out := by
  obtain ⟨placed, hmem, hord, rfl⟩ := h
  exact ⟨placed, fun x => by rw [hmem, hPQ], hord, rfl⟩

end Arranged

theorem pairwise_zipIdx {α : Type} (xs : List α) (n : Nat) :
    (xs.zipIdx n).Pairwise fun a b => a.2 < b.2 := by
  induction xs generalizing n with
  | nil => exact .nil
  | cons x xs ih =>
    rw [List.zipIdx_cons]
    refine List.pairwise_cons.2 ⟨fun y hy => ?_, ih (n + 1)⟩
    exact Nat.lt_of_succ_le (List.le_snd_of_mem_zipIdx hy)

/-- Filtering lists the documents in the order of their places. -/
theorem arranged_filter (p : Value → Bool) (ds : List Value) :
    Arranged (fun d => p d = true) PlaceBefore ds (ds.filter p) := by
  refine ⟨ds.zipIdx.filter fun x => p x.1, fun x => List.mem_filter, (pairwise_zipIdx ds 0).filter _, ?_⟩
  conv_lhs => rw [← List.zipIdx_map_fst 0 ds]
  exact List.filter_map

/-! ## The sort -/

section Stable

variable {α : Type} (key : α → Int)

theorem key_le_trans (a b c : α) (hab : decide (key a ≤ key b) = true)
    (hbc : decide (key b ≤ key c) = true) : decide (key a ≤ key c) = true :=
  decide_eq_true (Int.le_trans (of_decide_eq_true hab) (of_decide_eq_true hbc))

theorem key_le_total (a b : α) : (decide (key a ≤ key b) || decide (key b ≤ key a)) = true := by
  rcases Int.le_total (key a) (key b) with h | h <;> simp [h]

/-- Items of one key keep their order: they are the same list before and after the sort. -/
theorem filter_mergeSort (xs : List α) (k : Int) :
    (xs.mergeSort fun a b => key a ≤ key b).filter (fun a => key a = k) =
      xs.filter fun a => key a = k := by
  have hsame : (xs.filter fun a => key a = k).Pairwise fun a b => decide (key a ≤ key b) = true := by
    refine List.pairwise_of_forall_mem_list fun a ha b hb => ?_
    simp only [List.mem_filter, decide_eq_true_eq] at ha hb
    simp [ha.2, hb.2]
  have hsub := (List.sublist_mergeSort (key_le_trans key) (key_le_total key) hsame
    List.filter_sublist).filter (fun a => decide (key a = k))
  simp only [List.filter_filter, Bool.and_self] at hsub
  have hlen := ((List.mergeSort_perm xs fun a b => key a ≤ key b).filter
    (fun a => decide (key a = k))).length_eq
  exact (hsub.eq_of_length hlen.symm).symm

/-- What is sorted by a key ascends by the key, and items of one key stand as they stood before. -/
theorem pairwise_mergeSort_stable {before : α → α → Prop} {xs : List α} (h : xs.Pairwise before) :
    (xs.mergeSort fun a b => key a ≤ key b).Pairwise fun a b =>
      key a < key b ∨ key a = key b ∧ before a b := by
  have hle := List.pairwise_mergeSort (key_le_trans key) (key_le_total key) xs
  rw [List.pairwise_iff_forall_sublist] at hle ⊢
  intro a b hab
  rcases Int.lt_or_eq_of_le (of_decide_eq_true (hle hab)) with hlt | heq
  · exact Or.inl hlt
  · right
    -- The pair survives among the items of its key, which the sort does not move.
    have hpair := hab.filter (fun x => decide (key x = key b))
    rw [filter_mergeSort] at hpair
    have hsub : [a, b].Sublist xs := by
      simpa [heq] using hpair.trans List.filter_sublist
    exact ⟨heq, List.pairwise_iff_forall_sublist.1 h hsub⟩

end Stable

/-- Sorting documents that stand in the order of their places puts them in the order by price and
place. -/
theorem Arranged.sortByPrice {P : Value → Prop} {ds out : List Value}
    (h : Arranged P PlaceBefore ds out) : Arranged P PriceBefore ds (sortByPrice out) := by
  obtain ⟨placed, hmem, hord, rfl⟩ := h
  have hstable := pairwise_mergeSort_stable (fun x : Value × Nat => priceKey x.1) hord
  refine ⟨placed.mergeSort fun a b => priceKey a.1 ≤ priceKey b.1, fun x => ?_,
    hstable.imp priceBefore_iff.2, ?_⟩
  · rw [List.mem_mergeSort, hmem]
  · exact (List.map_mergeSort (f := Prod.fst) fun _ _ _ _ => rfl).symm

/-- Among documents that ascend by price, those with a property stand in order. -/
theorem arranged_filter_of_ascending {P : Value → Prop} {p : Value → Bool} {ds : List Value}
    (hp : ∀ d, p d = true ↔ P d) (h : ds.Pairwise fun a b => priceKey a ≤ priceKey b) :
    Arranged P PriceBefore ds (ds.filter p) := by
  have hsorted : sortByPrice (ds.filter p) = ds.filter p := by
    refine List.mergeSort_of_pairwise ((h.filter p).imp ?_)
    intro a b hab
    exact decide_eq_true hab
  rw [← hsorted]
  exact ((arranged_filter p ds).congr hp).sortByPrice

/-! ## Queries -/

namespace TicketQuery

/-- The order in which a query wants its documents. -/
def Before (q : TicketQuery) : Value × Nat → Value × Nat → Prop :=
  if q.sortByPrice then PriceBefore else PlaceBefore

instance (q : TicketQuery) : Std.Asymm q.Before := by
  unfold Before
  split <;> infer_instance

/-- The documents that the filter accepts, in the order of the query, from the first document of
the page on and as many as the page holds. -/
def IsSelection (q : TicketQuery) (ds out : List Value) : Prop :=
  ∃ all, Arranged (fun d => q.filter.accepts d = true) q.Before ds all ∧
    out = match q.page with
      | none => all
      | some page => (all.drop page.offset).take page.size.toNat

theorem arranged_arrange (q : TicketQuery) (ds : List Value) :
    Arranged (fun d => q.filter.accepts d = true) q.Before ds (q.arrange ds) := by
  unfold arrange Before
  by_cases h : q.sortByPrice
  · simp only [h, if_true]
    exact (arranged_filter _ ds).sortByPrice
  · simp only [h]
    exact arranged_filter _ ds

theorem select_eq (q : TicketQuery) (ds : List Value) :
    q.select ds = match q.page with
      | none => q.arrange ds
      | some page => ((q.arrange ds).drop page.offset).take page.size.toNat := by
  unfold select Page.cut
  cases q.page <;> rfl

/-- What is selected is one of the documents. -/
theorem mem_of_mem_select {q : TicketQuery} {ds : List Value} {d : Value} (h : d ∈ q.select ds) : d ∈ ds := by
  have harrange : d ∈ q.arrange ds := by
    rw [select_eq] at h
    cases hpage : q.page with
    | none =>
      rw [hpage] at h
      exact h
    | some page =>
      rw [hpage] at h
      exact List.mem_of_mem_drop (List.mem_of_mem_take h)
  exact ((q.arranged_arrange ds).mem_iff d).1 harrange |>.1

/-- A query has one selection. -/
theorem isSelection_iff (q : TicketQuery) (ds out : List Value) :
    q.IsSelection ds out ↔ out = q.select ds := by
  rw [select_eq]
  constructor
  · rintro ⟨all, hall, rfl⟩
    rw [hall.unique (q.arranged_arrange ds)]
  · rintro rfl
    exact ⟨q.arrange ds, q.arranged_arrange ds, rfl⟩

end TicketQuery

end BoxOffice
