import BoxOffice.Proofs.Store.Placeholders
import BoxOffice.Store.Memory
import BoxOffice.Store.Table
import Mathlib.Algebra.Order.Floor.Div

/-!
# Pages of a query

The pages of one size, put one after the other, are what the query selects without a page.

1. The pages up to a number are the beginning of a list (`Page.flatMap_cut`), and a page behind the end of the
   list is empty (`Page.cut_eq_nil_of_lt`).
2. The offset of a page fits a word of 64 bits, so that reckoning in words gives it (`Page.toNat_offsetWord`).
   Where it is taken down to a bound, nothing else is dropped from a list that is not longer than the bound
   (`drop_min_of_length_le`).
3. So the limit and the offset that are bound for the database cut the page that the store in memory
   cuts (`TicketQuery.PagedAlike`).
-/

namespace BoxOffice

open BoxOffice.Json

variable {α : Type} {items : List α}

/-- A bound on how much is dropped makes no difference to a list that is not longer. -/
theorem drop_min_of_length_le {k bound : Nat} (h : items.length ≤ bound) :
    items.drop (min k bound) = items.drop k := by
  by_cases hk : k ≤ bound
  · rw [Nat.min_eq_left hk]
  · rw [List.drop_eq_nil_of_le (by omega), List.drop_eq_nil_of_le (by omega)]

/-! ## Pages of a list -/

namespace Page

/-- A page of no items is empty. -/
theorem cut_of_size_zero (number : UInt32) : cut ⟨number, 0⟩ items = [] := List.take_zero

/-- Page zero is page one. -/
theorem cut_zero (size : UInt32) : cut ⟨0, size⟩ items = cut ⟨1, size⟩ items := rfl

/-- The page behind the first `k` pages has the items behind theirs. -/
theorem cut_succ {k : Nat} (hk : k + 1 < UInt32.size) (size : UInt32) :
    cut ⟨.ofNat (k + 1), size⟩ items = (items.drop (k * size.toNat)).take size.toNat := by
  have hnumber : (UInt32.ofNat (k + 1)).toNat = k + 1 := UInt32.toNat_ofNat_of_lt' hk
  unfold cut offset
  rw [hnumber, Nat.add_sub_cancel]

/-- The pages up to a number, one after the other, are as many items as fit them. -/
theorem flatMap_cut (size : UInt32) {count : Nat} (hcount : count < UInt32.size) :
    (List.range' 1 count).flatMap (fun k => cut ⟨.ofNat k, size⟩ items) =
      items.take (count * size.toNat) := by
  induction count with
  | zero => rw [Nat.zero_mul, List.take_zero]; rfl
  | succ k ih =>
    have hlast : 1 + 1 * k = k + 1 := by omega
    rw [List.range'_concat, List.flatMap_append, ih (by omega), List.flatMap_singleton, hlast, cut_succ hcount,
      Nat.succ_mul, List.take_add]

/-- A page is empty if the pages before it have all items. -/
theorem cut_eq_nil_of_le {p : Page} (h : items.length ≤ p.offset) : p.cut items = [] := by
  unfold cut
  rw [List.drop_eq_nil_of_le h, List.take_nil]

/-- Behind the last of the pages that it takes to hold all items, pages are empty. -/
theorem cut_eq_nil_of_lt {number size : UInt32} (hsize : 0 < size.toNat)
    (h : items.length ⌈/⌉ size.toNat < number.toNat) : cut ⟨number, size⟩ items = [] := by
  apply cut_eq_nil_of_le
  have hall : items.length ≤ size.toNat * (items.length ⌈/⌉ size.toNat) :=
    (ceilDiv_le_iff_le_mul hsize).1 (Nat.le_refl _)
  calc items.length ≤ size.toNat * (items.length ⌈/⌉ size.toNat) := hall
    _ ≤ size.toNat * (number.toNat - 1) := Nat.mul_le_mul_left _ (by omega)
    _ = (number.toNat - 1) * size.toNat := Nat.mul_comm _ _

/-! ## Offsets in words -/

/-- The offset of a page as it is reckoned in words: of 32 bits for the page before, of 64 bits for the
product. -/
def offsetWord (p : Page) : UInt64 :=
  (if p.number = 0 then 0 else p.number - 1).toUInt64 * p.size.toUInt64

/-- The offset does not wrap. -/
theorem toNat_offsetWord (p : Page) : p.offsetWord.toNat = p.offset := by
  have hnumber : (if p.number = 0 then 0 else p.number - 1).toNat = p.number.toNat - 1 := by
    split
    · next hzero => rw [hzero]; rfl
    · next hne =>
      have hpos : 0 < p.number.toNat := Nat.pos_of_ne_zero fun h => hne (UInt32.toNat_inj.1 h)
      apply UInt32.toNat_sub_of_le
      rw [UInt32.le_iff_toNat_le]
      exact hpos
  unfold offsetWord
  rw [UInt64.toNat_mul, UInt32.toNat_toUInt64, UInt32.toNat_toUInt64, hnumber]
  exact Nat.mod_eq_of_lt p.offset_lt

/-- The size of a page as a number of the database. -/
theorem toInt_size (p : Page) : (Int64.ofNat p.size.toNat).toInt = p.size.toNat := by
  have h := p.size.toNat_lt
  exact Int64.toInt_ofNat_of_lt (by omega)

/-- The offset of a page as a number of the database. -/
theorem toInt_boundedOffset (p : Page) : p.boundedOffset.toInt = min p.offset 9223372036854775807 := by
  have hbound : Int64.maxValue.toInt.toNat = 9223372036854775807 := by decide
  unfold boundedOffset
  rw [hbound, Int64.toInt_ofNat_of_lt (by omega)]

end Page

/-! ## Pages of a query -/

namespace TicketQuery

/-- The query for a page. -/
def paged (q : TicketQuery) (p : Page) : TicketQuery := { q with page := some p }

/-- The query for everything. -/
def unpaged (q : TicketQuery) : TicketQuery := { q with page := none }

theorem select_paged (q : TicketQuery) (p : Page) (ds : List Value) :
    (q.paged p).select ds = p.cut (q.unpaged.select ds) := rfl

/-- What the pages of a size hold, from the first one up to a number. -/
def selectPages (q : TicketQuery) (size count : UInt32) (ds : List Value) : List Value :=
  (List.range' 1 count.toNat).flatMap fun k => (q.paged ⟨.ofNat k, size⟩).select ds

/-- The pages of a size are the pieces of the selection: up to any number they are its beginning, and up to the
number of pages that it takes, they are all of it. Pages behind that are empty, and page zero is page one. -/
structure TiledBy (q : TicketQuery) (size : UInt32) (ds : List Value) : Prop where
  upTo (count : UInt32) :
    q.selectPages size count ds = (q.unpaged.select ds).take (count.toNat * size.toNat)
  whole (count : UInt32) (hcount : count.toNat = (q.unpaged.select ds).length ⌈/⌉ size.toNat) :
    q.selectPages size count ds = q.unpaged.select ds
  beyond (number : UInt32) (hnumber : (q.unpaged.select ds).length ⌈/⌉ size.toNat < number.toNat) :
    (q.paged ⟨number, size⟩).select ds = []
  zero : (q.paged ⟨0, size⟩).select ds = (q.paged ⟨1, size⟩).select ds

theorem tiledBy (q : TicketQuery) {size : UInt32} (hsize : 1 ≤ size) (ds : List Value) : q.TiledBy size ds := by
  have hpos : 0 < size.toNat := UInt32.le_iff_toNat_le.1 hsize
  have hupTo (count : UInt32) :
      q.selectPages size count ds = (q.unpaged.select ds).take (count.toNat * size.toNat) := by
    simp only [selectPages, select_paged]
    exact Page.flatMap_cut size count.toNat_lt
  refine ⟨hupTo, ?_, fun number hnumber => Page.cut_eq_nil_of_lt hpos hnumber, Page.cut_zero size⟩
  intro count hcount
  have hall := (ceilDiv_le_iff_le_mul hpos).1 (Nat.le_of_eq hcount.symm)
  rw [hupTo, List.take_of_length_le (by rw [Nat.mul_comm]; exact hall)]

/-! ## Pages in the database -/

/-- For a page, the database is bound two numbers more, and answers with the page of what it would answer
without. -/
structure PagedAlike (q : TicketQuery) (p : Page) (single : Bool) (table : List TableRow) : Prop where
  binds : ∃ size offset : Int64,
    ((q.paged p).toSelect single).statement.binds =
        (q.unpaged.toSelect single).statement.binds ++ [.bigint size, .bigint offset] ∧
      size.toInt = p.size.toNat ∧ offset.toInt = min p.offset 9223372036854775807
  answers (answer : List TableRow) : ((q.paged p).toSelect single).Answers table answer ↔
    ∃ whole, (q.unpaged.toSelect false).Answers table whole ∧ answer = p.cut whole

theorem binds_statement (q : TicketQuery) (single : Bool) :
    (q.toSelect single).statement.binds = q.bindings.map Prod.snd := (q.clauses single).filterMap_value?

/-- The limit of a page leaves the page, of a list whose places the database can number. -/
theorem cut_limit_paged (q : TicketQuery) (p : Page) (single : Bool) (hitems : items.length < 9223372036854775808) :
    ((q.paged p).limit single).cut items = p.cut items := by
  have hoffset : p.boundedOffset.toInt.toNat = min p.offset 9223372036854775807 := by
    rw [p.toInt_boundedOffset]
    omega
  show (items.drop p.boundedOffset.toInt.toNat).take (Int64.ofNat p.size.toNat).toInt.toNat = p.cut items
  rw [hoffset, p.toInt_size, Int.toNat_natCast, drop_min_of_length_le (by omega)]
  rfl

theorem pagedAlike (q : TicketQuery) (p : Page) (single : Bool) {table : List TableRow}
    (htable : table.length < 9223372036854775808) : q.PagedAlike p single table where
  binds := by
    refine ⟨Int64.ofNat p.size.toNat, p.boundedOffset, ?_, p.toInt_size, p.toInt_boundedOffset⟩
    rw [binds_statement, binds_statement]
    simp [bindings, paged, unpaged, Page.bindings]
  answers answer := by
    -- Without a page, the answer is any arrangement of the rows that are wanted.
    have hlength : ∀ {arranged : List TableRow},
        arranged.Perm (table.filter ((q.paged p).toSelect single).wants) →
          arranged.length < 9223372036854775808 := by
      intro arranged hperm
      calc arranged.length = (table.filter ((q.paged p).toSelect single).wants).length := hperm.length_eq
        _ ≤ table.length := List.length_filter_le _ _
        _ < 9223372036854775808 := htable
    constructor
    · rintro ⟨arranged, hperm, hord, rfl⟩
      exact ⟨arranged, ⟨arranged, hperm, hord, rfl⟩, q.cut_limit_paged p single (hlength hperm)⟩
    · rintro ⟨whole, ⟨arranged, hperm, hord, hwhole⟩, rfl⟩
      obtain rfl : whole = arranged := hwhole
      exact ⟨whole, hperm, hord, (q.cut_limit_paged p single (hlength hperm)).symm⟩

end TicketQuery

/-- The pages of a size are the pieces of what a query selects; pages of no size are empty. The offset of a page is
the same in words of 64 bits. Neither the greatest place of a list in memory nor the greatest number of the database
changes what is on a page, as long as all rows have a place. -/
theorem pages_tile_selection (q : TicketQuery) (size : UInt32) (hsize : 1 ≤ size) (ds : List Value) :
    q.TiledBy size ds ∧
      (∀ number, (q.paged ⟨number, 0⟩).select ds = []) ∧
      (∀ p : Page, p.offset ≤ 18446744073709551615 ∧ p.offsetWord.toNat = p.offset) ∧
      (∀ (p : Page) (places : Nat), (q.unpaged.select ds).length ≤ places →
        ((q.unpaged.select ds).drop (min p.offset places)).take p.size.toNat = (q.paged p).select ds) ∧
      ∀ (p : Page) (single : Bool) (table : List TableRow), table.length < 9223372036854775808 →
        q.PagedAlike p single table := by
  refine ⟨q.tiledBy hsize ds, fun number => Page.cut_of_size_zero number, fun p => ?_, ?_, ?_⟩
  · exact ⟨Nat.le_of_lt_succ p.offset_lt, p.toNat_offsetWord⟩
  · intro p places hplaces
    rw [drop_min_of_length_le hplaces]
    rfl
  · intro p single table htable
    exact q.pagedAlike p single htable

/-- Two pages of two hold three documents, and a third page none. -/
theorem pages_tile_three_documents :
    let priced (price : Int64) : Value := .object [("ticketPrice", .int64 price)]
    let q : TicketQuery := ⟨.offlineByCountryEvent, .ofChannel .offline, true, none⟩
    let ds := [priced 10, priced 20, priced 30]
    1 ≤ (2 : UInt32) ∧ q.selectPages 2 2 ds = ds ∧ (q.paged ⟨3, 2⟩).select ds = [] := by
  intro priced q ds
  have hsorted : ds.Pairwise fun a b => decide (priceKey a ≤ priceKey b) = true := by decide
  have hselect : q.unpaged.select ds = ds := List.mergeSort_of_pairwise hsorted
  have hpages : (q.unpaged.select ds).length ⌈/⌉ (2 : UInt32).toNat = 2 := by rw [hselect]; decide
  have htiled := (pages_tile_selection q 2 (by decide) ds).1
  exact ⟨by decide, (htiled.whole 2 hpages.symm).trans hselect, htiled.beyond 3 (by rw [hpages]; decide)⟩

end BoxOffice
