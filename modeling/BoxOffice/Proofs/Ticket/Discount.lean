import BoxOffice.Proofs.Text.Numeral
import BoxOffice.Ticket.View
import Mathlib.Data.Rat.Floor

/-!
# Prices and discounts

Whatever price of 64 bits a ticket has, what is left of it after the discount is exact, and what buyers are
shown can be read back.

1. A part of a whole number in hundredths, rounded down, lies between the number and zero
   (`between_hundredths`). So it fits the bits of the price, and the product before it fits 128 bits
   (`discountedPrice_toInt`, `keptProduct_toInt`).
2. Under the standard policy it is the floor of four fifths (`discountedPrice_eq_floor`), and no dearer ticket
   costs less (`discountedPrice_mono`).
3. A price that is written is read back (`shownPrice?_formatPrice`), so that the law holds between the two texts
   of a suggestion (`discounts_are_floors`).
-/

namespace BoxOffice

open BoxOffice.Text AvailabilityPolicy

/-! ## Hundredths -/

/-- A part in hundredths, rounded down, lies between the number and zero. -/
theorem between_hundredths {n keep : Int} (hpos : 0 ≤ keep) (hle : keep ≤ 100) :
    min n 0 ≤ n * keep / 100 ∧ n * keep / 100 ≤ max n 0 := by
  rcases Int.le_total 0 n with hn | hn
  · have hlower : 0 ≤ n * keep := Int.mul_nonneg hn hpos
    have hupper : n * keep ≤ n * 100 := Int.mul_le_mul_of_nonneg_left hle hn
    omega
  · have hupper : n * keep ≤ 0 := Int.mul_nonpos_of_nonpos_of_nonneg hn hpos
    have hlower : n * 100 ≤ n * keep := Int.mul_le_mul_of_nonpos_left hn hle
    omega

section Policy

variable {p : AvailabilityPolicy} {price dearer : Int64}

/-- The product that the discount is made of, in words of 128 bits. -/
def keptProduct (p : AvailabilityPolicy) (price : Int64) : BitVec 128 :=
  BitVec.ofInt 128 price.toInt * BitVec.ofInt 128 (100 - p.discountPercent)

/-- The product does not leave its bits. -/
theorem keptProduct_toInt (hpercent : p.discountPercent ≤ 100) (price : Int64) :
    (keptProduct p price).toInt = price.toInt * (100 - p.discountPercent) := by
  have hlower := price.le_toInt
  have hupper := price.toInt_lt
  generalize hkeep : (100 - p.discountPercent : Int) = keep
  obtain ⟨hmin, hmax⟩ : min price.toInt 0 ≤ price.toInt * keep / 100 ∧ price.toInt * keep / 100 ≤ max price.toInt 0 :=
    between_hundredths (by omega) (by omega)
  unfold keptProduct
  rw [BitVec.toInt_mul, BitVec.toInt_ofInt, BitVec.toInt_ofInt, hkeep,
    Int.bmod_eq_of_le_mul_two (x := price.toInt) (by omega) (by omega),
    Int.bmod_eq_of_le_mul_two (x := keep) (by omega) (by omega),
    Int.bmod_eq_of_le_mul_two (by omega) (by omega)]

/-- Nor does what is left after the discount. -/
theorem discountedPrice_toInt (hpercent : p.discountPercent ≤ 100) (price : Int64) :
    (p.discountedPrice price).toInt = price.toInt * (100 - p.discountPercent) / 100 := by
  have hlower := price.le_toInt
  have hupper := price.toInt_lt
  obtain ⟨hmin, hmax⟩ : min price.toInt 0 ≤ price.toInt * (100 - p.discountPercent) / 100 ∧
      price.toInt * (100 - p.discountPercent) / 100 ≤ max price.toInt 0 := between_hundredths (by omega) (by omega)
  exact Int64.toInt_ofInt_of_le (by omega) (by omega)

theorem discountedPrice_between (hpercent : p.discountPercent ≤ 100) (price : Int64) :
    min price.toInt 0 ≤ (p.discountedPrice price).toInt ∧
      (p.discountedPrice price).toInt ≤ max price.toInt 0 := by
  rw [discountedPrice_toInt hpercent]
  exact between_hundredths (by omega) (by omega)

theorem discountedPrice_mono (hpercent : p.discountPercent ≤ 100) (h : price ≤ dearer) :
    p.discountedPrice price ≤ p.discountedPrice dearer := by
  rw [Int64.le_iff_toInt_le] at h ⊢
  rw [discountedPrice_toInt hpercent, discountedPrice_toInt hpercent]
  have hproduct : price.toInt * (100 - p.discountPercent) ≤ dearer.toInt * (100 - p.discountPercent) :=
    Int.mul_le_mul_of_nonneg_right h (by omega)
  exact Int.ediv_le_ediv (by decide) hproduct

end Policy

/-! ## The standard policy -/

theorem standard_discountPercent_le : standard.discountPercent ≤ 100 := by decide

theorem discountedPrice_eq_floor (price : Int64) :
    (standard.discountedPrice price).toInt = ⌊(4 / 5 : ℚ) * price.toInt⌋ := by
  have hfifths : (4 / 5 : ℚ) * price.toInt = ((4 * price.toInt : ℤ) : ℚ) / ((5 : ℕ) : ℚ) := by
    push_cast
    ring
  rw [hfifths, Rat.floor_intCast_div_natCast, discountedPrice_toInt standard_discountPercent_le]
  simp only [standard]
  omega

/-- What the standard discount makes of a price: the floor of four fifths of it, with neither the product nor the
narrowed quotient out of range. -/
structure DiscountLaw (price : Int64) : Prop where
  product : (keptProduct standard price).toInt = price.toInt * 80
  narrowed : (standard.discountedPrice price).toInt = (keptProduct standard price).toInt / 100
  floor : (standard.discountedPrice price).toInt = ⌊(4 / 5 : ℚ) * price.toInt⌋
  lower : min price.toInt 0 ≤ (standard.discountedPrice price).toInt
  upper : (standard.discountedPrice price).toInt ≤ max price.toInt 0
  mono : ∀ dearer, price ≤ dearer → standard.discountedPrice price ≤ standard.discountedPrice dearer

theorem discountLaw (price : Int64) : DiscountLaw price where
  product := keptProduct_toInt standard_discountPercent_le price
  narrowed := by
    rw [keptProduct_toInt standard_discountPercent_le, discountedPrice_toInt standard_discountPercent_le]
  floor := discountedPrice_eq_floor price
  lower := (discountedPrice_between standard_discountPercent_le price).1
  upper := (discountedPrice_between standard_discountPercent_le price).2
  mono _ h := discountedPrice_mono standard_discountPercent_le h

/-! ## Texts -/

/-- The integer in a price as buyers see it. -/
def shownPrice? (text : String) : Option Int64 :=
  match text.toList with
  | '$' :: numeral => int64Of? numeral
  | _ => none

theorem shownPrice?_formatPrice (price : Int64) : shownPrice? (formatPrice price) = some price := by
  unfold shownPrice? formatPrice
  rw [String.toList_ofList]
  exact int64Of?_intChars price

theorem formatPrice_injective : Function.Injective formatPrice := by
  intro price price' h
  have hshown := congrArg shownPrice? h
  rw [shownPrice?_formatPrice, shownPrice?_formatPrice] at hshown
  exact Option.some.inj hshown

/-- The two prices in a suggestion can be read, and the one is the floor of four fifths of the other. -/
def SuggestionView.Discounts (v : SuggestionView) : Prop :=
  ∃ normal discounted : Int64, shownPrice? v.normalTicketPrice = some normal ∧
    shownPrice? v.discountTicketPrice = some discounted ∧
    discounted.toInt = ⌊(4 / 5 : ℚ) * normal.toInt⌋

theorem discounts_ofRecord (r : TicketRecord) : (SuggestionView.ofRecord standard r).Discounts :=
  ⟨r.price, standard.discountedPrice r.price, shownPrice?_formatPrice _, shownPrice?_formatPrice _,
    discountedPrice_eq_floor r.price⟩

/-- The discounted prices in a list of suggestions can be read, and none is less than one before it. -/
def AscendingDiscounts (views : List SuggestionView) : Prop :=
  ∃ discounted : List Int64,
    List.Forall₂ (fun v price => shownPrice? v.discountTicketPrice = some price) views discounted ∧
      discounted.Pairwise (· ≤ ·)

theorem ascendingDiscounts_of_ascending {rs : List TicketRecord}
    (h : rs.Pairwise fun a b => a.price ≤ b.price) :
    AscendingDiscounts (rs.map (SuggestionView.ofRecord standard)) := by
  refine ⟨rs.map fun r => standard.discountedPrice r.price, ?_, ?_⟩
  · rw [List.forall₂_map_left_iff, List.forall₂_map_right_iff, List.forall₂_same]
    intro r _
    exact shownPrice?_formatPrice _
  · rw [List.pairwise_map]
    exact h.imp fun hle => discountedPrice_mono standard_discountPercent_le hle

/-- Over the whole range of prices the standard discount is the floor of four fifths, and prices are read back
as they were written. So the same holds between the texts of a suggestion, and suggestions in the order of their
prices are in the order of what they cost. -/
theorem discounts_are_floors :
    (∀ price, DiscountLaw price) ∧ Function.Injective formatPrice ∧
      (∀ price, shownPrice? (formatPrice price) = some price) ∧
      (∀ r, (SuggestionView.ofRecord standard r).Discounts) ∧
      ∀ rs : List TicketRecord, (rs.Pairwise fun a b => a.price ≤ b.price) →
        AscendingDiscounts (rs.map (SuggestionView.ofRecord standard)) :=
  ⟨discountLaw, formatPrice_injective, shownPrice?_formatPrice, discounts_ofRecord,
    fun _ => ascendingDiscounts_of_ascending⟩

/-- Tickets at the ends of the range and around zero are suggested in the order of their prices. -/
theorem discounts_of_whole_range :
    let record (price : Int64) : TicketRecord := {
      ticketId := ⟨"t-range", by decide, trimmed_of_ends rfl rfl rfl rfl⟩
      eventId := ⟨"e-range", by decide, trimmed_of_ends rfl rfl rfl rfl⟩
      ticketType := "CAT 2"
      price
      totalQuota := 10
      totalRemaining := 5
      continent := ⟨"Asia", "AS"⟩
      country := ⟨"Japan", ⟨"JP", by decide, trimmed_of_ends rfl rfl rfl rfl⟩, "", ""⟩
      tag := ⟨"cat-2", by decide, trimmed_of_ends rfl rfl rfl rfl⟩
      createdAt := none
      updatedAt := none }
    let rs := [Int64.minValue, -1, 0, 1, Int64.maxValue].map record
    (rs.Pairwise fun a b => a.price ≤ b.price) ∧
      AscendingDiscounts (rs.map (SuggestionView.ofRecord standard)) := by
  intro record rs
  have hascending : rs.Pairwise fun a b => a.price ≤ b.price := by decide
  obtain ⟨-, -, -, -, hlist⟩ := discounts_are_floors
  exact ⟨hascending, hlist rs hascending⟩

/-- What is left at the ends of the range and around zero. -/
example : [Int64.minValue, -1, 0, 1, Int64.maxValue].map standard.discountedPrice =
    [-7378697629483820647, -1, 0, 0, 7378697629483820645] := by decide

end BoxOffice
