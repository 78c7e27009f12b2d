import BoxOffice.Json.Printer
import BoxOffice.Store.Sql

/-!
# Tables of documents

What a `Select` answers on a table, clause by clause.

1. A text that a document does not have is unknown, and so is every comparison with it (`Condition.truth`). A row
   is wanted where all conditions are true.
2. Rows are numbered in the order of insertion. A select by price orders rows of one price by their
   numbers (`TableRow.Before`); rows that are not ordered may come in any order.
3. `Select.Answers` tells which lists of rows may be the answer.
-/

namespace BoxOffice

open BoxOffice.Json BoxOffice.Text

/-! ## Values of documents -/

/-- A JSON value as a text: a string without its quotes, and any other value as it is written. Null is no
text. -/
def columnText? : Value → Option String
  | .null => none
  | .string s => some s
  | v => some v.text

/-- The text of a member of a document. -/
def columnTextAt? (d : Value) (name : String) : Option String := (d.get? name).bind columnText?

/-- The number that the text of a member of a document denotes. -/
def columnBigintAt? (d : Value) (name : String) : Option Int64 :=
  (columnTextAt? d name).bind fun s => int64Of? s.toList

/-! ## Conditions -/

/-- What a condition is on a document; `none` is unknown. -/
def Condition.truth (d : Value) : Condition → Option Bool
  | .soldOffline => some ((columnTextAt? d "ticketType").getD "" != onlineTicketType)
  | .soldOnline => (columnTextAt? d "ticketType").map (· == onlineTicketType)
  | .inCountry code => ((d.get? "country").bind (columnTextAt? · "code")).map (· == code.text)
  | .atEvent event => (columnTextAt? d "eventId").map (· == event.text)
  | .tagged tag => (columnTextAt? d "tag").map (· == tag.text)
  | .inStock => (columnBigintAt? d "totalRemaining").map fun n => decide (0 < n)

/-! ## Rows -/

/-- A row of a table. -/
structure TableRow where
  number : Nat
  document : Value

/-- The table of documents that were inserted one after another. -/
def tableOf (ds : List Value) : List TableRow := ds.zipIdx.map fun (d, n) => ⟨n, d⟩

/-- A row may stand before another: ascending price, then ascending number; rows without a price stand
last. -/
def TableRow.Before (a b : TableRow) : Prop :=
  match columnBigintAt? a.document "ticketPrice", columnBigintAt? b.document "ticketPrice" with
  | some p, some q => p < q ∨ p = q ∧ a.number ≤ b.number
  | some _, none => True
  | none, some _ => False
  | none, none => a.number ≤ b.number

/-- The items that a limit leaves. -/
def RowLimit.cut {α : Type} (items : List α) : RowLimit → List α
  | .all => items
  | .first => items.take 1
  | .page size offset => (items.drop offset.toInt.toNat).take size.toInt.toNat

/-! ## Answers -/

namespace Select

/-- All conditions are true on a row. -/
def wants (s : Select) (r : TableRow) : Bool :=
  s.conditions.all fun c => c.truth r.document == some true

/-- A list of rows may be the answer of a select on a table. -/
def Answers (s : Select) (table answer : List TableRow) : Prop :=
  ∃ arranged : List TableRow, arranged.Perm (table.filter s.wants) ∧
    (s.byPrice = true → arranged.Pairwise TableRow.Before) ∧ answer = s.limit.cut arranged

end Select

end BoxOffice
