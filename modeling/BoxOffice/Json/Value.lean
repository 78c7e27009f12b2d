import BoxOffice.Number.Double

/-!
# JSON values

A document is a `Value`. Whole numbers that fit 64 bits, signed or unsigned, are kept exactly; every other
number is a double. The members of an object stand in a list: in ascending order of their names, each name
once, wherever a value was read (`Value.ordered`), and in the order of writing where one is about to be
printed.
-/

namespace BoxOffice.Json

open BoxOffice.Number

/-- A whole number that fits 64 bits, signed or unsigned. -/
structure Whole where
  val : Int
  lower : -9223372036854775808 ≤ val
  upper : val < 18446744073709551616
  deriving Repr, DecidableEq

/-- The whole number of a given value, if there is one. -/
def Whole.ofInt? (n : Int) : Option Whole :=
  if h : -9223372036854775808 ≤ n ∧ n < 18446744073709551616 then some ⟨n, h.1, h.2⟩ else none

/-- A signed 64-bit integer as a whole number. -/
def Whole.ofInt64 (n : Int64) : Whole :=
  ⟨n.toInt, n.le_toInt, Int.lt_trans n.toInt_lt (by decide)⟩

/-- An unsigned 64-bit integer as a whole number. -/
def Whole.ofUInt64 (n : UInt64) : Whole :=
  ⟨n.toNat, by omega, by have := n.toNat_lt; omega⟩

/-- The signed 64-bit integer of the same value, if there is one. -/
def Whole.int64? (n : Whole) : Option Int64 :=
  if n.val < 9223372036854775808 then some (Int64.ofInt n.val) else none

@[simp] theorem Whole.int64?_ofInt64 (n : Int64) : (Whole.ofInt64 n).int64? = some n := by
  have h := n.toInt_lt
  rw [Whole.int64?, Whole.ofInt64, if_pos (show n.toInt < 9223372036854775808 by omega), Int64.ofInt_toInt]

theorem Whole.int64?_eq_some_iff {n : Whole} {i : Int64} : n.int64? = some i ↔ n = .ofInt64 i := by
  constructor
  · intro h
    unfold int64? at h
    split at h
    · next hupper =>
      cases h
      have hval : (Int64.ofInt n.val).toInt = n.val := Int64.toInt_ofInt_of_le n.lower hupper
      unfold ofInt64
      simp only [hval]
    · cases h
  · rintro rfl
    exact int64?_ofInt64 i

/-- A JSON number. -/
inductive Number where
  | whole (n : Whole)
  | real (x : Double)
  deriving Repr, DecidableEq

/-- A JSON value. -/
inductive Value where
  | null
  | bool (b : Bool)
  | number (n : Number)
  | string (s : String)
  | array (items : List Value)
  | object (members : List (String × Value))
  deriving Repr, Inhabited, BEq

namespace Value

/-- A signed 64-bit integer as a value. -/
def int64 (n : Int64) : Value := .number (.whole (.ofInt64 n))

/-- A text that may be missing. -/
def optionalString : Option String → Value
  | some s => .string s
  | none => .null

/-- The text of a string. -/
def string? : Value → Option String
  | .string s => some s
  | _ => none

/-- The integer of a whole number that fits signed 64 bits. -/
def int64? : Value → Option Int64
  | .number (.whole n) => n.int64?
  | _ => none

theorem int64?_eq_some_iff {v : Value} {i : Int64} : v.int64? = some i ↔ v = .int64 i := by
  unfold int64
  cases v with
  | number n => cases n <;> simp [int64?, Whole.int64?_eq_some_iff]
  | _ => simp [int64?]

/-- The value of a member; nothing for a value that is no object. -/
def get? (v : Value) (name : String) : Option Value :=
  match v with
  | .object members => members.lookup name
  | _ => none

@[simp] theorem get?_object (ms : List (String × Value)) (name : String) :
    (object ms).get? name = ms.lookup name := rfl

/-- The text of a member that is a string. -/
def stringAt? (v : Value) (name : String) : Option String := (v.get? name).bind string?

end Value

/-- Puts a member into a list of members that ascends by name. A member of the same name is replaced. -/
def insertMember (name : String) (v : Value) : List (String × Value) → List (String × Value)
  | [] => [(name, v)]
  | (k, w) :: rest =>
    if name = k then (name, v) :: rest
    else if name < k then (name, v) :: (k, w) :: rest
    else (k, w) :: insertMember name v rest

/-- Members in ascending order of their names. Of members with one name the last is kept. -/
def orderMembers (members : List (String × Value)) : List (String × Value) :=
  members.foldl (fun ordered m => insertMember m.1 m.2 ordered) []

mutual

/-- The same value with the members of every object in ascending order. -/
def Value.ordered : Value → Value
  | .array items => .array (orderedItems items)
  | .object members => .object (orderMembers (orderedMembers members))
  | v => v

/-- `Value.ordered` for each item. -/
def orderedItems : List Value → List Value
  | [] => []
  | v :: vs => v.ordered :: orderedItems vs

/-- `Value.ordered` for the value of each member. -/
def orderedMembers : List (String × Value) → List (String × Value)
  | [] => []
  | (name, v) :: rest => (name, v.ordered) :: orderedMembers rest

end

end BoxOffice.Json
