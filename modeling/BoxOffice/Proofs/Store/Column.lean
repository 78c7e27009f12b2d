import BoxOffice.Proofs.Text.Numeral
import BoxOffice.Proofs.Ticket.Document
import BoxOffice.Store.Table

/-!
# Columns of documents

A database reads the members of a document as texts, and as numbers that are written in texts; a
missing member makes a condition unknown. In memory the members are values. On the document of a
record both see the same: its identifiers and its type are strings, its price and its stock are
numbers of 64 bits, and a country that is written as an array has a code for neither.
-/

namespace BoxOffice

open BoxOffice.Json BoxOffice.Text

variable {d v : Value} {r : TicketRecord} {name : String}

/-! ## Texts -/

theorem columnTextAt?_of_stringAt? {s : String} (h : d.stringAt? name = some s) :
    columnTextAt? d name = some s := by
  obtain ⟨v, hv, hs⟩ := Option.bind_eq_some_iff.1 h
  unfold columnTextAt?
  rw [hv, Option.bind_some]
  cases v <;> cases hs
  rfl

/-- The members of a document that a record is looked up by as texts. -/
def textMembers : List String := ["ticketType", "eventId", "tag"]

/-- The texts that a record is looked up by are strings. -/
theorem exists_stringAt_of_ofValue (h : TicketRecord.ofValue d = .ok r)
    (hname : name ∈ textMembers) : ∃ s, d.stringAt? name = some s := by
  obtain ⟨ms, rfl, hr⟩ := TicketRecord.exists_readFrom h
  have member {v : Value} {s : String} (hv : ms.lookup name = some v) (hs : v.string? = some s) :
      ∃ s, (Value.object ms).stringAt? name = some s :=
    ⟨s, Option.bind_eq_some_iff.2 ⟨v, hv, hs⟩⟩
  simp only [textMembers, List.mem_cons, List.not_mem_nil, or_false] at hname
  rcases hname with rfl | rfl | rfl
  · obtain ⟨v, hv, htext⟩ := hr.ticketType
    exact member hv (Node.textAs_ofValue_eq_ok_iff.1 htext)
  · obtain ⟨v, hv, hid⟩ := hr.eventId
    obtain ⟨s, hs, -⟩ := Node.id_ofValue_eq_ok_iff.1 hid
    exact member hv hs
  · obtain ⟨v, hv, hid⟩ := hr.tag
    obtain ⟨s, hs, -⟩ := Node.id_ofValue_eq_ok_iff.1 hid
    exact member hv hs

theorem columnTextAt?_of_ofValue (h : TicketRecord.ofValue d = .ok r)
    (hname : name ∈ textMembers) :
    columnTextAt? d name = d.stringAt? name := by
  obtain ⟨s, hs⟩ := exists_stringAt_of_ofValue h hname
  rw [hs, columnTextAt?_of_stringAt? hs]

/-- The code of a country is a string in an object, and nowhere in an array. -/
theorem columnTextAt?_code_of_decode {c : Country} (h : Country.decode (.ofValue v) = .ok c) :
    columnTextAt? v "code" = v.stringAt? "code" := by
  cases v with
  | object ms =>
    obtain ⟨s, hs, -⟩ := Country.exists_stringAt_code h
    rw [hs, columnTextAt?_of_stringAt? hs]
  | null => rfl
  | bool b => rfl
  | number n => rfl
  | string s => rfl
  | array items => rfl

theorem columnCountryCode_of_ofValue (h : TicketRecord.ofValue d = .ok r) :
    (d.get? "country").bind (columnTextAt? · "code") = countryCodeAt? d := by
  obtain ⟨ms, rfl, hr⟩ := TicketRecord.exists_readFrom h
  obtain ⟨v, hv, hdec⟩ := hr.country
  unfold countryCodeAt?
  rw [Value.get?_object, hv]
  exact columnTextAt?_code_of_decode hdec

/-! ## Numbers -/

theorem columnText?_of_int64? {i : Int64} (h : v.int64? = some i) :
    columnText? v = some (intText i.toInt) := by
  rcases v with _ | _ | (n | x) | _ | _ | _ <;> try cases h
  have hval : n.val = i.toInt := by
    simp only [Value.int64?, Whole.int64?] at h
    split at h
    · cases h
      have := n.lower
      exact (Int64.toInt_ofInt_of_le (by omega) (by omega)).symm
    · cases h
  show some (intText n.val) = _
  rw [hval]

/-- A number of 64 bits is read from its text. -/
theorem columnBigintAt?_of_int64? {i : Int64} (h : (d.get? name).bind Value.int64? = some i) :
    columnBigintAt? d name = some i := by
  obtain ⟨v, hv, hi⟩ := Option.bind_eq_some_iff.1 h
  unfold columnBigintAt? columnTextAt?
  rw [hv, Option.bind_some, columnText?_of_int64? hi, Option.bind_some]
  unfold intText
  rw [String.toList_ofList, int64Of?_intChars]

/-! ## Conditions -/

/-- Whether a condition holds of a document that is looked at in memory. -/
def Condition.holds (d : Value) : Condition → Bool
  | .soldOffline => Channel.offline.admits (d.stringAt? "ticketType")
  | .soldOnline => Channel.online.admits (d.stringAt? "ticketType")
  | .inCountry code => countryCodeAt? d == some code.text
  | .atEvent event => d.stringAt? "eventId" == some event.text
  | .tagged tag => d.stringAt? "tag" == some tag.text
  | .inStock => (remainingAt? d).any (0 < ·)

theorem all_toList_map {α β : Type} (o : Option α) (f : α → β) (p : β → Bool) :
    (o.map f).toList.all p = o.all fun a => p (f a) := by
  cases o <;> simp

/-- A filter accepts the documents of which its conditions hold. -/
theorem all_holds_eq_accepts (f : TicketFilter) (d : Value) :
    (f.conditions.all fun c => c.holds d) = f.accepts d := by
  have hchannel : f.channel.condition.holds d = f.channel.admits (d.stringAt? "ticketType") := by
    cases f.channel <;> rfl
  have hstock : ((if f.availableOnly then [Condition.inStock] else []).all fun c => c.holds d) =
      (!f.availableOnly || (remainingAt? d).any (0 < ·)) := by
    cases f.availableOnly <;> simp [Condition.holds]
  unfold TicketFilter.conditions TicketFilter.accepts
  simp only [List.all_append, all_toList_map, hchannel, hstock, List.all_cons, List.all_nil,
    Bool.and_true]
  rfl

/-- A comparison with an unknown text is not true. -/
theorem map_beq_eq_some_true (o : Option String) (s : String) :
    (o.map (· == s) == some true) = (o == some s) := by
  cases o <;> simp

/-- On the document of a record a condition is true if and only if it holds. -/
theorem truth_eq_holds (h : TicketRecord.ofValue d = .ok r) (c : Condition) :
    (c.truth d == some true) = c.holds d := by
  cases c with
  | soldOffline =>
    obtain ⟨s, hs⟩ := exists_stringAt_of_ofValue h (show "ticketType" ∈ textMembers by decide)
    simp [Condition.truth, Condition.holds, Channel.admits, columnTextAt?_of_stringAt? hs, hs, bne]
  | soldOnline =>
    have htext := columnTextAt?_of_ofValue h (show "ticketType" ∈ textMembers by decide)
    simp only [Condition.truth, htext, map_beq_eq_some_true]
    rfl
  | inCountry code =>
    simp only [Condition.truth, columnCountryCode_of_ofValue h, map_beq_eq_some_true]
    rfl
  | atEvent event =>
    have htext := columnTextAt?_of_ofValue h (show "eventId" ∈ textMembers by decide)
    simp only [Condition.truth, htext, map_beq_eq_some_true]
    rfl
  | tagged tag =>
    have htext := columnTextAt?_of_ofValue h (show "tag" ∈ textMembers by decide)
    simp only [Condition.truth, htext, map_beq_eq_some_true]
    rfl
  | inStock =>
    have hrem := remainingAt?_of_ofValue h
    simp [Condition.truth, Condition.holds, columnBigintAt?_of_int64? hrem, hrem]

/-- On the document of a record a select wants what the filter accepts. -/
theorem wants_eq_accepts {row : TableRow} (h : TicketRecord.ofValue row.document = .ok r)
    (q : TicketQuery) (single : Bool) : (q.toSelect single).wants row = q.filter.accepts row.document := by
  rw [← all_holds_eq_accepts]
  unfold Select.wants
  simp only [truth_eq_holds h]
  rfl

end BoxOffice
