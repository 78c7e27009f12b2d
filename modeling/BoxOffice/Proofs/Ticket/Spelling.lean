import BoxOffice.Proofs.Json.Layout
import BoxOffice.Proofs.Json.Order
import BoxOffice.Proofs.Ticket.Document

/-!
# The spelling of a record

Which record a value decodes as.

1. `TicketRecord.SpelledIn` says of a record and the members of an object that each field is what its member
   says, and `Country.SpelledBy` says it of a country, which may be written as an array as well.
2. `TicketRecord.decode_eq_ok_iff`: a value without faults decodes as the record that is spelled in it.
-/

namespace BoxOffice

open BoxOffice.Json BoxOffice.Text BoxOffice.Time

/-! ## Identifiers -/

namespace Id

variable {kind : IdKind} {s : String} {a : Id kind}

theorem parse_eq_ok_iff : Id.parse kind s = .ok a ↔ a.text = trim s := by
  refine ⟨text_of_parse, fun h => ?_⟩
  have hne : trimChars s.toList ≠ [] := by
    rw [← toList_trim, ← h]
    exact a.ne_nil
  rw [parse, dif_neg hne]
  exact congrArg Except.ok (ext_text h.symm)

/-- An identifier is left of a text with a character that is not blank, and of no other one. -/
theorem exists_text_eq_trim_iff : (∃ a : Id kind, a.text = trim s) ↔ ∃ c ∈ s.toList, isBlank c = false := by
  have hblank : (∃ c ∈ s.toList, isBlank c = false) ↔ trimChars s.toList ≠ [] := by
    rw [ne_eq, trimChars_eq_nil_iff]
    simp
  rw [hblank]
  constructor
  · rintro ⟨a, ha⟩
    rw [← toList_trim, ← ha]
    exact a.ne_nil
  · intro hne
    exact ⟨⟨trim s, by simpa using hne, by simpa using trimmed_trimChars s.toList⟩, rfl⟩

end Id

/-! ## What single fields are spelled by -/

/-- An identifier stands in a string, with blanks at its ends perhaps. -/
def Id.SpelledBy {kind : IdKind} (a : Id kind) (o : Option Value) : Prop :=
  ∃ s, o = some (.string s) ∧ a.text = trim s

/-- A text that may be missing is empty then. -/
def TextSpelledBy (s : String) (o : Option Value) : Prop := o = none ∧ "" = s ∨ o = some (.string s)

/-- A moment stands in a string; without one the member is missing or null. -/
def MomentSpelledBy (t : Option Timestamp) (o : Option Value) : Prop :=
  (o = none ∨ o = some .null) ∧ none = t ∨
    ∃ s u, o = some (.string s) ∧ Timestamp.read s = .ok u ∧ some u = t

section Single

variable {node : Value → Node} (h : PlainReading node) {found : Fields} {ms : List (String × Value)} {name : String}
  (hlookup : found.lookup name = (ms.lookup name).map node)

include h hlookup

theorem get_text_iff {s : String} : found.get name Node.text = .ok s ↔ ms.lookup name = some (.string s) := by
  simp only [get_eq_ok_iff hlookup, h.text_eq_ok_iff, exists_eq_right]

theorem get_int64_iff {i : Int64} : found.get name Node.int64 = .ok i ↔ ms.lookup name = some (.int64 i) := by
  simp only [get_eq_ok_iff hlookup, h.int64_eq_ok_iff, Value.int64?_eq_some_iff, exists_eq_right]

theorem get_id_iff {kind : IdKind} {a : Id kind} :
    found.get name (Node.id kind) = .ok a ↔ a.SpelledBy (ms.lookup name) := by
  simp only [get_eq_ok_iff hlookup, h.id_eq_ok_iff, Id.parse_eq_ok_iff]
  constructor
  · rintro ⟨_, hv, s, rfl, hs⟩
    exact ⟨s, hv, hs⟩
  · rintro ⟨s, hv, hs⟩
    exact ⟨_, hv, s, rfl, hs⟩

theorem getD_text_iff {s : String} :
    found.getD name Node.text "" = .ok s ↔ TextSpelledBy s (ms.lookup name) := by
  simp only [getD_eq_ok_iff hlookup, h.text_eq_ok_iff, exists_eq_right, TextSpelledBy]

theorem getD_moment_iff {t : Option Timestamp} :
    found.getD name (Node.optional Node.timestamp) none = .ok t ↔ MomentSpelledBy t (ms.lookup name) := by
  have hnull : ∀ a, Node.timestamp .null ≠ .ok a := by simp [Node.timestamp, Node.textAs, bind_eq_ok_iff]
  simp only [getD_eq_ok_iff hlookup, h.optional_eq_ok_iff hnull, h.timestamp_eq_ok_iff]
  constructor
  · rintro (⟨hv, ht⟩ | ⟨_, hv, ⟨rfl, ht⟩ | ⟨u, ⟨s, rfl, hread⟩, ht⟩⟩)
    · exact .inl ⟨.inl hv, ht⟩
    · exact .inl ⟨.inr hv, ht⟩
    · exact .inr ⟨s, u, hv, hread, ht⟩
  · rintro (⟨hv | hv, ht⟩ | ⟨s, u, hv, hread, ht⟩)
    · exact .inl ⟨hv, ht⟩
    · exact .inr ⟨_, hv, .inl ⟨rfl, ht⟩⟩
    · exact .inr ⟨_, hv, .inr ⟨u, ⟨s, rfl, hread⟩, ht⟩⟩

end Single

/-! ## Countries -/

/-- The names of the members of a country. -/
def Country.names : List String := Country.schema.map Field.name

/-- The fields of a country are what the members say. -/
structure Country.SpelledIn (c : Country) (ms : List (String × Value)) : Prop where
  name : ms.lookup "name" = some (.string c.name)
  code : c.code.SpelledBy (ms.lookup "code")
  city : TextSpelledBy c.city (ms.lookup "city")
  place : TextSpelledBy c.place (ms.lookup "place")

/-- A country is what an object, or an array of the members in turn, says. -/
def Country.SpelledBy (c : Country) (v : Value) : Prop := ∃ ms, LaidOut Country.names v ms ∧ c.SpelledIn ms

theorem Country.nodup_names : Country.names.Nodup := by decide

/-- Each field admits what spells the country. -/
theorem Country.SpelledIn.admits {node : Value → Node} (h : PlainReading node) {ms : List (String × Value)}
    {c : Country} (hc : c.SpelledIn ms) : ∀ f ∈ schema, f.Admits node (ms.lookup f.name) := by
  -- The fields are read from the members as they stand, which is what each field admits.
  have hlookup : ∀ name, List.lookup name (ms.map fun m => (m.1, node m.2)) = (ms.lookup name).map node :=
    lookup_map node ms
  simp only [schema, List.forall_mem_cons, List.not_mem_nil, false_imp_iff, implies_true, and_true]
  exact ⟨Field.admits_of_get (hlookup _) ((get_text_iff h (hlookup _)).2 hc.name),
    Field.admits_of_get (hlookup _) ((get_id_iff h (hlookup _)).2 hc.code),
    Field.admits_of_getD (hlookup _) ((getD_text_iff h (hlookup _)).2 hc.city),
    Field.admits_of_getD (hlookup _) ((getD_text_iff h (hlookup _)).2 hc.place)⟩

/-- A value without faults decodes as the country that it spells. -/
theorem Country.decode_eq_ok_iff {node : Value → Node} (h : PlainReading node) {v : Value} {c : Country} :
    Country.decode (node v) = .ok c ↔ c.SpelledBy v := by
  unfold decode
  refine h.record_eq_ok_iff nodup_names (fun found ms hlookup => ?_) (fun ms hc => hc.admits h)
  simp only [schema, List.forall_mem_cons] at hlookup
  obtain ⟨hname, hcode, hcity, hplace, -⟩ := hlookup
  simp only [bind_eq_ok_iff]
  constructor
  · rintro ⟨name, hname', code, hcode', city, hcity', place, hplace', ⟨⟩⟩
    exact {
      name := (get_text_iff h hname).1 hname'
      code := (get_id_iff h hcode).1 hcode'
      city := (getD_text_iff h hcity).1 hcity'
      place := (getD_text_iff h hplace).1 hplace' }
  · intro hc
    exact ⟨_, (get_text_iff h hname).2 hc.name, _, (get_id_iff h hcode).2 hc.code,
      _, (getD_text_iff h hcity).2 hc.city, _, (getD_text_iff h hplace).2 hc.place, rfl⟩

/-! ## Records -/

/-- The names of the members of a record, those of its continent included. -/
def TicketRecord.names : List String := (schema ++ Continent.schema).map Field.name

/-- The fields of a record are what the members say. -/
structure TicketRecord.SpelledIn (r : TicketRecord) (ms : List (String × Value)) : Prop where
  ticketId : r.ticketId.SpelledBy (ms.lookup "ticketId")
  eventId : r.eventId.SpelledBy (ms.lookup "eventId")
  ticketType : ms.lookup "ticketType" = some (.string r.ticketType)
  price : ms.lookup "ticketPrice" = some (.int64 r.price)
  totalQuota : ms.lookup "totalQuota" = some (.int64 r.totalQuota)
  totalRemaining : ms.lookup "totalRemaining" = some (.int64 r.totalRemaining)
  continentName : ms.lookup "continentName" = some (.string r.continent.name)
  continentCode : ms.lookup "continentCode" = some (.string r.continent.code)
  country : ∃ v, ms.lookup "country" = some v ∧ r.country.SpelledBy v
  tag : r.tag.SpelledBy (ms.lookup "tag")
  createdAt : MomentSpelledBy r.createdAt (ms.lookup "createdAt")
  updatedAt : MomentSpelledBy r.updatedAt (ms.lookup "updatedAt")

section Decoding

variable {node : Value → Node} (h : PlainReading node) {ms : List (String × Value)} {r : TicketRecord}

include h

/-- What is found under the names of the fields is what spells them. -/
theorem TicketRecord.foundIn_iff {found aside : Fields}
    (hfound : ∀ f ∈ schema, found.lookup f.name = (ms.lookup f.name).map node)
    (haside : ∀ f ∈ Continent.schema, aside.lookup f.name = (ms.lookup f.name).map node) :
    r.FoundIn found aside ↔ r.SpelledIn ms := by
  simp only [schema, List.forall_mem_cons] at hfound
  simp only [Continent.schema, List.forall_mem_cons] at haside
  obtain ⟨hticketId, heventId, hticketType, hprice, htotalQuota, htotalRemaining, hcountry, htag, hcreatedAt,
    hupdatedAt, -⟩ := hfound
  obtain ⟨hname, hcode, -⟩ := haside
  have country : found.get "country" Country.decode = .ok r.country ↔
      ∃ v, ms.lookup "country" = some v ∧ r.country.SpelledBy v :=
    (get_eq_ok_iff hcountry).trans (exists_congr fun v => and_congr_right fun _ => Country.decode_eq_ok_iff h)
  constructor
  · intro hr
    exact {
      ticketId := (get_id_iff h hticketId).1 hr.ticketId
      eventId := (get_id_iff h heventId).1 hr.eventId
      ticketType := (get_text_iff h hticketType).1 hr.ticketType
      price := (get_int64_iff h hprice).1 hr.price
      totalQuota := (get_int64_iff h htotalQuota).1 hr.totalQuota
      totalRemaining := (get_int64_iff h htotalRemaining).1 hr.totalRemaining
      continentName := (get_text_iff h hname).1 hr.continentName
      continentCode := (get_text_iff h hcode).1 hr.continentCode
      country := country.1 hr.country
      tag := (get_id_iff h htag).1 hr.tag
      createdAt := (getD_moment_iff h hcreatedAt).1 hr.createdAt
      updatedAt := (getD_moment_iff h hupdatedAt).1 hr.updatedAt }
  · intro hr
    exact {
      ticketId := (get_id_iff h hticketId).2 hr.ticketId
      eventId := (get_id_iff h heventId).2 hr.eventId
      ticketType := (get_text_iff h hticketType).2 hr.ticketType
      price := (get_int64_iff h hprice).2 hr.price
      totalQuota := (get_int64_iff h htotalQuota).2 hr.totalQuota
      totalRemaining := (get_int64_iff h htotalRemaining).2 hr.totalRemaining
      continentName := (get_text_iff h hname).2 hr.continentName
      continentCode := (get_text_iff h hcode).2 hr.continentCode
      country := country.2 hr.country
      tag := (get_id_iff h htag).2 hr.tag
      createdAt := (getD_moment_iff h hcreatedAt).2 hr.createdAt
      updatedAt := (getD_moment_iff h hupdatedAt).2 hr.updatedAt }

/-- Each field admits what spells the record. -/
theorem TicketRecord.SpelledIn.admits (hr : r.SpelledIn ms) :
    (∀ f ∈ schema, f.Admits node (ms.lookup f.name)) ∧
      ∀ f ∈ Continent.schema, f.Admits node (ms.lookup f.name) := by
  have hlookup : ∀ name, List.lookup name (ms.map fun m => (m.1, node m.2)) = (ms.lookup name).map node :=
    lookup_map node ms
  have hfound := (foundIn_iff h (fun f _ => hlookup f.name) (fun f _ => hlookup f.name)).2 hr
  simp only [schema, Continent.schema, List.forall_mem_cons, List.not_mem_nil, false_imp_iff, implies_true,
    and_true]
  exact ⟨⟨Field.admits_of_get (hlookup _) hfound.ticketId, Field.admits_of_get (hlookup _) hfound.eventId,
      Field.admits_of_get (hlookup _) hfound.ticketType, Field.admits_of_get (hlookup _) hfound.price,
      Field.admits_of_get (hlookup _) hfound.totalQuota, Field.admits_of_get (hlookup _) hfound.totalRemaining,
      Field.admits_of_get (hlookup _) hfound.country, Field.admits_of_get (hlookup _) hfound.tag,
      Field.admits_of_getD (hlookup _) hfound.createdAt, Field.admits_of_getD (hlookup _) hfound.updatedAt⟩,
    Field.admits_of_get (hlookup _) hfound.continentName, Field.admits_of_get (hlookup _) hfound.continentCode⟩

theorem TicketRecord.exists_found_iff :
    (∃ found, gatherMembers schema (fun n => ofFault (n.value.map fun _ => ())) [] (namedNodes node ms) = .ok found ∧
        found.checkPresent schema = .ok ()) ↔
      NamedOnce (schema.map Field.name) ms ∧ ∀ f ∈ schema, f.Admits node (ms.lookup f.name) :=
  exists_gathered_iff (by decide) fun v => by rw [h.value]; rfl

omit h in
theorem TicketRecord.exists_aside_iff :
    (∃ aside, gatherMembers Continent.schema (fun _ => .ok ()) [] (namedNodes node ms) = .ok aside ∧
        aside.checkPresent Continent.schema = .ok ()) ↔
      NamedOnce (Continent.schema.map Field.name) ms ∧
        ∀ f ∈ Continent.schema, f.Admits node (ms.lookup f.name) :=
  exists_gathered_iff (by decide) fun _ => rfl

omit h in
theorem TicketRecord.namedOnce_names_iff :
    NamedOnce names ms ↔ NamedOnce (schema.map Field.name) ms ∧ NamedOnce (Continent.schema.map Field.name) ms := by
  unfold NamedOnce names
  rw [List.map_append]
  exact List.forall_mem_append

/-- A value without faults decodes as the record that is spelled in it; an object in which a field comes twice
does not decode. -/
theorem TicketRecord.decode_eq_ok_iff {d : Value} :
    decode (node d) = .ok r ↔ ∃ ms, d = .object ms ∧ NamedOnce names ms ∧ r.SpelledIn ms := by
  cases d with
  | object ms =>
    rw [h.object, decode_object_eq_ok_iff]
    constructor
    · rintro ⟨found, aside, hfound, haside, hr⟩
      have hown := (exists_found_iff h).1 ⟨found, hfound⟩
      have hcontinent := exists_aside_iff.1 ⟨aside, haside⟩
      have hspelled := (foundIn_iff h (fun f hf => lookup_gathered hf hfound.1)
        fun f hf => lookup_gathered hf haside.1).1 hr
      exact ⟨ms, rfl, namedOnce_names_iff.2 ⟨hown.1, hcontinent.1⟩, hspelled⟩
    · rintro ⟨_, ⟨⟩, honce, hr⟩
      obtain ⟨hown, hcontinent⟩ := namedOnce_names_iff.1 honce
      obtain ⟨hadmits, hadmits'⟩ := hr.admits h
      obtain ⟨found, hfound⟩ := (exists_found_iff h).2 ⟨hown, hadmits⟩
      obtain ⟨aside, haside⟩ := exists_aside_iff.2 ⟨hcontinent, hadmits'⟩
      have hfoundIn := (foundIn_iff h (fun f hf => lookup_gathered hf hfound.1)
        fun f hf => lookup_gathered hf haside.1).2 hr
      exact ⟨found, aside, hfound, haside, hfoundIn⟩
  | array items =>
    obtain ⟨stop, -, hnode⟩ := h.array items
    simp [hnode, decode]
  | null => simp [h.null, decode]
  | bool b => simp [h.bool, decode]
  | number n => simp [h.number, decode]
  | string s => simp [h.string, decode]

end Decoding

end BoxOffice
