import BoxOffice.Proofs.Json.Roundtrip
import BoxOffice.Proofs.Store.Lookup
import BoxOffice.Proofs.Ticket.Spelling
import BoxOffice.Proofs.Time.Roundtrip

/-!
# Records are read back

A record is written as a value, which is held in memory in order, and as the text of that value. Both decode as
the record again.

1. A record is spelled in the members that it is written as (`TicketRecord.spelledIn_members`).
2. What is spelled in members is spelled in them when they are put in order (`TicketRecord.SpelledIn.ordered`).
3. Writing the record of a document changes a document in four ways and no others, and changes nothing the second
   time (`records_read_back`).
4. Where a lookup selects the document of a record that was inserted, the record is found.
-/

namespace BoxOffice

open BoxOffice.Json BoxOffice.Text BoxOffice.Time

/-! ## What is written -/

/-- The members that a record is written as. -/
def TicketRecord.members (r : TicketRecord) : List (String × Value) := [
  ("ticketId", .string r.ticketId.text),
  ("eventId", .string r.eventId.text),
  ("ticketType", .string r.ticketType),
  ("ticketPrice", .int64 r.price),
  ("totalQuota", .int64 r.totalQuota),
  ("totalRemaining", .int64 r.totalRemaining),
  ("continentName", .string r.continent.name),
  ("continentCode", .string r.continent.code),
  ("country", r.country.toValue),
  ("tag", .string r.tag.text),
  ("createdAt", timestampValue r.createdAt),
  ("updatedAt", timestampValue r.updatedAt)]

theorem TicketRecord.toValue_eq (r : TicketRecord) : r.toValue = .object r.members := rfl

/-- No two members are of one name. -/
theorem TicketRecord.namedOnce_members (r : TicketRecord) (names : List String) : NamedOnce names r.members := by
  have hnodup : (r.members.map Prod.fst).Nodup := by
    show ["ticketId", "eventId", "ticketType", "ticketPrice", "totalQuota", "totalRemaining", "continentName",
      "continentCode", "country", "tag", "createdAt", "updatedAt"].Nodup
    decide
  exact fun name _ => List.nodup_iff_count_le_one.1 hnodup name

theorem Id.spelledBy_text {kind : IdKind} (a : Id kind) : a.SpelledBy (some (.string a.text)) :=
  ⟨a.text, rfl, Id.text_of_parse a.parse_text⟩

theorem textSpelledBy_string (s : String) : TextSpelledBy s (some (.string s)) := .inr rfl

theorem momentSpelledBy_timestampValue (t : Option Timestamp) : MomentSpelledBy t (some (timestampValue t)) := by
  cases t with
  | none => exact .inl ⟨.inr rfl, rfl⟩
  | some t => exact .inr ⟨t.text, t, rfl, t.read_text, rfl⟩

theorem Country.spelledBy_toValue (c : Country) : c.SpelledBy c.toValue := by
  have honce : NamedOnce names [("name", .string c.name), ("code", .string c.code.text), ("city", .string c.city),
      ("place", .string c.place)] := fun name _ => List.nodup_iff_count_le_one.1 nodup_names name
  exact ⟨_, .object honce, rfl, c.code.spelledBy_text, textSpelledBy_string _, textSpelledBy_string _⟩

/-- A record is spelled in what it is written as. -/
theorem TicketRecord.spelledIn_members (r : TicketRecord) : r.SpelledIn r.members where
  ticketId := r.ticketId.spelledBy_text
  eventId := r.eventId.spelledBy_text
  ticketType := rfl
  price := rfl
  totalQuota := rfl
  totalRemaining := rfl
  continentName := rfl
  continentCode := rfl
  country := ⟨_, rfl, r.country.spelledBy_toValue⟩
  tag := r.tag.spelledBy_text
  createdAt := momentSpelledBy_timestampValue r.createdAt
  updatedAt := momentSpelledBy_timestampValue r.updatedAt

/-! ## What is put in order -/

section Ordered

variable {o : Option Value}

theorem Id.SpelledBy.ordered {kind : IdKind} {a : Id kind} (h : a.SpelledBy o) : a.SpelledBy (o.map Value.ordered) := by
  obtain ⟨s, rfl, hs⟩ := h
  exact ⟨s, rfl, hs⟩

theorem TextSpelledBy.ordered {s : String} (h : TextSpelledBy s o) : TextSpelledBy s (o.map Value.ordered) := by
  rcases h with ⟨rfl, hs⟩ | rfl
  · exact .inl ⟨rfl, hs⟩
  · exact .inr rfl

theorem MomentSpelledBy.ordered {t : Option Timestamp} (h : MomentSpelledBy t o) :
    MomentSpelledBy t (o.map Value.ordered) := by
  rcases h with ⟨rfl | rfl, ht⟩ | ⟨s, u, rfl, hread, ht⟩
  · exact .inl ⟨.inl rfl, ht⟩
  · exact .inl ⟨.inr rfl, ht⟩
  · exact .inr ⟨s, u, rfl, hread, ht⟩

end Ordered

theorem Country.SpelledIn.of_lookup {c : Country} {ms ms' : List (String × Value)} (hc : c.SpelledIn ms)
    (h : ∀ name ∈ names, ms'.lookup name = (ms.lookup name).map Value.ordered) : c.SpelledIn ms' where
  name := by rw [h "name" (by decide), hc.name]; rfl
  code := by rw [h "code" (by decide)]; exact hc.code.ordered
  city := by rw [h "city" (by decide)]; exact hc.city.ordered
  place := by rw [h "place" (by decide)]; exact hc.place.ordered

/-- A country that is spelled by a value is spelled by it in order. -/
theorem Country.SpelledBy.ordered {c : Country} {v : Value} (h : c.SpelledBy v) : c.SpelledBy v.ordered := by
  obtain ⟨ms, hlaid, hc⟩ := h
  cases hlaid with
  | object honce =>
    exact ⟨_, .object (ascending_orderMembers.namedOnce names),
      hc.of_lookup fun name hname => lookup_ordered_of_once (honce name hname)⟩
  | array hfits =>
    rename_i items
    rw [Value.ordered, orderedItems_eq_map]
    have hzip : names.zip (items.map Value.ordered) = (names.zip items).map fun m => (m.1, m.2.ordered) := by
      simp [List.zip_map_right]
    refine ⟨_, .array (by rwa [List.length_map]), ?_⟩
    rw [hzip]
    exact hc.of_lookup fun name _ => lookup_map Value.ordered _ name

/-- A record that is spelled in members is spelled in them when they are put in order. -/
theorem TicketRecord.SpelledIn.ordered {r : TicketRecord} {ms : List (String × Value)} (hr : r.SpelledIn ms)
    (honce : NamedOnce names ms) : r.SpelledIn (orderMembers (orderedMembers ms)) := by
  have hlookup : ∀ name ∈ names,
      (orderMembers (orderedMembers ms)).lookup name = (ms.lookup name).map Value.ordered :=
    fun name hname => lookup_ordered_of_once (honce name hname)
  obtain ⟨v, hv, hcountry⟩ := hr.country
  exact {
    ticketId := by rw [hlookup "ticketId" (by decide)]; exact hr.ticketId.ordered
    eventId := by rw [hlookup "eventId" (by decide)]; exact hr.eventId.ordered
    ticketType := by rw [hlookup "ticketType" (by decide), hr.ticketType]; rfl
    price := by rw [hlookup "ticketPrice" (by decide), hr.price]; rfl
    totalQuota := by rw [hlookup "totalQuota" (by decide), hr.totalQuota]; rfl
    totalRemaining := by rw [hlookup "totalRemaining" (by decide), hr.totalRemaining]; rfl
    continentName := by rw [hlookup "continentName" (by decide), hr.continentName]; rfl
    continentCode := by rw [hlookup "continentCode" (by decide), hr.continentCode]; rfl
    country := ⟨v.ordered, by rw [hlookup "country" (by decide), hv]; rfl, hcountry.ordered⟩
    tag := by rw [hlookup "tag" (by decide)]; exact hr.tag.ordered
    createdAt := by rw [hlookup "createdAt" (by decide)]; exact hr.createdAt.ordered
    updatedAt := by rw [hlookup "updatedAt" (by decide)]; exact hr.updatedAt.ordered }

/-! ## What is read back -/

namespace TicketRecord

variable (r : TicketRecord)

theorem isWhole_toValue : r.toValue.isWhole = true := by
  have hmoment : ∀ t, (timestampValue t).isWhole = true := by
    rintro (_ | t) <;> rfl
  simp [toValue_eq, members, Country.toValue, Value.int64, Value.isWhole, wholeMembers, hmoment]

theorem depth_toValue : r.toValue.depth = 2 := by
  have hmoment : ∀ t, (timestampValue t).depth = 0 := by
    rintro (_ | t) <;> rfl
  simp [toValue_eq, members, Country.toValue, Value.int64, Value.depth, depthOfMembers, hmoment]

/-- A record is read back from its document. -/
theorem ofValue_toValue : ofValue r.toValue.ordered = .ok r :=
  (decode_eq_ok_iff plainReading_ofValue).2
    ⟨_, rfl, ascending_orderMembers.namedOnce names, r.spelledIn_members.ordered (r.namedOnce_members names)⟩

/-- A record is read back from its text. -/
theorem decode_ofText_toValue : (Reading.ofText r.toValue.text).decode decode = .ok r := by
  have hdepth : r.toValue.depth ≤ greatestDepth := by
    rw [depth_toValue]
    decide
  have hnode : decode r.toValue.textNode = .ok r :=
    (decode_eq_ok_iff plainReading_textNode).2 ⟨_, rfl, r.namedOnce_members names, r.spelledIn_members⟩
  rw [Reading.ofText_text r.isWhole_toValue hdepth, Reading.decode, hnode]
  rfl

end TicketRecord

/-! ## What is changed -/

/-- What becomes of the members of a document when its record is written: identifiers lose the blanks at their ends,
the country is written as an object with a city and a place, a moment is written in one way and null where there is
none, and members of other names are left out. -/
structure Normalises (ms ms' : List (String × Value)) : Prop where
  ids : ∀ name ∈ ["ticketId", "eventId", "tag"],
    ∃ s, ms.lookup name = some (.string s) ∧ ms'.lookup name = some (.string (trim s))
  kept : ∀ name ∈ ["ticketType", "ticketPrice", "totalQuota", "totalRemaining", "continentName", "continentCode"],
    ms'.lookup name = ms.lookup name
  country : ∃ v, ∃ c : Country, ms.lookup "country" = some v ∧ c.SpelledBy v ∧
    ms'.lookup "country" = some c.toValue
  moments : ∀ name ∈ ["createdAt", "updatedAt"],
    ∃ t, MomentSpelledBy t (ms.lookup name) ∧ ms'.lookup name = some (timestampValue t)
  others : ∀ name, name ∉ TicketRecord.names → ms'.lookup name = none

theorem TicketRecord.SpelledIn.normalises {r : TicketRecord} {ms : List (String × Value)} (hr : r.SpelledIn ms) :
    Normalises ms r.members where
  ids := by
    simp only [List.forall_mem_cons, List.not_mem_nil, false_imp_iff, implies_true, and_true]
    obtain ⟨s, hs, htrim⟩ := hr.ticketId
    obtain ⟨s', hs', htrim'⟩ := hr.eventId
    obtain ⟨s'', hs'', htrim''⟩ := hr.tag
    exact ⟨⟨s, hs, by rw [← htrim]; rfl⟩, ⟨s', hs', by rw [← htrim']; rfl⟩, ⟨s'', hs'', by rw [← htrim'']; rfl⟩⟩
  kept := by
    simp only [List.forall_mem_cons, List.not_mem_nil, false_imp_iff, implies_true, and_true]
    exact ⟨hr.ticketType.symm, hr.price.symm, hr.totalQuota.symm, hr.totalRemaining.symm, hr.continentName.symm,
      hr.continentCode.symm⟩
  country := by
    obtain ⟨v, hv, hcountry⟩ := hr.country
    exact ⟨v, r.country, hv, hcountry, rfl⟩
  moments := by
    simp only [List.forall_mem_cons, List.not_mem_nil, false_imp_iff, implies_true, and_true]
    exact ⟨⟨r.createdAt, hr.createdAt, rfl⟩, ⟨r.updatedAt, hr.updatedAt, rfl⟩⟩
  others := by
    intro name hname
    cases hv : r.members.lookup name with
    | none => rfl
    | some v =>
      have hnames : ∀ m ∈ r.members, m.1 ∈ TicketRecord.names := by
        simp only [members, List.forall_mem_cons, List.not_mem_nil, false_imp_iff, implies_true, and_true]
        decide
      exact absurd (hnames _ (mem_of_lookup hv)) hname

/-! ## What is looked up -/

/-- What lookups give after a record was inserted: the record, wherever its document is selected. Only another
document that is no record can keep the list from being given. -/
structure MemoryStore.GivesBack (s : MemoryStore) (r : TicketRecord) (q : TicketQuery) : Prop where
  one : (q.select (s.insert r).documents).head? = some r.toValue.ordered → (s.insert r).findOne q = .ok (some r)
  many : ∀ rs : List TicketRecord, (s.insert r).findMany q = .ok (some rs) →
    ∀ i : Nat, (q.select (s.insert r).documents)[i]? = some r.toValue.ordered → rs[i]? = some r
  refused : ∀ x, (s.insert r).findMany q = .error x →
    ∃ d ∈ s.documents, d ∈ q.select (s.insert r).documents ∧ Malformed d

theorem MemoryStore.givesBack (s : MemoryStore) (r : TicketRecord) (q : TicketQuery) : s.GivesBack r q where
  one h := by
    obtain ⟨rest, hselect⟩ := List.head?_eq_some_iff.1 h
    exact findOne_eq_some_iff.2 ⟨_, rest, hselect, r.ofValue_toValue⟩
  many rs hrs i hi := by
    obtain ⟨_, hdecodes, ⟨⟩⟩ := findMany_eq_ok_iff.1 hrs
    obtain ⟨r', hr', hok⟩ := hdecodes.exists_getElem hi
    cases r.ofValue_toValue.symm.trans hok
    exact hr'
  refused x hx := by
    obtain ⟨before, d, after, rs, e, hselect, -, he, -⟩ := findMany_eq_error_iff.1 hx
    have hmem : d ∈ q.select (s.insert r).documents := by rw [hselect]; simp
    have hmalformed : Malformed d := malformed_iff.2 ⟨e, he⟩
    rcases List.mem_append.1 (TicketQuery.mem_of_mem_select hmem) with hd | hd
    · exact ⟨d, hd, hmem, hmalformed⟩
    · rw [List.mem_singleton.1 hd] at hmalformed
      exact absurd r.ofValue_toValue (hmalformed r)

/-- The record of a document is read back from the value and from the text that it is written as, and is written in the
same way again. Writing it changes the document as `Normalises` says. Where it is inserted, lookups give it back. -/
theorem records_read_back {d : Value} {r : TicketRecord} (h : TicketRecord.ofValue d = .ok r) :
    TicketRecord.ofValue r.toValue.ordered = .ok r ∧
      (Reading.ofText r.toValue.text).decode TicketRecord.decode = .ok r ∧
      ((TicketRecord.ofValue r.toValue.ordered).map fun r' => r'.toValue.text) = .ok r.toValue.text ∧
      ((Reading.ofText r.toValue.text).decode TicketRecord.decode).map (fun r' => r'.toValue.text) =
        .ok r.toValue.text ∧
      Value.ofText r.toValue.text = .ok r.toValue.ordered ∧
      (∃ ms, d = .object ms ∧ Normalises ms r.members) ∧
      ∀ (s : MemoryStore) (q : TicketQuery), s.GivesBack r q := by
  have hdepth : r.toValue.depth ≤ greatestDepth := by
    rw [r.depth_toValue]
    decide
  obtain ⟨ms, hms, -, hr⟩ := (TicketRecord.decode_eq_ok_iff plainReading_ofValue).1 h
  refine ⟨r.ofValue_toValue, r.decode_ofText_toValue, ?_, ?_, Value.ofText_text r.isWhole_toValue hdepth,
    ⟨ms, hms, hr.normalises⟩, fun s q => s.givesBack r q⟩
  · rw [r.ofValue_toValue]
    rfl
  · rw [r.decode_ofText_toValue]
    rfl

/-- A document with blanks around its identifiers, a country in an array and a moment of another time zone. -/
def looseDocument : Value := .object [
  ("continentCode", .string "AS"),
  ("continentName", .string "Asia"),
  ("country", .array [.string "Malaysia", .string " MY"]),
  ("createdAt", .string "2024-01-01t02:30:00.5+02:00"),
  ("eventId", .string "e-20 "),
  ("remark", .null),
  ("tag", .string "\tcat-20\n"),
  ("ticketId", .string " t-20 "),
  ("ticketPrice", .int64 (-150)),
  ("ticketType", .string " CAT 1"),
  ("totalQuota", .int64 100),
  ("totalRemaining", .int64 0)]

/-- The record of `looseDocument`. -/
def looseRecord : TicketRecord where
  ticketId := ⟨"t-20", by decide, trimmed_of_ends rfl rfl rfl rfl⟩
  eventId := ⟨"e-20", by decide, trimmed_of_ends rfl rfl rfl rfl⟩
  ticketType := " CAT 1"
  price := -150
  totalQuota := 100
  totalRemaining := 0
  continent := ⟨"Asia", "AS"⟩
  country := ⟨"Malaysia", ⟨"MY", by decide, trimmed_of_ends rfl rfl rfl rfl⟩, "", ""⟩
  tag := ⟨"cat-20", by decide, trimmed_of_ends rfl rfl rfl rfl⟩
  createdAt := some ⟨⟨2024, 1, 1⟩, ⟨0, 30, 0, 500000000⟩, by decide, by decide⟩
  updatedAt := none

/-- The record of a document that is written in none of the usual ways is read back from its text. -/
theorem records_read_back_of_looseDocument :
    TicketRecord.ofValue looseDocument = .ok looseRecord ∧
      (Reading.ofText looseRecord.toValue.text).decode TicketRecord.decode = .ok looseRecord := by
  have hloose : TicketRecord.ofValue looseDocument = .ok looseRecord := by rfl
  exact ⟨hloose, (records_read_back hloose).2.1⟩

end BoxOffice
