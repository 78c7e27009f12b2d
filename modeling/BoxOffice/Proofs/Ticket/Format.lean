import BoxOffice.Proofs.Ticket.Spelling

/-!
# The format of a record

Which values decode as a record, whichever it is. `RecordFormat` says of a value alone what its members have to
be: values of that format spell a record, and no others do. A document that is held in memory has its members in
order, so that none of its names comes twice, and decodes exactly if it is of the format (`record_format`).
-/

namespace BoxOffice

open BoxOffice.Json BoxOffice.Text BoxOffice.Time

/-! ## Kinds of values -/

/-- A string. -/
def IsText (v : Value) : Prop := ∃ s, v = .string s

/-- A string with a character that is not blank. -/
def IsIdText (v : Value) : Prop := ∃ s, v = .string s ∧ ∃ c ∈ s.toList, isBlank c = false

/-- An integer in the range of signed 64 bits. -/
def IsInt64 (v : Value) : Prop :=
  ∃ n : Whole, v = .number (.whole n) ∧ -9223372036854775808 ≤ n.val ∧ n.val ≤ 9223372036854775807

/-- Null, or a string that reads as a moment. -/
def IsMoment (v : Value) : Prop := v = .null ∨ ∃ s t, v = .string s ∧ Timestamp.read s = .ok t

/-- The member of a name is there, and it is of a kind. -/
def Holds (ms : List (String × Value)) (name : String) (Kind : Value → Prop) : Prop :=
  ∃ v, ms.lookup name = some v ∧ Kind v

/-- The member of a name is of a kind if it is there. -/
def MayHold (ms : List (String × Value)) (name : String) (Kind : Value → Prop) : Prop :=
  ∀ v, ms.lookup name = some v → Kind v

/-! ## The format -/

/-- What the members of a country are. -/
structure CountryMembers (ms : List (String × Value)) : Prop where
  name : Holds ms "name" IsText
  code : Holds ms "code" IsIdText
  city : MayHold ms "city" IsText
  place : MayHold ms "place" IsText

/-- A country is an object, or an array of two to four strings: its name, its code, its city and its place. -/
inductive CountryFormat : Value → Prop where
  | object {ms : List (String × Value)} (members : CountryMembers ms) : CountryFormat (.object ms)
  | array {items : List Value} (atLeast : 2 ≤ items.length) (atMost : items.length ≤ 4)
    (texts : ∀ item ∈ items, IsText item) (code : ∃ v, items[1]? = some v ∧ IsIdText v) :
    CountryFormat (.array items)

/-- What the members of a record are. -/
structure RecordMembers (ms : List (String × Value)) : Prop where
  ticketId : Holds ms "ticketId" IsIdText
  eventId : Holds ms "eventId" IsIdText
  tag : Holds ms "tag" IsIdText
  ticketType : Holds ms "ticketType" IsText
  continentName : Holds ms "continentName" IsText
  continentCode : Holds ms "continentCode" IsText
  price : Holds ms "ticketPrice" IsInt64
  totalQuota : Holds ms "totalQuota" IsInt64
  totalRemaining : Holds ms "totalRemaining" IsInt64
  country : Holds ms "country" CountryFormat
  createdAt : MayHold ms "createdAt" IsMoment
  updatedAt : MayHold ms "updatedAt" IsMoment

/-- A record is an object with the members of a record, and others perhaps. -/
def RecordFormat (d : Value) : Prop := ∃ ms, d = .object ms ∧ RecordMembers ms

/-! ## What is spelled -/

section Members

variable {ms : List (String × Value)} {name : String}

theorem exists_id_iff {kind : IdKind} : (∃ a : Id kind, a.SpelledBy (ms.lookup name)) ↔ Holds ms name IsIdText := by
  constructor
  · rintro ⟨a, s, hv, ha⟩
    exact ⟨_, hv, s, rfl, Id.exists_text_eq_trim_iff.1 ⟨a, ha⟩⟩
  · rintro ⟨_, hv, s, rfl, hs⟩
    obtain ⟨a, ha⟩ := Id.exists_text_eq_trim_iff.2 hs
    exact ⟨a, s, hv, ha⟩

theorem exists_text_iff : (∃ s, ms.lookup name = some (.string s)) ↔ Holds ms name IsText := by
  constructor
  · rintro ⟨s, hv⟩
    exact ⟨_, hv, s, rfl⟩
  · rintro ⟨_, hv, s, rfl⟩
    exact ⟨s, hv⟩

theorem isInt64_iff {v : Value} : IsInt64 v ↔ ∃ i, v = .int64 i := by
  constructor
  · rintro ⟨n, rfl, -, hupper⟩
    have hsome : n.int64? = some (Int64.ofInt n.val) := if_pos (by omega)
    exact ⟨_, by rw [Value.int64, ← Whole.int64?_eq_some_iff.1 hsome]⟩
  · rintro ⟨i, rfl⟩
    have hlower := i.le_toInt
    have hupper := i.toInt_lt
    exact ⟨.ofInt64 i, rfl, hlower, by simp only [Whole.ofInt64]; omega⟩

theorem exists_int64_iff : (∃ i, ms.lookup name = some (.int64 i)) ↔ Holds ms name IsInt64 := by
  simp only [Holds, isInt64_iff]
  constructor
  · rintro ⟨i, hv⟩
    exact ⟨_, hv, i, rfl⟩
  · rintro ⟨_, hv, i, rfl⟩
    exact ⟨i, hv⟩

theorem exists_textSpelledBy_iff : (∃ s, TextSpelledBy s (ms.lookup name)) ↔ MayHold ms name IsText := by
  unfold TextSpelledBy MayHold
  cases ms.lookup name with
  | none => simp
  | some v => simp [IsText]

theorem exists_momentSpelledBy_iff : (∃ t, MomentSpelledBy t (ms.lookup name)) ↔ MayHold ms name IsMoment := by
  unfold MomentSpelledBy MayHold
  constructor
  · rintro ⟨t, ⟨hnone | hnull, -⟩ | ⟨s, u, hv, hread, -⟩⟩ v hv'
    · exact nomatch hnone.symm.trans hv'
    · cases hnull.symm.trans hv'
      exact .inl rfl
    · cases hv.symm.trans hv'
      exact .inr ⟨s, u, rfl, hread⟩
  · intro h
    cases hv : ms.lookup name with
    | none => exact ⟨none, .inl ⟨.inl rfl, rfl⟩⟩
    | some v =>
      rcases h v hv with rfl | ⟨s, u, rfl, hread⟩
      · exact ⟨none, .inl ⟨.inr rfl, rfl⟩⟩
      · exact ⟨some u, .inr ⟨s, u, rfl, hread, rfl⟩⟩

end Members

/-! ## Countries -/

section Countries

variable {ms : List (String × Value)} {items : List Value}

theorem Country.exists_spelledIn_iff : (∃ c : Country, c.SpelledIn ms) ↔ CountryMembers ms := by
  constructor
  · rintro ⟨c, hc⟩
    exact {
      name := exists_text_iff.1 ⟨_, hc.name⟩
      code := exists_id_iff.1 ⟨_, hc.code⟩
      city := exists_textSpelledBy_iff.1 ⟨_, hc.city⟩
      place := exists_textSpelledBy_iff.1 ⟨_, hc.place⟩ }
  · intro hms
    obtain ⟨name, hname⟩ := exists_text_iff.2 hms.name
    obtain ⟨code, hcode⟩ := exists_id_iff.2 hms.code
    obtain ⟨city, hcity⟩ := exists_textSpelledBy_iff.2 hms.city
    obtain ⟨place, hplace⟩ := exists_textSpelledBy_iff.2 hms.place
    exact ⟨⟨name, code, city, place⟩, hname, hcode, hcity, hplace⟩

theorem Country.names_eq : Country.names = ["name", "code", "city", "place"] := rfl

/-- The members of a country that is an array are its items in turn. -/
theorem Country.lookup_zip_names (items : List Value) :
    (names.zip items).lookup "name" = items[0]? ∧ (names.zip items).lookup "code" = items[1]? ∧
      (names.zip items).lookup "city" = items[2]? ∧ (names.zip items).lookup "place" = items[3]? := by
  rw [names_eq]
  rcases items with _ | ⟨name, _ | ⟨code, _ | ⟨city, _ | ⟨place, rest⟩⟩⟩⟩ <;> simp [List.lookup_cons]

theorem IsIdText.isText {v : Value} (h : IsIdText v) : IsText v := by
  obtain ⟨s, rfl, -⟩ := h
  exact ⟨s, rfl⟩

theorem countryMembers_zip_iff (hfits : items.length ≤ 4) :
    CountryMembers (Country.names.zip items) ↔ CountryFormat (.array items) := by
  obtain ⟨hname, hcode, hcity, hplace⟩ := Country.lookup_zip_names items
  constructor
  · intro hms
    obtain ⟨name, hfirst, htext⟩ := hms.name
    obtain ⟨code, hsecond, hid⟩ := hms.code
    rw [hname] at hfirst
    rw [hcode] at hsecond
    have hatLeast : 1 < items.length := (List.getElem?_eq_some_iff.1 hsecond).1
    refine .array hatLeast hfits (fun item hitem => ?_) ⟨code, hsecond, hid⟩
    obtain ⟨i, hi⟩ := List.mem_iff_getElem?.1 hitem
    have hlt : i < 4 := Nat.lt_of_lt_of_le (List.getElem?_eq_some_iff.1 hi).1 hfits
    match i, hlt with
    | 0, _ =>
      cases hfirst.symm.trans hi
      exact htext
    | 1, _ =>
      cases hsecond.symm.trans hi
      exact hid.isText
    | 2, _ => exact hms.city item (hcity.trans hi)
    | 3, _ => exact hms.place item (hplace.trans hi)
  · rintro ⟨⟩
    rename_i hatLeast _ htexts hcode'
    have hfirst : items[0]? = some items[0] := List.getElem?_eq_getElem (by omega)
    have hmay : ∀ {i : Nat} {v : Value}, items[i]? = some v → IsText v := fun hi =>
      htexts _ (List.mem_iff_getElem?.2 ⟨_, hi⟩)
    obtain ⟨code, hsecond, hid⟩ := hcode'
    exact {
      name := ⟨_, hname.trans hfirst, hmay hfirst⟩
      code := ⟨_, hcode.trans hsecond, hid⟩
      city := fun v hv => hmay (hcity.symm.trans hv)
      place := fun v hv => hmay (hplace.symm.trans hv) }

/-- A value spells a country if it is of the format and none of the names comes twice in it. -/
theorem Country.exists_spelledBy_iff {v : Value} :
    (∃ c : Country, c.SpelledBy v) ↔ CountryFormat v ∧ ∀ ms, v = .object ms → NamedOnce names ms := by
  constructor
  · rintro ⟨c, ms, hlaid, hc⟩
    have hms := exists_spelledIn_iff.1 ⟨c, hc⟩
    cases hlaid with
    | object honce => exact ⟨.object hms, by rintro _ ⟨⟩; exact honce⟩
    | array hfits => exact ⟨(countryMembers_zip_iff hfits).1 hms, nofun⟩
  · rintro ⟨hformat, honce⟩
    cases hformat with
    | object members =>
      obtain ⟨c, hc⟩ := exists_spelledIn_iff.2 members
      exact ⟨c, _, .object (honce _ rfl), hc⟩
    | array hatLeast hatMost htexts hcode =>
      have hmembers := (countryMembers_zip_iff hatMost).2 (.array hatLeast hatMost htexts hcode)
      obtain ⟨c, hc⟩ := exists_spelledIn_iff.2 hmembers
      exact ⟨c, _, .array hatMost, hc⟩

end Countries

/-! ## Records -/

namespace TicketRecord

variable {ms : List (String × Value)} {d : Value}

/-- Neither a name of a record nor, in its country, a name of a country comes twice. -/
def NamesOnce (d : Value) : Prop :=
  ∀ ms, d = .object ms → NamedOnce names ms ∧
    ∀ inner, ms.lookup "country" = some (.object inner) → NamedOnce Country.names inner

theorem exists_spelledIn_iff :
    (∃ r : TicketRecord, r.SpelledIn ms) ↔ RecordMembers ms ∧
      ∀ inner, ms.lookup "country" = some (.object inner) → NamedOnce Country.names inner := by
  constructor
  · rintro ⟨r, hr⟩
    obtain ⟨v, hv, hcountry⟩ := hr.country
    obtain ⟨hformat, honce⟩ := Country.exists_spelledBy_iff.1 ⟨_, hcountry⟩
    refine ⟨?_, fun inner hinner => honce inner (Option.some.inj (hv.symm.trans hinner))⟩
    exact {
      ticketId := exists_id_iff.1 ⟨_, hr.ticketId⟩
      eventId := exists_id_iff.1 ⟨_, hr.eventId⟩
      tag := exists_id_iff.1 ⟨_, hr.tag⟩
      ticketType := exists_text_iff.1 ⟨_, hr.ticketType⟩
      continentName := exists_text_iff.1 ⟨_, hr.continentName⟩
      continentCode := exists_text_iff.1 ⟨_, hr.continentCode⟩
      price := exists_int64_iff.1 ⟨_, hr.price⟩
      totalQuota := exists_int64_iff.1 ⟨_, hr.totalQuota⟩
      totalRemaining := exists_int64_iff.1 ⟨_, hr.totalRemaining⟩
      country := ⟨v, hv, hformat⟩
      createdAt := exists_momentSpelledBy_iff.1 ⟨_, hr.createdAt⟩
      updatedAt := exists_momentSpelledBy_iff.1 ⟨_, hr.updatedAt⟩ }
  · rintro ⟨hms, honce⟩
    obtain ⟨ticketId, hticketId⟩ := exists_id_iff.2 hms.ticketId
    obtain ⟨eventId, heventId⟩ := exists_id_iff.2 hms.eventId
    obtain ⟨tag, htag⟩ := exists_id_iff.2 hms.tag
    obtain ⟨ticketType, hticketType⟩ := exists_text_iff.2 hms.ticketType
    obtain ⟨continentName, hcontinentName⟩ := exists_text_iff.2 hms.continentName
    obtain ⟨continentCode, hcontinentCode⟩ := exists_text_iff.2 hms.continentCode
    obtain ⟨price, hprice⟩ := exists_int64_iff.2 hms.price
    obtain ⟨totalQuota, htotalQuota⟩ := exists_int64_iff.2 hms.totalQuota
    obtain ⟨totalRemaining, htotalRemaining⟩ := exists_int64_iff.2 hms.totalRemaining
    obtain ⟨v, hv, hformat⟩ := hms.country
    obtain ⟨country, hcountry⟩ :=
      Country.exists_spelledBy_iff.2 ⟨hformat, fun inner hinner => honce inner (hinner ▸ hv)⟩
    obtain ⟨createdAt, hcreatedAt⟩ := exists_momentSpelledBy_iff.2 hms.createdAt
    obtain ⟨updatedAt, hupdatedAt⟩ := exists_momentSpelledBy_iff.2 hms.updatedAt
    exact ⟨⟨ticketId, eventId, ticketType, price, totalQuota, totalRemaining, ⟨continentName, continentCode⟩,
      country, tag, createdAt, updatedAt⟩, hticketId, heventId, hticketType, hprice, htotalQuota, htotalRemaining,
      hcontinentName, hcontinentCode, ⟨v, hv, hcountry⟩, htag, hcreatedAt, hupdatedAt⟩

/-- A value decodes if it is of the format and none of the names comes twice in it. -/
theorem exists_ofValue_iff : (∃ r, ofValue d = .ok r) ↔ RecordFormat d ∧ NamesOnce d := by
  unfold ofValue RecordFormat NamesOnce
  simp only [decode_eq_ok_iff plainReading_ofValue]
  constructor
  · rintro ⟨r, ms, rfl, honce, hr⟩
    obtain ⟨hms, hinner⟩ := exists_spelledIn_iff.1 ⟨r, hr⟩
    exact ⟨⟨ms, rfl, hms⟩, by rintro _ ⟨⟩; exact ⟨honce, hinner⟩⟩
  · rintro ⟨⟨ms, rfl, hms⟩, honces⟩
    obtain ⟨honce, hinner⟩ := honces ms rfl
    obtain ⟨r, hr⟩ := exists_spelledIn_iff.2 ⟨hms, hinner⟩
    exact ⟨r, ms, rfl, honce, hr⟩

/-- In a value in order no name comes twice. -/
theorem namesOnce_ordered (v : Value) : NamesOnce v.ordered := by
  intro ms hms
  refine ⟨(ascending_of_ordered hms).namedOnce names, fun inner hinner => ?_⟩
  obtain ⟨w, hw⟩ := exists_ordered_of_lookup hms hinner
  exact (ascending_of_ordered hw.symm).namedOnce Country.names

/-- Members of other names do not count. -/
theorem SpelledIn.congr {r : TicketRecord} (hr : r.SpelledIn ms) {ms' : List (String × Value)}
    (h : ∀ name ∈ names, ms'.lookup name = ms.lookup name) : r.SpelledIn ms' where
  ticketId := h "ticketId" (by decide) ▸ hr.ticketId
  eventId := h "eventId" (by decide) ▸ hr.eventId
  ticketType := h "ticketType" (by decide) ▸ hr.ticketType
  price := h "ticketPrice" (by decide) ▸ hr.price
  totalQuota := h "totalQuota" (by decide) ▸ hr.totalQuota
  totalRemaining := h "totalRemaining" (by decide) ▸ hr.totalRemaining
  continentName := h "continentName" (by decide) ▸ hr.continentName
  continentCode := h "continentCode" (by decide) ▸ hr.continentCode
  country := h "country" (by decide) ▸ hr.country
  tag := h "tag" (by decide) ▸ hr.tag
  createdAt := h "createdAt" (by decide) ▸ hr.createdAt
  updatedAt := h "updatedAt" (by decide) ▸ hr.updatedAt

/-- A value in order decodes as the record that is spelled in it. -/
theorem ofValue_ordered_eq_ok_iff {v : Value} {r : TicketRecord} :
    ofValue v.ordered = .ok r ↔ ∃ ms, v.ordered = .object ms ∧ r.SpelledIn ms := by
  unfold ofValue
  rw [decode_eq_ok_iff plainReading_ofValue]
  constructor
  · rintro ⟨ms, hms, -, hr⟩
    exact ⟨ms, hms, hr⟩
  · rintro ⟨ms, hms, hr⟩
    exact ⟨ms, hms, (ascending_of_ordered hms).namedOnce names, hr⟩

/-- A record is spelled in every object that has the same members under the names of a record. -/
theorem ofValue_ordered_congr {v w : Value} {r : TicketRecord} (hr : ofValue v.ordered = .ok r)
    (h : ∀ name ∈ names, w.ordered.get? name = v.ordered.get? name) : ofValue w.ordered = .ok r := by
  obtain ⟨ms, hms, hspelled⟩ := ofValue_ordered_eq_ok_iff.1 hr
  rw [hms] at h
  -- The other value has a type of ticket, so it is an object.
  have htype : w.ordered.get? "ticketType" = some (.string r.ticketType) :=
    (h "ticketType" (by decide)).trans hspelled.ticketType
  have hobject : ∃ ms', w.ordered = .object ms' := by
    cases hw : w.ordered with
    | object ms' => exact ⟨ms', rfl⟩
    | _ => rw [hw] at htype; cases htype
  obtain ⟨ms', hms'⟩ := hobject
  rw [hms'] at h
  exact ofValue_ordered_eq_ok_iff.2 ⟨ms', hms', hspelled.congr h⟩

end TicketRecord

/-- A document decodes exactly if it is of the format of a record, and as the record that its members spell.
Members of other names do not count. -/
theorem record_format (v : Value) :
    ((∃ r, TicketRecord.ofValue v.ordered = .ok r) ↔ RecordFormat v.ordered) ∧
      (∀ r, TicketRecord.ofValue v.ordered = .ok r ↔ ∃ ms, v.ordered = .object ms ∧ r.SpelledIn ms) ∧
      ∀ w : Value, (∀ name ∈ TicketRecord.names, w.ordered.get? name = v.ordered.get? name) →
        ∀ r, TicketRecord.ofValue v.ordered = .ok r → TicketRecord.ofValue w.ordered = .ok r := by
  have hformat : (∃ r, TicketRecord.ofValue v.ordered = .ok r) ↔ RecordFormat v.ordered :=
    TicketRecord.exists_ofValue_iff.trans (and_iff_left (TicketRecord.namesOnce_ordered v))
  exact ⟨hformat, fun r => TicketRecord.ofValue_ordered_eq_ok_iff, fun w h r hr =>
    TicketRecord.ofValue_ordered_congr hr h⟩

end BoxOffice
