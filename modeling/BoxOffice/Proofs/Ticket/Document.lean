import BoxOffice.Proofs.Json.Fields
import BoxOffice.Store.Query

/-!
# Documents and their records

What a record says of the document that it was decoded from: each field is what the member of its
name decodes to (`TicketRecord.ReadFrom`). The stock of a record is the one that filters see
(`remainingAt?_of_ofValue`). The country code of a record is the one that filters see without the
blanks around it (`countryCode_of_ofValue`); where the country is written as an array, filters see
none.
-/

namespace BoxOffice

open BoxOffice.Json BoxOffice.Text

theorem Id.text_of_parse {kind : IdKind} {s : String} {a : Id kind} (h : Id.parse kind s = .ok a) :
    a.text = trim s := by
  unfold Id.parse at h
  split at h
  · cases h
  · cases h
    rfl

/-- The fields of a record are what is found under their names. -/
structure TicketRecord.FoundIn (r : TicketRecord) (found aside : Fields) : Prop where
  ticketId : found.get "ticketId" (Node.id .ticket) = .ok r.ticketId
  eventId : found.get "eventId" (Node.id .event) = .ok r.eventId
  ticketType : found.get "ticketType" Node.text = .ok r.ticketType
  price : found.get "ticketPrice" Node.int64 = .ok r.price
  totalQuota : found.get "totalQuota" Node.int64 = .ok r.totalQuota
  totalRemaining : found.get "totalRemaining" Node.int64 = .ok r.totalRemaining
  continentName : aside.get "continentName" Node.text = .ok r.continent.name
  continentCode : aside.get "continentCode" Node.text = .ok r.continent.code
  country : found.get "country" Country.decode = .ok r.country
  tag : found.get "tag" (Node.id .tag) = .ok r.tag
  createdAt : found.getD "createdAt" (Node.optional Node.timestamp) none = .ok r.createdAt
  updatedAt : found.getD "updatedAt" (Node.optional Node.timestamp) none = .ok r.updatedAt

/-- Decoding an object finds the record's own fields, then the continent's aside, and reads them. -/
theorem TicketRecord.decode_object_eq_ok_iff {members : List Member} {r : TicketRecord} :
    decode (.object members .closed) = .ok r ↔
      ∃ found aside,
        (gatherMembers schema (fun n => ofFault (n.value.map fun _ => ())) [] members = .ok found ∧
          found.checkPresent schema = .ok ()) ∧
        (gatherMembers Continent.schema (fun _ => .ok ()) [] members = .ok aside ∧
          aside.checkPresent Continent.schema = .ok ()) ∧
        r.FoundIn found aside := by
  simp only [decode, Continent.ofFields, bind_eq_ok_iff]
  constructor
  · rintro ⟨found, hfound, -, -, ⟨⟩, hpresent, aside, haside, ⟨⟩, hpresent', continent,
      ⟨name, hname, code, hcode, ⟨⟩⟩, ticketId, hticketId, eventId, heventId, ticketType, hticketType,
      price, hprice, totalQuota, htotalQuota, totalRemaining, htotalRemaining, country, hcountry, tag, htag,
      createdAt, hcreatedAt, updatedAt, hupdatedAt, ⟨⟩⟩
    exact ⟨found, aside, ⟨hfound, hpresent⟩, ⟨haside, hpresent'⟩,
      ⟨hticketId, heventId, hticketType, hprice, htotalQuota, htotalRemaining, hname, hcode, hcountry, htag,
        hcreatedAt, hupdatedAt⟩⟩
  · rintro ⟨found, aside, ⟨hfound, hpresent⟩, ⟨haside, hpresent'⟩, hr⟩
    exact ⟨found, hfound, (), rfl, (), hpresent, aside, haside, (), hpresent', r.continent,
      ⟨_, hr.continentName, _, hr.continentCode, rfl⟩, _, hr.ticketId, _, hr.eventId, _, hr.ticketType,
      _, hr.price, _, hr.totalQuota, _, hr.totalRemaining, _, hr.country, _, hr.tag, _, hr.createdAt,
      _, hr.updatedAt, rfl⟩

/-- The fields of a record as members of an object, each decoded. -/
structure TicketRecord.ReadFrom (r : TicketRecord) (ms : List (String × Value)) : Prop where
  ticketId : ∃ v, ms.lookup "ticketId" = some v ∧ (Node.ofValue v).id .ticket = .ok r.ticketId
  eventId : ∃ v, ms.lookup "eventId" = some v ∧ (Node.ofValue v).id .event = .ok r.eventId
  ticketType : ∃ v, ms.lookup "ticketType" = some v ∧ (Node.ofValue v).text = .ok r.ticketType
  price : ∃ v, ms.lookup "ticketPrice" = some v ∧ (Node.ofValue v).int64 = .ok r.price
  totalQuota : ∃ v, ms.lookup "totalQuota" = some v ∧ (Node.ofValue v).int64 = .ok r.totalQuota
  totalRemaining :
    ∃ v, ms.lookup "totalRemaining" = some v ∧ (Node.ofValue v).int64 = .ok r.totalRemaining
  country : ∃ v, ms.lookup "country" = some v ∧ Country.decode (.ofValue v) = .ok r.country
  tag : ∃ v, ms.lookup "tag" = some v ∧ (Node.ofValue v).id .tag = .ok r.tag

/-- A document that is a record is an object with the fields of the record as members. -/
theorem TicketRecord.exists_readFrom {d : Value} {r : TicketRecord} (h : ofValue d = .ok r) :
    ∃ ms, d = .object ms ∧ r.ReadFrom ms := by
  unfold ofValue at h
  cases d with
  | object ms =>
    obtain ⟨found, aside, ⟨hfound, -⟩, -, hr⟩ := decode_object_eq_ok_iff.1 h
    have member {α : Type} (name : String) {decode : Node → Decoded α} {a : α}
        (hf : Field.needed name decode ∈ schema) (hget : found.get name decode = .ok a) :
        ∃ v, ms.lookup name = some v ∧ decode (.ofValue v) = .ok a :=
      exists_member_of_get hfound (.needed name decode) hf hget
    exact ⟨ms, rfl, {
      ticketId := member "ticketId" (by simp [schema]) hr.ticketId
      eventId := member "eventId" (by simp [schema]) hr.eventId
      ticketType := member "ticketType" (by simp [schema]) hr.ticketType
      price := member "ticketPrice" (by simp [schema]) hr.price
      totalQuota := member "totalQuota" (by simp [schema]) hr.totalQuota
      totalRemaining := member "totalRemaining" (by simp [schema]) hr.totalRemaining
      country := member "country" (by simp [schema]) hr.country
      tag := member "tag" (by simp [schema]) hr.tag }⟩
  | null => cases h
  | bool b => cases h
  | number n => cases h
  | string s => cases h
  | array items => cases h

/-- The type of a record is the one that filters see. -/
theorem ticketType_of_ofValue {d : Value} {r : TicketRecord} (h : TicketRecord.ofValue d = .ok r) :
    d.stringAt? "ticketType" = some r.ticketType := by
  obtain ⟨ms, rfl, hr⟩ := TicketRecord.exists_readFrom h
  obtain ⟨v, hv, htext⟩ := hr.ticketType
  unfold Value.stringAt?
  rw [Value.get?_object, hv, Option.bind_some, Node.textAs_ofValue_eq_ok_iff.1 htext]

/-- The price of a record is the one that documents are sorted by. -/
theorem priceAt?_of_ofValue {d : Value} {r : TicketRecord} (h : TicketRecord.ofValue d = .ok r) :
    (d.get? "ticketPrice").bind Value.int64? = some r.price := by
  obtain ⟨ms, rfl, hr⟩ := TicketRecord.exists_readFrom h
  obtain ⟨v, hv, hint⟩ := hr.price
  rw [Value.get?_object, hv, Option.bind_some, Node.int64_ofValue_eq_ok_iff.1 hint]

/-- The stock of a record is the one that filters see. -/
theorem remainingAt?_of_ofValue {d : Value} {r : TicketRecord} (h : TicketRecord.ofValue d = .ok r) :
    remainingAt? d = some r.totalRemaining := by
  obtain ⟨ms, rfl, hr⟩ := TicketRecord.exists_readFrom h
  obtain ⟨v, hv, hint⟩ := hr.totalRemaining
  unfold remainingAt?
  rw [Value.get?_object, hv, Option.bind_some, Node.int64_ofValue_eq_ok_iff.1 hint]

/-- A country that is written as an object has its code there, blanks at its ends aside. -/
theorem Country.exists_stringAt_code {ms : List (String × Value)} {c : Country}
    (h : Country.decode (.ofValue (.object ms)) = .ok c) :
    ∃ s, (Value.object ms).stringAt? "code" = some s ∧ c.code.text = trim s := by
  simp only [decode, Node.ofValue, Node.fields, bind_eq_ok_iff] at h
  obtain ⟨found, ⟨_, hfound, -, -, -, -, ⟨⟩⟩, name, -, code, hcode, city, -, place, -, ⟨⟩⟩ := h
  obtain ⟨w, hw, hid⟩ := exists_member_of_get hfound (.needed "code" (Node.id .country))
    (by simp [schema]) hcode
  obtain ⟨s, hs, hparse⟩ := Node.id_ofValue_eq_ok_iff.1 hid
  exact ⟨s, Option.bind_eq_some_iff.2 ⟨w, hw, hs⟩, Id.text_of_parse hparse⟩

/-- The code of a country is the one that stands in its object, blanks at its ends aside. -/
theorem Country.code_of_decode {v : Value} {c : Country} {s : String}
    (h : Country.decode (.ofValue v) = .ok c) (hs : v.stringAt? "code" = some s) :
    c.code.text = trim s := by
  cases v with
  | object ms =>
    obtain ⟨s', hs', hcode⟩ := Country.exists_stringAt_code h
    cases hs.symm.trans hs'
    exact hcode
  | null => cases hs
  | bool b => cases hs
  | number n => cases hs
  | string s => cases hs
  | array items => cases hs

/-- The country code of a record is the one that filters see, blanks at its ends aside. -/
theorem countryCode_of_ofValue {d : Value} {r : TicketRecord} {s : String}
    (h : TicketRecord.ofValue d = .ok r) (hs : countryCodeAt? d = some s) :
    r.country.code.text = trim s := by
  obtain ⟨ms, rfl, hr⟩ := TicketRecord.exists_readFrom h
  obtain ⟨v, hv, hdec⟩ := hr.country
  unfold countryCodeAt? at hs
  rw [Value.get?_object, hv, Option.bind_some] at hs
  exact Country.code_of_decode hdec hs

end BoxOffice
