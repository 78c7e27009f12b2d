import BoxOffice.Proofs.Store.Filter
import BoxOffice.Proofs.Ticket.Roundtrip

/-!
# What filters mean

A filter looks at the members of a raw document; what it means is said of a record.

1. A record is shown in the document that it is written as (`TicketRecord.shownIn_toValue`), also when the
   members are put in order (`TicketRecord.shownIn_ordered`): under the names that filters look at stand the
   fields of the record.
2. Where a record is shown, a filter accepts the document if and only if it describes the record
   (`TicketRecord.ShownIn.accepts_iff`).
3. Where no record need be shown, a document is still about one country and event, or about none. The filters
   for the offline and for the online tickets of a country and event share out the documents about them
   between each other (`filters_mean_records`).
-/

namespace BoxOffice

open BoxOffice.Json BoxOffice.Text

variable {f : TicketFilter} {r : TicketRecord} {d : Value}

/-! ## What a filter asks for -/

/-- The filter asks for the record: for its channel, for the identifiers that are set, and for stock where
that is asked for. -/
structure TicketFilter.Describes (f : TicketFilter) (r : TicketRecord) : Prop where
  channel : r.isOnline = true ↔ f.channel = .online
  country : ∀ c, f.countryCode = some c → r.country.code = c
  event : ∀ e, f.eventId = some e → r.eventId = e
  tag : ∀ t, f.tag = some t → r.tag = t
  stock : f.availableOnly = true → 0 < r.totalRemaining

theorem TicketFilter.accepts_eq_true_iff : f.accepts d = true ↔
    f.channel.admits (d.stringAt? "ticketType") = true ∧
      (∀ c, f.countryCode = some c → countryCodeAt? d = some c.text) ∧
      (∀ e, f.eventId = some e → d.stringAt? "eventId" = some e.text) ∧
      (∀ t, f.tag = some t → d.stringAt? "tag" = some t.text) ∧
      (f.availableOnly = true → ∃ n, remainingAt? d = some n ∧ 0 < n) := by
  have hstock : (!f.availableOnly || (remainingAt? d).any (0 < ·)) = true ↔
      (f.availableOnly = true → ∃ n, remainingAt? d = some n ∧ 0 < n) := by
    cases f.availableOnly <;> simp [Option.any_eq_true]
  unfold accepts
  simp only [Bool.and_eq_true, hstock, Option.all_eq_true, beq_iff_eq, and_assoc]

theorem Channel.admits_some_iff {c : Channel} {s : String} :
    c.admits (some s) = true ↔ (s = onlineTicketType ↔ c = .online) := by
  cases c <;> simp [admits]

/-! ## Documents that show a record -/

/-- What filters look at in the document is what the record says. -/
structure TicketRecord.ShownIn (r : TicketRecord) (d : Value) : Prop where
  ticketType : d.stringAt? "ticketType" = some r.ticketType
  country : countryCodeAt? d = some r.country.code.text
  event : d.stringAt? "eventId" = some r.eventId.text
  tag : d.stringAt? "tag" = some r.tag.text
  remaining : remainingAt? d = some r.totalRemaining

theorem Id.some_text_eq_iff {kind : IdKind} {a b : Id kind} : some a.text = some b.text ↔ a = b := by
  constructor
  · intro h
    exact Id.ext_text (Option.some.inj h)
  · rintro rfl
    rfl

/-- Where a record is shown, a filter accepts what it describes. -/
theorem TicketRecord.ShownIn.accepts_iff (h : r.ShownIn d) : f.accepts d = true ↔ f.Describes r := by
  have honline : r.isOnline = true ↔ r.ticketType = onlineTicketType := beq_iff_eq
  have hstock : (∃ n, remainingAt? d = some n ∧ 0 < n) ↔ 0 < r.totalRemaining := by
    rw [h.remaining]
    simp
  rw [TicketFilter.accepts_eq_true_iff, h.ticketType, h.country, h.event, h.tag, hstock,
    Channel.admits_some_iff, ← honline]
  simp only [Id.some_text_eq_iff]
  constructor
  · rintro ⟨hchannel, hcountry, hevent, htag, hstock⟩
    exact ⟨hchannel, hcountry, hevent, htag, hstock⟩
  · intro hf
    exact ⟨hf.channel, hf.country, hf.event, hf.tag, hf.stock⟩

/-! ## The document of a record -/

section Ordered

variable {ms : List (String × Value)} {name : String}

/-- Under a name that comes once stands the same value, in order. -/
theorem Json.Value.get?_ordered (honce : (ms.map Prod.fst).count name ≤ 1) :
    (Value.object ms).ordered.get? name = ((Value.object ms).get? name).map Value.ordered :=
  lookup_ordered_of_once honce

theorem Json.Value.string?_ordered (v : Value) : v.ordered.string? = v.string? := by
  cases v <;> rfl

theorem Json.Value.int64?_ordered (v : Value) : v.ordered.int64? = v.int64? := by
  cases v <;> rfl

theorem Json.Value.stringAt?_ordered (honce : (ms.map Prod.fst).count name ≤ 1) :
    (Value.object ms).ordered.stringAt? name = (Value.object ms).stringAt? name := by
  unfold stringAt?
  rw [get?_ordered honce, Option.bind_map]
  congr 1
  funext v
  exact string?_ordered v

end Ordered

namespace TicketRecord

theorem shownIn_toValue (r : TicketRecord) : r.ShownIn r.toValue where
  ticketType := rfl
  country := rfl
  event := rfl
  tag := rfl
  remaining := Whole.int64?_ofInt64 r.totalRemaining

theorem shownIn_ordered (r : TicketRecord) : r.ShownIn r.toValue.ordered := by
  have honce : ∀ name, (r.members.map Prod.fst).count name ≤ 1 :=
    fun name => r.namedOnce_members [name] name (List.mem_singleton_self name)
  have hshown := r.shownIn_toValue
  refine ⟨?_, ?_, ?_, ?_, ?_⟩
  · exact (Value.stringAt?_ordered (honce _)).trans hshown.ticketType
  · -- The country is put in order itself, and its code comes once there.
    have hcountry : r.toValue.ordered.get? "country" = some r.country.toValue.ordered :=
      Value.get?_ordered (honce _)
    have hcode : r.country.toValue.ordered.stringAt? "code" = r.country.toValue.stringAt? "code" :=
      Value.stringAt?_ordered (List.nodup_iff_count_le_one.1 Country.nodup_names "code")
    unfold countryCodeAt?
    rw [hcountry, Option.bind_some, hcode]
    rfl
  · exact (Value.stringAt?_ordered (honce _)).trans hshown.event
  · exact (Value.stringAt?_ordered (honce _)).trans hshown.tag
  · have hremaining : r.toValue.ordered.get? "totalRemaining" = some (Value.int64 r.totalRemaining).ordered :=
      Value.get?_ordered (honce _)
    unfold remainingAt?
    rw [hremaining, Option.bind_some, Value.int64?_ordered]
    exact Whole.int64?_ofInt64 r.totalRemaining

end TicketRecord

/-! ## Documents of any shape -/

/-- The place in an array that a step of a pointer names: digits, without a zero before others. -/
def stepIndex? (step : String) : Option Nat :=
  let ds := step.toList
  if ds ≠ [] ∧ ds.all isDigit ∧ (ds.head? = some '0' → ds = ['0']) then some (natOfDigits ds) else none

/-- What a step of a pointer leads to: a member of an object by its name, an item of an array by its place. -/
def Json.Value.step? (v : Value) (step : String) : Option Value :=
  match v with
  | .object members => members.lookup step
  | .array items => (stepIndex? step).bind (items[·]?)
  | _ => none

/-- What a pointer leads to, step by step. -/
def Json.Value.pointsTo? (v : Value) (steps : List String) : Option Value := steps.foldlM Value.step? v

/-- The document is about a country and an event: the pointer `/country/code` leads to the one's text, and
`eventId` is the other's. -/
def ConcernedWith (c : CountryCode) (e : EventId) (d : Value) : Prop :=
  d.pointsTo? ["country", "code"] = some (.string c.text) ∧ d.get? "eventId" = some (.string e.text)

/-- No array has an item under a name that is no number. -/
theorem Json.Value.step?_eq_get? {step : String} (hstep : stepIndex? step = none) (v : Value) :
    v.step? step = v.get? step := by
  cases v with
  | array items =>
    show (stepIndex? step).bind (items[·]?) = none
    rw [hstep]
    rfl
  | _ => rfl

/-- The country code that filters look at is what the pointer leads to, if that is a string. -/
theorem countryCodeAt?_eq (d : Value) :
    countryCodeAt? d = (d.pointsTo? ["country", "code"]).bind Value.string? := by
  have hcountry : ∀ v : Value, v.step? "country" = v.get? "country" :=
    Value.step?_eq_get? (by decide)
  have hcode : ∀ v : Value, v.step? "code" = v.get? "code" := Value.step?_eq_get? (by decide)
  unfold countryCodeAt? Value.pointsTo?
  rw [List.foldlM_cons, hcountry, Option.bind_eq_bind, Option.bind_assoc]
  congr 1
  funext v
  rw [List.foldlM_cons, hcode]
  unfold Value.stringAt?
  cases v.get? "code" <;> rfl

theorem bind_string?_eq_some_iff {o : Option Value} {s : String} :
    o.bind Value.string? = some s ↔ o = some (.string s) := by
  simp [Option.bind_eq_some_iff, Value.string?_eq_some_iff]

section Shares

variable {c : CountryCode} {e : EventId}

theorem concernedWith_iff : ConcernedWith c e d ↔
    countryCodeAt? d = some c.text ∧ d.stringAt? "eventId" = some e.text := by
  unfold ConcernedWith Value.stringAt?
  rw [countryCodeAt?_eq, bind_string?_eq_some_iff, bind_string?_eq_some_iff]

/-- The offline tickets of a country and event are those about them that are not sold online, which includes
documents without a type. -/
theorem offeredFor_iff : OfferedFor ⟨c, e⟩ d ↔
    ConcernedWith c e d ∧ d.get? "ticketType" ≠ some (.string "Online") := by
  have hoffline : Offline d ↔ d.get? "ticketType" ≠ some (.string "Online") :=
    not_congr bind_string?_eq_some_iff
  unfold OfferedFor
  rw [concernedWith_iff, hoffline, and_comm]

theorem soldOnlineFor_iff : SoldOnlineFor ⟨c, e⟩ d ↔
    ConcernedWith c e d ∧ d.get? "ticketType" = some (.string "Online") := by
  have honline : d.stringAt? "ticketType" = some "Online" ↔
      d.get? "ticketType" = some (.string "Online") := bind_string?_eq_some_iff
  unfold SoldOnlineFor
  rw [concernedWith_iff, honline, and_comm]

end Shares

/-- A filter accepts the document that a record is written as, and is read as again, if and only if it
describes the record. Documents of any shape that are about a country and event are accepted by one of the
filters for their offline and their online tickets, and no others are; none is accepted by both. -/
theorem filters_mean_records :
    (∀ (r : TicketRecord) (f : TicketFilter), Value.ofText r.toValue.text = .ok r.toValue.ordered ∧
      (f.accepts r.toValue.ordered = true ↔ f.Describes r) ∧
      (f.accepts r.toValue = true ↔ f.Describes r)) ∧
    ∀ (d : Value) (c : CountryCode) (e : EventId),
      let offline := (TicketQuery.offlineByCountryEvent c e).filter
      let online := (TicketQuery.onlineByCountryEvent c e).filter
      ¬ (offline.accepts d = true ∧ online.accepts d = true) ∧
        (offline.accepts d = true ∨ online.accepts d = true ↔ ConcernedWith c e d) ∧
        (online.accepts d = true ↔
          ConcernedWith c e d ∧ d.get? "ticketType" = some (.string "Online")) := by
  refine ⟨fun r f => ?_, fun d c e => ?_⟩
  · have hdepth : r.toValue.depth ≤ greatestDepth := by
      rw [r.depth_toValue]
      decide
    exact ⟨Value.ofText_text r.isWhole_toValue hdepth, r.shownIn_ordered.accepts_iff,
      r.shownIn_toValue.accepts_iff⟩
  · intro offline online
    have hoffline : offline.accepts d = true ↔
        ConcernedWith c e d ∧ d.get? "ticketType" ≠ some (.string "Online") :=
      accepts_offlineByCountryEvent.trans offeredFor_iff
    have honline : online.accepts d = true ↔
        ConcernedWith c e d ∧ d.get? "ticketType" = some (.string "Online") :=
      accepts_onlineByCountryEvent.trans soldOnlineFor_iff
    refine ⟨?_, ?_, honline⟩
    · rintro ⟨hoff, hon⟩
      exact (hoffline.1 hoff).2 (honline.1 hon).2
    · rw [hoffline, honline, ← and_or_left]
      exact and_iff_left (ne_or_eq _ _)

end BoxOffice
