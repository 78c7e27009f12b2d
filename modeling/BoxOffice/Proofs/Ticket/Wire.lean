import BoxOffice.Proofs.Json.Layout
import BoxOffice.Proofs.Json.Roundtrip
import BoxOffice.Proofs.Text.Utf8
import BoxOffice.Ticket.Notification
import BoxOffice.Ticket.Request
import BoxOffice.Ticket.View

/-!
# What goes over the wire is read back

Requests, notifications, views and listings are written as JSON texts. The text of each is read back as what was
written, whatever characters its texts are made of.

1. An object with one member for each field of a record, in the order of the fields, is read as the record
   (`PlainReading.record_of_members`).
2. So what is written is read from every plain node of its value (`decode_node`).
3. As its value has no real numbers and few brackets, it is read from the text of the value as well, and from the
   bytes of the text (`ReadsBack`).
-/

namespace BoxOffice

open BoxOffice.Json BoxOffice.Text

variable {α : Type}

/-! ## Values -/

section Values

variable {node : Value → Node}

/-- The member has the name of the field and holds what the field has to hold. -/
def Field.Fits (node : Value → Node) (f : Field) (m : String × Value) : Prop :=
  f.name = m.1 ∧ f.check (node m.2) = .ok ()

theorem Field.fits_needed {name : String} {decode : Node → Decoded α} {v : Value} {a : α}
    (ha : decode (node v) = .ok a) : (Field.needed name decode).Fits node (name, v) := by
  refine ⟨rfl, ?_⟩
  show (decode (node v)).map (fun _ => ()) = .ok ()
  rw [ha]
  rfl

variable (h : PlainReading node)

include h

theorem PlainReading.boolean (b : Bool) : (node (.bool b)).boolean = .ok b := by
  rw [h.bool]
  rfl

theorem PlainReading.text (s : String) : (node (.string s)).text = .ok s := h.text_eq_ok_iff.2 rfl

theorem PlainReading.id {kind : IdKind} (a : Id kind) : (node (.string a.text)).id kind = .ok a :=
  h.id_eq_ok_iff.2 ⟨a.text, rfl, a.parse_text⟩

/-- Items are read one by one. -/
theorem PlainReading.items {toValue : α → Value} {decode : Node → Decoded α}
    (hitem : ∀ a, decode (node (toValue a)) = .ok a) (as : List α) :
    (node (.array (as.map toValue))).items decode = .ok as := by
  obtain ⟨stop, hstop, hnode⟩ := h.array (as.map toValue)
  have hcareful : stop.careful = .ok () := by rcases hstop with rfl | rfl <;> rfl
  have hitems : ((as.map toValue).map node).mapM decode = .ok as := by
    rw [mapM_eq_ok_iff, List.map_map, List.forall₂_map_left_iff, List.forall₂_same]
    exact fun a _ => hitem a
  rw [hnode, Node.items, hitems, hcareful]
  rfl

/-- An object with one member for each field, in the order of the fields, is read as the record that its members
are read as. -/
theorem PlainReading.record_of_members {name : String} {fields : List Field} {ms : List (String × Value)} {a : α}
    {read : Fields → Decoded α} (hdistinct : (fields.map Field.name).Nodup)
    (hfits : List.Forall₂ (Field.Fits node) fields ms)
    (hread : ∀ found : Fields, (∀ m ∈ ms, found.lookup m.1 = some (node m.2)) → read found = .ok a) :
    ((node (.object ms)).fields name fields >>= read) = .ok a := by
  have hnames : ms.map Prod.fst = fields.map Field.name := by
    rw [← List.forall₂_eq_eq_eq, List.forall₂_map_left_iff, List.forall₂_map_right_iff]
    exact (hfits.imp fun f m hm => hm.1.symm).flip
  have honce : NamedOnce (fields.map Field.name) ms := by
    intro name _
    rw [hnames]
    exact List.nodup_iff_count_le_one.1 hdistinct name
  -- The member of a field's name is the one that fits the field.
  have hmember : ∀ m ∈ ms, ms.lookup m.1 = some m.2 := by
    intro m hm
    refine lookup_of_mem ?_ hm
    rw [hnames]
    exact List.nodup_iff_count_le_one.1 hdistinct m.1
  have hadmits : ∀ f ∈ fields, f.Admits node (ms.lookup f.name) := by
    intro f hf
    obtain ⟨m, hm, hname, hcheck⟩ := exists_of_forall₂ hfits hf
    rw [hname, hmember m hm]
    exact hcheck
  obtain ⟨found, hfound, hlookup⟩ : ∃ found, (node (.object ms)).fields name fields = .ok found ∧
      ∀ f ∈ fields, found.lookup f.name = (ms.lookup f.name).map node :=
    h.exists_fields hdistinct (.object honce) hadmits
  rw [hfound]
  refine hread found fun m hm => ?_
  obtain ⟨f, hf, hname, -⟩ := exists_of_forall₂ hfits.flip hm
  rw [← hname, hlookup f hf, hname, hmember m hm]
  rfl

/-! ## Records -/

theorem AvailabilityRequest.decode_node (r : AvailabilityRequest) : decode (node r.toValue) = .ok r := by
  have hcountry := h.id r.countryCode
  have hevent := h.id r.eventId
  apply h.record_of_members (by decide)
  · exact .cons (Field.fits_needed hcountry) (.cons (Field.fits_needed hevent) .nil)
  · intro found hfound
    simp only [List.forall_mem_cons] at hfound
    simp only [Fields.get, hfound, hcountry, hevent]
    rfl

theorem SwitchNotification.decode_node (n : SwitchNotification) : decode (node n.toValue) = .ok n := by
  have htag := h.id n.tag
  have hcountry := h.id n.countryCode
  apply h.record_of_members (by decide)
  · exact .cons (Field.fits_needed htag) (.cons (Field.fits_needed hcountry) .nil)
  · intro found hfound
    simp only [List.forall_mem_cons] at hfound
    simp only [Fields.get, hfound, htag, hcountry]
    rfl

theorem TicketView.decode_node (v : TicketView) : decode (node v.toValue) = .ok v := by
  have htext : ∀ name s, (Field.needed name Node.text).Fits node (name, .string s) :=
    fun _ s => Field.fits_needed (h.text s)
  have hsold : (Field.needed "isSold" Node.boolean).Fits node ("isSold", .bool v.isSold) :=
    Field.fits_needed (h.boolean v.isSold)
  apply h.record_of_members (by decide)
  · exact .cons (htext _ _) (.cons (htext _ _) (.cons (htext _ _) (.cons (htext _ _) (.cons (htext _ _)
      (.cons (htext _ _) (.cons hsold .nil))))))
  · intro found hfound
    simp only [List.forall_mem_cons] at hfound
    simp only [Fields.get, hfound, h.text, h.boolean]
    rfl

theorem SuggestionView.decode_node (v : SuggestionView) : decode (node v.toValue) = .ok v := by
  have htext : ∀ name s, (Field.needed name Node.text).Fits node (name, .string s) :=
    fun _ s => Field.fits_needed (h.text s)
  have hsold : (Field.needed "isSold" Node.boolean).Fits node ("isSold", .bool v.isSold) :=
    Field.fits_needed (h.boolean v.isSold)
  apply h.record_of_members (by decide)
  · exact .cons (htext _ _) (.cons (htext _ _) (.cons (htext _ _) (.cons (htext _ _) (.cons (htext _ _)
      (.cons (htext _ _) (.cons (htext _ _) (.cons (htext _ _) (.cons hsold .nil))))))))
  · intro found hfound
    simp only [List.forall_mem_cons] at hfound
    simp only [Fields.get, hfound, h.text, h.boolean]
    rfl

theorem TicketListing.decode_node (l : TicketListing) : decode (node l.toValue) = .ok l := by
  have htickets := h.items (fun v => TicketView.decode_node h v) l.tickets
  have hsuggestions := h.items (fun v => SuggestionView.decode_node h v) l.suggestions
  apply h.record_of_members (by decide)
  · exact .cons (Field.fits_needed htickets) (.cons (Field.fits_needed hsuggestions) .nil)
  · intro found hfound
    simp only [List.forall_mem_cons] at hfound
    simp only [Fields.get, hfound, htickets, hsuggestions]
    rfl

end Values

/-! ## Brackets -/

theorem TicketView.depth_toValue (v : TicketView) : v.toValue.depth = 1 := by
  simp [toValue, Value.depth, depthOfMembers]

theorem SuggestionView.depth_toValue (v : SuggestionView) : v.toValue.depth = 1 := by
  simp [toValue, Value.depth, depthOfMembers]

theorem TicketListing.isWhole_toValue (l : TicketListing) : l.toValue.isWhole = true := by
  have htickets : wholeItems (l.tickets.map TicketView.toValue) = true := wholeItems_map (fun _ => rfl) l.tickets
  have hsuggestions : wholeItems (l.suggestions.map SuggestionView.toValue) = true :=
    wholeItems_map (fun _ => rfl) l.suggestions
  simp [toValue, Value.isWhole, wholeMembers, htickets, hsuggestions]

theorem TicketListing.depth_toValue_le (l : TicketListing) : l.toValue.depth ≤ 3 := by
  have htickets : depthOfItems (l.tickets.map TicketView.toValue) ≤ 1 :=
    depthOfItems_map_le (fun v => Nat.le_of_eq v.depth_toValue) l.tickets
  have hsuggestions : depthOfItems (l.suggestions.map SuggestionView.toValue) ≤ 1 :=
    depthOfItems_map_le (fun v => Nat.le_of_eq v.depth_toValue) l.suggestions
  simp only [toValue, Value.depth, depthOfMembers]
  omega

/-! ## Texts -/

namespace Json.Reading

/-- A text is decoded if its value is and nothing follows it. -/
theorem decode_eq_ok_iff {r : Reading} {decode : Node → Decoded α} {a : α} :
    r.decode decode = .ok a ↔ decode r.node = .ok a ∧ r.trailing = false := by
  unfold Reading.decode
  rw [bind_eq_ok_iff]
  cases r.trailing <;> simp

/-- A text is read as its bytes are. -/
theorem ofBytes_encode (text : String) : ofBytes (Utf8.encode text) = ofText text := by
  unfold ofBytes
  rw [Utf8.symbols_encode]
  rfl

end Json.Reading

/-- What is written of a thing is read as that thing, from the text and from the bytes of the text. -/
structure ReadsBack (toValue : α → Value) (decode : Node → Decoded α) (a : α) : Prop where
  text : (Reading.ofText (toValue a).text).decode decode = .ok a
  bytes : (Reading.ofBytes (Utf8.encode (toValue a).text)).decode decode = .ok a

/-- What is read from every plain node of a value is read from the text of the value. -/
theorem readsBack_of_decode {toValue : α → Value} {decode : Node → Decoded α} {a : α}
    (hwhole : (toValue a).isWhole = true) (hdepth : (toValue a).depth ≤ greatestDepth)
    (hdecode : decode (toValue a).textNode = .ok a) : ReadsBack toValue decode a := by
  have htext : (Reading.ofText (toValue a).text).decode decode = .ok a := by
    rw [Reading.ofText_text hwhole hdepth]
    exact Reading.decode_eq_ok_iff.2 ⟨hdecode, rfl⟩
  refine ⟨htext, ?_⟩
  rw [Reading.ofBytes_encode]
  exact htext

theorem AvailabilityRequest.readsBack (r : AvailabilityRequest) : ReadsBack toValue decode r :=
  readsBack_of_decode rfl (by simp [toValue, Value.depth, depthOfMembers, greatestDepth])
    (decode_node plainReading_textNode r)

theorem SwitchNotification.readsBack (n : SwitchNotification) : ReadsBack toValue decode n :=
  readsBack_of_decode rfl (by simp [toValue, Value.depth, depthOfMembers, greatestDepth])
    (decode_node plainReading_textNode n)

theorem TicketView.readsBack (v : TicketView) : ReadsBack toValue decode v :=
  readsBack_of_decode rfl (by simp [depth_toValue, greatestDepth]) (decode_node plainReading_textNode v)

theorem SuggestionView.readsBack (v : SuggestionView) : ReadsBack toValue decode v :=
  readsBack_of_decode rfl (by simp [depth_toValue, greatestDepth]) (decode_node plainReading_textNode v)

theorem TicketListing.readsBack (l : TicketListing) : ReadsBack toValue decode l := by
  have hdepth : l.toValue.depth ≤ greatestDepth := Nat.le_trans l.depth_toValue_le (by decide)
  exact readsBack_of_decode l.isWhole_toValue hdepth (decode_node plainReading_textNode l)

end BoxOffice
