import BoxOffice.Proofs.Service.Listing

/-!
# The winner among its suggestions

The cheapest document that has stock is decoded, and its country code is cut free of blanks as it
is; the documents of the country are then looked up by the texts that stand in them. The document
that decided on the country is therefore among them if and only if its country code stands there
without blanks, in an object (`taggedIn_own_country_iff`). What a buyer sees of the winner is
suggested if and only if some document that is looked up looks the same (`Suggested.mem_iff`); a
winner with blanks around its country code may not be suggested at all.
-/

namespace BoxOffice

open BoxOffice.Json BoxOffice.Text

variable {π : Type} {ds : List Value} {t : Tag} {d : Value} {w : TicketRecord}
  {views : List SuggestionView}

/-- The document is a record that is shown as the view. -/
def ShownAs (v : SuggestionView) (d : Value) : Prop :=
  ∃ r, TicketRecord.ofValue d = .ok r ∧ SuggestionView.ofRecord .standard r = v

/-- The country code of the document stands in an object, without blanks around it. -/
def PlainCountry (d : Value) : Prop := ∃ s, countryCodeAt? d = some s ∧ trim s = s

/-! ## The document of the winner -/

theorem Id.trim_text {kind : IdKind} (a : Id kind) : trim a.text = a.text := by
  unfold trim
  rw [trimChars_eq_self a.trimmed, String.ofList_toList]

/-- The winner's document is among those of its country if its country code is plain. -/
theorem taggedIn_own_country_iff (hd : TicketRecord.ofValue d = .ok w) (hstock : StockedWith t d) :
    TaggedIn w.country.code t d ↔ PlainCountry d := by
  obtain ⟨hoffline, htag, -⟩ := hstock
  constructor
  · rintro ⟨-, hcode, -⟩
    exact ⟨_, hcode, w.country.code.trim_text⟩
  · rintro ⟨s, hs, htrim⟩
    have hcode : w.country.code.text = s := (countryCode_of_ofValue hd hs).trans htrim
    exact ⟨hoffline, by rw [hs, hcode], htag⟩

/-- The record that the lookup gives comes from the first document that has stock. -/
theorem exists_document_of_findMany {rest : List TicketRecord}
    (h : (⟨ds⟩ : MemoryStore).findMany (.cheapestAvailableByTag t) = .ok (some (w :: rest))) :
    ∃ d others, Arranged (StockedWith t) PriceBefore ds (d :: others) ∧
      TicketRecord.ofValue d = .ok w := by
  obtain ⟨_, hrs, ⟨⟩⟩ := MemoryStore.findMany_eq_ok_iff.1 h
  obtain ⟨stocked, hstocked, hsel⟩ := arranged_cheapestAvailableByTag ds t
  rw [hsel] at hrs
  cases stocked with
  | nil => cases hrs
  | cons d others =>
    cases hrs with
    | cons hd _ => exact ⟨d, others, hstocked, hd⟩

/-! ## What is suggested -/

theorem Decodes.mem_map_view_iff {rs : List TicketRecord} (h : Decodes ds rs) (v : SuggestionView) :
    v ∈ rs.map (SuggestionView.ofRecord .standard) ↔ ∃ d ∈ ds, ShownAs v d := by
  rw [List.mem_map]
  constructor
  · rintro ⟨r, hr, hv⟩
    obtain ⟨d, hd, hok⟩ := h.exists_of_mem_right hr
    exact ⟨d, hd, r, hok, hv⟩
  · rintro ⟨d, hd, r, hok, hv⟩
    obtain ⟨r', hr', hok'⟩ := h.exists_of_mem hd
    cases hok.symm.trans hok'
    exact ⟨r, hr', hv⟩

/-- A view is marked as sold if and only if the document that it shows has no ticket left. -/
theorem ShownAs.isSold_iff {v : SuggestionView} (h : ShownAs v d) :
    v.isSold = true ↔ remainingAt? d = some 0 := by
  obtain ⟨r, hr, rfl⟩ := h
  rw [remainingAt?_of_ofValue hr]
  show (r.totalRemaining == 0) = true ↔ _
  simp

theorem remainingAt?_ne_of_stocked (h : StockedWith t d) : remainingAt? d ≠ some 0 := by
  obtain ⟨-, -, n, hn, hpos⟩ := h
  rw [hn]
  rintro ⟨⟩
  exact absurd hpos (by decide)

section Suggested

variable {others : List Value} (hs : Suggested ds t (.ok views))
  (hw : Arranged (StockedWith t) PriceBefore ds (d :: others)) (hd : TicketRecord.ofValue d = .ok w)

include hs hw hd

/-- With a winner, the documents of its country with the tag are suggested. -/
theorem Suggested.exists_of_winner :
    ∃ alternatives rs, Arranged (TaggedIn w.country.code t) PriceBefore ds alternatives ∧
      Decodes alternatives rs ∧ views = rs.map (SuggestionView.ofRecord .standard) := by
  cases hs with
  | nowhere hnone => cases hw.unique hnone
  | alternatives hw' hd' halt hrs =>
    cases hw.unique hw'
    cases hd.symm.trans hd'
    exact ⟨_, _, halt, hrs, rfl⟩

/-- A view is suggested if and only if a document of the winner's country with the tag is shown as
it. -/
theorem Suggested.mem_iff (v : SuggestionView) :
    v ∈ views ↔ ∃ d' ∈ ds, TaggedIn w.country.code t d' ∧ ShownAs v d' := by
  obtain ⟨alternatives, rs, halt, hrs, rfl⟩ := hs.exists_of_winner hw hd
  rw [hrs.mem_map_view_iff]
  simp only [halt.mem_iff, and_assoc]

/-- Each document of the winner's country with the tag is shown as some view that is suggested. -/
theorem Suggested.exists_shownAs {d' : Value} (hd' : d' ∈ ds)
    (htag : TaggedIn w.country.code t d') : ∃ v ∈ views, ShownAs v d' := by
  obtain ⟨alternatives, rs, halt, hrs, -⟩ := hs.exists_of_winner hw hd
  obtain ⟨r, -, hr⟩ := hrs.exists_of_mem ((halt.mem_iff d').2 ⟨hd', htag⟩)
  have hshown : ShownAs (SuggestionView.ofRecord .standard r) d' := ⟨r, hr, rfl⟩
  exact ⟨_, (hs.mem_iff hw hd _).2 ⟨d', hd', htag, hshown⟩, hshown⟩

theorem Suggested.ne_nil_iff : views ≠ [] ↔ ∃ d' ∈ ds, TaggedIn w.country.code t d' := by
  constructor
  · intro hne
    obtain ⟨v, hv⟩ := List.exists_mem_of_ne_nil views hne
    obtain ⟨d', hd', htag, -⟩ := (hs.mem_iff hw hd v).1 hv
    exact ⟨d', hd', htag⟩
  · rintro ⟨d', hd', htag⟩
    obtain ⟨v, hv, -⟩ := hs.exists_shownAs hw hd hd' htag
    exact List.ne_nil_of_mem hv

theorem Suggested.exists_unsold_iff : (∃ v ∈ views, v.isSold = false) ↔
    ∃ d' ∈ ds, TaggedIn w.country.code t d' ∧ remainingAt? d' ≠ some 0 := by
  constructor
  · rintro ⟨v, hv, hunsold⟩
    obtain ⟨d', hd', htag, hshown⟩ := (hs.mem_iff hw hd v).1 hv
    refine ⟨d', hd', htag, fun hzero => ?_⟩
    rw [hshown.isSold_iff.2 hzero] at hunsold
    cases hunsold
  · rintro ⟨d', hd', htag, hrem⟩
    obtain ⟨v, hv, hshown⟩ := hs.exists_shownAs hw hd hd' htag
    exact ⟨v, hv, Bool.eq_false_iff.2 (mt hshown.isSold_iff.1 hrem)⟩

end Suggested

/-- When a search with a winner suggests the winner, anything at all, and anything that is left.
All of it is suggested if the country code of the winner's document is plain. -/
theorem suggest_shows_winner_iff (topic : String) (publisher : Publisher π) (deadline : Option Nat)
    (begin : π) (outer : List Span) (id : Uuid) {rest : List TicketRecord}
    (hfind : (⟨ds⟩ : MemoryStore).findMany (.cheapestAvailableByTag t) = .ok (some (w :: rest)))
    (hok : ((TicketService.withTopic topic).perform MemoryStore.store publisher deadline (⟨ds⟩, begin)
      ((TicketService.withTopic topic).suggest outer id t)).result = .ok views) :
    ∃ d others, Arranged (StockedWith t) PriceBefore ds (d :: others) ∧
      TicketRecord.ofValue d = .ok w ∧ (TaggedIn w.country.code t d ↔ PlainCountry d) ∧
      (SuggestionView.ofRecord .standard w ∈ views ↔ ∃ d' ∈ ds, TaggedIn w.country.code t d' ∧
        ShownAs (SuggestionView.ofRecord .standard w) d') ∧
      (views ≠ [] ↔ ∃ d' ∈ ds, TaggedIn w.country.code t d') ∧
      ((∃ v ∈ views, v.isSold = false) ↔
        ∃ d' ∈ ds, TaggedIn w.country.code t d' ∧ remainingAt? d' ≠ some 0) ∧
      (PlainCountry d → SuggestionView.ofRecord .standard w ∈ views ∧ views ≠ [] ∧
        ∃ v ∈ views, v.isSold = false) := by
  obtain ⟨d, others, hw, hd⟩ := exists_document_of_findMany hfind
  obtain ⟨hmem, hstock⟩ := (hw.mem_iff d).1 List.mem_cons_self
  -- Some answer is right for the documents, and the run ends in it, so it is the one that was given.
  have hs : Suggested ds t (.ok views) := by
    obtain ⟨answer, hs⟩ := exists_suggested ds t
    rw [perform_result, hs.result_suggest topic outer id deadline 0] at hok
    exact hok ▸ hs
  have hown := taggedIn_own_country_iff hd hstock
  have hview := hs.mem_iff hw hd (SuggestionView.ofRecord .standard w)
  have hany := hs.ne_nil_iff hw hd
  have hleft := hs.exists_unsold_iff hw hd
  refine ⟨d, others, hw, hd, hown, hview, hany, hleft, fun hplain => ?_⟩
  have htag := hown.2 hplain
  exact ⟨hview.2 ⟨d, hmem, htag, w, hd, rfl⟩, hany.2 ⟨d, hmem, htag⟩,
    hleft.2 ⟨d, hmem, htag, remainingAt?_ne_of_stocked hstock⟩⟩

/-! ## One document -/

/-- A document of a ticket in Singapore of which five are left, with a country code of any
spelling. -/
def ticketDocument (code : String) : Value := .object [
  ("ticketId", .string "t-1"),
  ("eventId", .string "e-1"),
  ("ticketType", .string "CAT 1"),
  ("ticketPrice", .int64 100),
  ("totalQuota", .int64 10),
  ("totalRemaining", .int64 5),
  ("continentName", .string "Asia"),
  ("continentCode", .string "AS"),
  ("country", .object [("name", .string "Singapore"), ("code", .string code)]),
  ("tag", .string "cat-1")]

/-- The record of `ticketDocument`, whatever blanks stand around the country code. -/
def ticketRecord : TicketRecord where
  ticketId := ⟨"t-1", by decide, trimmed_of_ends rfl rfl rfl rfl⟩
  eventId := ⟨"e-1", by decide, trimmed_of_ends rfl rfl rfl rfl⟩
  ticketType := "CAT 1"
  price := 100
  totalQuota := 10
  totalRemaining := 5
  continent := ⟨"Asia", "AS"⟩
  country := ⟨"Singapore", ⟨"SG", by decide, trimmed_of_ends rfl rfl rfl rfl⟩, "", ""⟩
  tag := ⟨"cat-1", by decide, trimmed_of_ends rfl rfl rfl rfl⟩
  createdAt := none
  updatedAt := none

/-- The winner is suggested where its document spells the country code without blanks. -/
theorem suggest_shows_plain_winner :
    let store : MemoryStore := ⟨[ticketDocument "SG"]⟩
    let service := TicketService.withTopic standardTopic
    let id : Uuid := ⟨List.replicate 32 0, rfl⟩
    ∃ views, store.findMany (.cheapestAvailableByTag ticketRecord.tag) = .ok (some [ticketRecord]) ∧
      (service.perform MemoryStore.store .refusing none (store, ())
        (service.suggest [] id ticketRecord.tag)).result = .ok views ∧
      SuggestionView.ofRecord .standard ticketRecord ∈ views ∧ views ≠ [] ∧
      ∃ v ∈ views, v.isSold = false := by
  intro store service id
  have hfind : store.findMany (.cheapestAvailableByTag ticketRecord.tag) =
      .ok (some [ticketRecord]) := by decide +kernel
  have hok : (service.perform MemoryStore.store .refusing none (store, ())
      (service.suggest [] id ticketRecord.tag)).result =
        .ok [SuggestionView.ofRecord .standard ticketRecord] := by decide +kernel
  obtain ⟨d, others, hw, -, -, -, -, -, hplain⟩ :=
    suggest_shows_winner_iff standardTopic .refusing none () [] id hfind hok
  have hd : d = ticketDocument "SG" :=
    List.mem_singleton.1 ((hw.mem_iff d).1 List.mem_cons_self).1
  refine ⟨_, hfind, hok, hplain ⟨"SG", ?_, by decide⟩⟩
  rw [hd]
  rfl

/-- A blank before the country code is enough: the lookup gives the record, but nothing is
suggested. -/
theorem suggest_omits_padded_winner :
    let store : MemoryStore := ⟨[ticketDocument " SG"]⟩
    let service := TicketService.withTopic standardTopic
    let id : Uuid := ⟨List.replicate 32 0, rfl⟩
    ∃ views, store.findMany (.cheapestAvailableByTag ticketRecord.tag) = .ok (some [ticketRecord]) ∧
      (service.perform MemoryStore.store .refusing none (store, ())
        (service.suggest [] id ticketRecord.tag)).result = .ok views ∧
      SuggestionView.ofRecord .standard ticketRecord ∉ views ∧ views = [] :=
  ⟨[], by decide +kernel, by decide +kernel, List.not_mem_nil, rfl⟩

end BoxOffice
