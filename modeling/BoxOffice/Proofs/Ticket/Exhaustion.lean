import BoxOffice.Ticket.Policy

/-!
# Exhaustion

Under the standard policy a country is exhausted when four of its records have no ticket left
(`isExhausted_assess_iff`). Until then its online ticket waits, if it has any record at all
(`onlineEligibility_assess_iff`). An exhausted country has a last record, so that its tag is known
(`Exhausted.exists_last`).

All of this is counted, whatever the policy: the order of the records tells only which one is the last
(`sameStanding_of_perm`), counts of parts add up (`soldOut_assess_append`), and further records do not
undo what is exhausted (`status_assess_of_sublist`).
-/

namespace BoxOffice

/-- The number of records with no ticket left. -/
def soldOutCount (rs : List TicketRecord) : Nat := rs.countP fun r => r.totalRemaining = 0

/-- At least four records have no ticket left. -/
def Exhausted (rs : List TicketRecord) : Prop := 4 ≤ soldOutCount rs

instance (rs : List TicketRecord) : Decidable (Exhausted rs) := by unfold Exhausted; infer_instance

theorem soldOut_assess (p : AvailabilityPolicy) (rs : List TicketRecord) :
    (p.assess rs).soldOut = soldOutCount rs := by
  show rs.countP TicketRecord.isSold = _
  unfold soldOutCount
  congr 1

theorem status_eq_exhausted_iff {a : OfflineAssessment} :
    a.status = .exhausted ↔ a.threshold ≤ a.soldOut := by
  unfold OfflineAssessment.status
  by_cases h : a.threshold ≤ a.soldOut
  · simp [h]
  · rw [if_neg h]
    split <;> simp [h]

theorem isExhausted_assess_iff (rs : List TicketRecord) :
    (AvailabilityPolicy.standard.assess rs).isExhausted = true ↔ Exhausted rs := by
  unfold OfflineAssessment.isExhausted Exhausted
  rw [beq_iff_eq, status_eq_exhausted_iff, soldOut_assess]
  rfl

/-- The online ticket waits while there are records and fewer than four of them are sold out. -/
theorem onlineEligibility_assess_iff (rs : List TicketRecord) :
    (AvailabilityPolicy.standard.assess rs).onlineEligibility = .offlineAvailable ↔
      rs ≠ [] ∧ ¬ Exhausted rs := by
  have hstatus : (AvailabilityPolicy.standard.assess rs).status =
      if 4 ≤ soldOutCount rs then .exhausted else if rs.length = 0 then .empty else .available := by
    rw [← soldOut_assess .standard rs]
    rfl
  unfold OfflineAssessment.onlineEligibility Exhausted
  rw [hstatus, ne_eq, ← List.length_eq_zero_iff]
  by_cases h4 : 4 ≤ soldOutCount rs
  · simp [h4]
  · by_cases h0 : rs.length = 0 <;> simp [h4, h0]

theorem Exhausted.exists_last {rs : List TicketRecord} (h : Exhausted rs) :
    ∃ last, rs.getLast? = some last := by
  cases hl : rs.getLast? with
  | some last => exact ⟨last, rfl⟩
  | none =>
    rw [List.getLast?_eq_none_iff.1 hl] at h
    exact absurd h (by decide)

theorem lastTag_assess_of_last (p : AvailabilityPolicy) {rs : List TicketRecord} {last : TicketRecord}
    (h : rs.getLast? = some last) : (p.assess rs).lastTag = some last.tag := by
  show rs.getLast?.map TicketRecord.tag = _
  rw [h]
  rfl

/-! ## Records in any order -/

/-- Two assessments tell the same of a country, but perhaps for the tag of the last record. -/
structure OfflineAssessment.SameStanding (a b : OfflineAssessment) : Prop where
  total : a.total = b.total
  soldOut : a.soldOut = b.soldOut
  status : a.status = b.status
  onlineEligibility : a.onlineEligibility = b.onlineEligibility

section Policy

variable (p : AvailabilityPolicy) {rs rs' : List TicketRecord}

/-- The standing is decided by the two counts. -/
theorem sameStanding_of_counts (htotal : (p.assess rs').total = (p.assess rs).total)
    (hsoldOut : (p.assess rs').soldOut = (p.assess rs).soldOut) :
    (p.assess rs').SameStanding (p.assess rs) := by
  have hthreshold : (p.assess rs').threshold = (p.assess rs).threshold := rfl
  have hstatus : (p.assess rs').status = (p.assess rs).status := by
    unfold OfflineAssessment.status
    rw [htotal, hsoldOut, hthreshold]
  refine ⟨htotal, hsoldOut, hstatus, ?_⟩
  unfold OfflineAssessment.onlineEligibility
  rw [hstatus]

theorem sameStanding_of_perm (h : rs'.Perm rs) : (p.assess rs').SameStanding (p.assess rs) :=
  sameStanding_of_counts p h.length_eq (h.countP_eq _)

theorem soldOut_assess_append (rs more : List TicketRecord) :
    (p.assess (rs ++ more)).soldOut = (p.assess rs).soldOut + (p.assess more).soldOut :=
  List.countP_append

/-- Records that come in between others sell nothing back. -/
theorem status_assess_of_sublist (h : (p.assess rs).status = .exhausted) (hsub : rs.Sublist rs') :
    (p.assess rs').status = .exhausted := by
  rw [status_eq_exhausted_iff] at h ⊢
  have hcount : (p.assess rs).soldOut ≤ (p.assess rs').soldOut := hsub.countP_le
  exact Nat.le_trans h hcount

end Policy

end BoxOffice
