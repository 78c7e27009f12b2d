import Mathlib.Data.List.Forall2

/-!
# Chains of steps that may fail

What a chain of steps in `Except` says of its steps, and what a list of steps says of each item.
-/

namespace BoxOffice

variable {ε ε' α β : Type}

theorem bind_eq_ok_iff {x : Except ε α} {f : α → Except ε β} {b : β} :
    (x >>= f) = .ok b ↔ ∃ a, x = .ok a ∧ f a = .ok b := by
  cases x with
  | ok a => exact ⟨fun h => ⟨a, rfl, h⟩, by rintro ⟨_, ⟨⟩, h⟩; exact h⟩
  | error e => exact ⟨nofun, by rintro ⟨_, ⟨⟩, -⟩⟩

theorem mapError_eq_ok_iff {f : ε → ε'} {x : Except ε α} {a : α} :
    x.mapError f = .ok a ↔ x = .ok a := by
  cases x <;> simp [Except.mapError]

theorem mapError_eq_error_iff {f : ε → ε'} {x : Except ε α} {e' : ε'} :
    x.mapError f = .error e' ↔ ∃ e, x = .error e ∧ e' = f e := by
  cases x <;> simp [Except.mapError, eq_comm]

theorem map_eq_ok_iff {f : α → β} {x : Except ε α} {b : β} :
    x.map f = .ok b ↔ ∃ a, x = .ok a ∧ f a = b := by
  cases x <;> simp [Except.map]

theorem map_eq_error_iff {f : α → β} {x : Except ε α} {e : ε} :
    x.map f = .error e ↔ x = .error e := by
  cases x <;> simp [Except.map]

theorem mapM_cons_eq (f : α → Except ε β) (a : α) (as : List α) :
    (a :: as).mapM f = f a >>= fun b => as.mapM f >>= fun bs => .ok (b :: bs) := by
  rw [List.mapM_cons]
  rfl

/-- A list of steps succeeds with the results of all its items. -/
theorem mapM_eq_ok_iff {f : α → Except ε β} {as : List α} {bs : List β} :
    as.mapM f = .ok bs ↔ List.Forall₂ (fun a b => f a = .ok b) as bs := by
  induction as generalizing bs with
  | nil => simp [pure, Except.pure, eq_comm]
  | cons a as ih =>
    simp only [mapM_cons_eq, bind_eq_ok_iff, ih, List.forall₂_cons_left_iff, Except.ok.injEq]
    constructor
    · rintro ⟨b, hb, bs', hbs, rfl⟩
      exact ⟨b, bs', hb, hbs, rfl⟩
    · rintro ⟨b, bs', hb, hbs, rfl⟩
      exact ⟨b, hb, bs', hbs, rfl⟩

/-- A list of steps fails as the first of its items that fails. -/
theorem mapM_eq_error_iff {f : α → Except ε β} {as : List α} {e : ε} :
    as.mapM f = .error e ↔ ∃ before a after bs, as = before ++ a :: after ∧
      List.Forall₂ (fun a b => f a = .ok b) before bs ∧ f a = .error e := by
  induction as with
  | nil => simp [pure, Except.pure]
  | cons a as ih =>
    rw [mapM_cons_eq]
    constructor
    · intro h
      cases ha : f a with
      | error e' =>
        rw [ha] at h
        cases h
        exact ⟨[], a, as, [], rfl, .nil, ha⟩
      | ok b =>
        rw [ha] at h
        cases has : as.mapM f with
        | ok bs =>
          rw [has] at h
          cases h
        | error e' =>
          rw [has] at h
          cases h
          obtain ⟨before, a', after, bs, rfl, hbs, ha'⟩ := ih.1 has
          exact ⟨a :: before, a', after, b :: bs, rfl, .cons ha hbs, ha'⟩
    · rintro ⟨before, a', after, bs, hsplit, hbs, ha'⟩
      cases hbs with
      | nil =>
        cases hsplit
        rw [ha']
        rfl
      | cons hb hbs =>
        cases hsplit
        rw [hb, ih.2 ⟨_, _, _, _, rfl, hbs, ha'⟩]
        rfl

/-- What is in the one list is related to something in the other. -/
theorem exists_of_forall₂ {R : α → β → Prop} {as : List α} {bs : List β} (h : List.Forall₂ R as bs) {a : α}
    (ha : a ∈ as) : ∃ b ∈ bs, R a b := by
  induction h with
  | nil => cases ha
  | cons hab _ ih =>
    rcases List.mem_cons.1 ha with rfl | ha
    · exact ⟨_, List.mem_cons_self, hab⟩
    · obtain ⟨b, hb, hR⟩ := ih ha
      exact ⟨b, List.mem_cons_of_mem _ hb, hR⟩

/-- Of a list of steps either all succeed or one fails. -/
theorem forall₂_or_exists_error (f : α → Except ε β) (as : List α) :
    (∃ bs, List.Forall₂ (fun a b => f a = .ok b) as bs) ∨ ∃ a ∈ as, ∀ b, f a ≠ .ok b := by
  cases h : as.mapM f with
  | ok bs => exact .inl ⟨bs, mapM_eq_ok_iff.1 h⟩
  | error e =>
    obtain ⟨before, a, after, bs, rfl, -, ha⟩ := mapM_eq_error_iff.1 h
    exact .inr ⟨a, by simp, by simp [ha]⟩

end BoxOffice
