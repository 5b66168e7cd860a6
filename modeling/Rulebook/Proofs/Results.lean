/-!
# Rulebook.Proofs.Results

When a computation that can fail gives a certain value, and which errors it can give.

A chain of checks is taken apart with one lemma for each way of putting results together: in
sequence, over a list, or with another type of error.
-/

namespace Rulebook

variable {ε ε' α β : Type}

/-! ## Values -/

theorem bind_eq_ok_iff {x : Except ε α} {f : α → Except ε β} {b : β} :
    x >>= f = .ok b ↔ ∃ a, x = .ok a ∧ f a = .ok b := by
  cases x <;> simp [bind, Except.bind]

/-- What comes after a computation only matters for the value that it gives. -/
theorem bind_congr_ok {x : Except ε α} {f g : α → Except ε β} (h : ∀ a, x = .ok a → f a = g a) :
    x >>= f = x >>= g := by
  cases x with
  | error error => rfl
  | ok a => exact h a rfl

theorem eq_ok_of_toOption {x : Except ε α} {a : α} (h : x.toOption = some a) : x = .ok a := by
  cases x with
  | error error => cases h
  | ok b => rw [Option.some.inj h]

/-- A computation whose value is known in part succeeds. -/
theorem exists_eq_ok_of_map_toOption {σ : Type} {r : Except ε α × σ} {f : α → β} {b : β}
    (h : r.1.toOption.map f = some b) : ∃ a s, r = (.ok a, s) ∧ f a = b := by
  obtain ⟨outcome, s⟩ := r
  cases outcome with
  | error error => cases h
  | ok a => exact ⟨a, s, rfl, Option.some.inj h⟩

/-- A check in front of a computation. -/
theorem check_bind_eq_ok_iff {check : Except ε Unit} {f : Unit → Except ε β} {b : β} :
    check >>= f = .ok b ↔ check = .ok () ∧ f () = .ok b := by
  cases check <;> simp [bind, Except.bind]

theorem check_bind_eq_error_iff {check : Except ε Unit} {f : Unit → Except ε β} {error : ε} :
    check >>= f = .error error ↔ check = .error error ∨ check = .ok () ∧ f () = .error error := by
  cases check <;> simp [bind, Except.bind]

theorem mapError_eq_ok_iff {x : Except ε α} {f : ε → ε'} {a : α} :
    x.mapError f = .ok a ↔ x = .ok a := by
  cases x with
  | error error => exact ⟨nofun, nofun⟩
  | ok b =>
      show Except.ok b = Except.ok a ↔ _
      rw [Except.ok.injEq, Except.ok.injEq]

theorem exists_map_eq_ok_iff {x : Except ε α} {f : α → β} :
    (∃ b, x.map f = .ok b) ↔ ∃ a, x = .ok a := by
  cases x <;> simp [Except.map]

theorem pure_eq_ok_iff {a b : α} : (pure a : Except ε α) = .ok b ↔ a = b := by
  simp [pure, Except.pure]

/-- A reason to fail in front of a computation. -/
theorem ite_error_eq_ok_iff {p : Prop} [Decidable p] {error : ε} {x : Except ε α} {a : α} :
    (if p then .error error else x) = .ok a ↔ ¬p ∧ x = .ok a := by
  split <;> simp [*]

theorem ite_error_eq_error_iff {p : Prop} [Decidable p] {error error' : ε} {x : Except ε α} :
    (if p then .error error else x) = .error error' ↔
      p ∧ error = error' ∨ ¬p ∧ x = .error error' := by
  split <;> simp [*]

/-- A check of all items of a list succeeds if it does for each. -/
theorem forM_eq_ok_iff {f : α → Except ε Unit} {items : List α} :
    items.forM f = .ok () ↔ ∀ a ∈ items, f a = .ok () := by
  induction items with
  | nil => simp [pure, Except.pure]
  | cons a rest ih =>
      rw [List.forM_eq_forM] at ih
      rw [List.forM_eq_forM, List.forM_cons, check_bind_eq_ok_iff, ih, List.forall_mem_cons]

/-- A list is computed if each of its items is. -/
theorem mapM_eq_ok_iff {f : α → Except ε β} {items : List α} {results : List β} :
    items.mapM f = .ok results ↔ items.map f = results.map .ok := by
  induction items generalizing results with
  | nil => cases results <;> simp [pure, Except.pure]
  | cons a rest ih =>
      simp only [List.mapM_cons, bind_eq_ok_iff, pure_eq_ok_iff, List.map_cons, ih]
      constructor
      · rintro ⟨b, ha, bs, hrest, rfl⟩
        rw [List.map_cons, ha, hrest]
      · intro h
        cases results with
        | nil => cases h
        | cons b bs =>
            obtain ⟨ha, hrest⟩ := List.cons.inj h
            exact ⟨b, ha, bs, hrest, rfl⟩

/-- To put errors in other words does not make a list compute. -/
theorem mapM_mapError_eq_ok_iff {f : α → Except ε β} {g : ε → ε'} {items : List α}
    {results : List β} :
    (items.mapM fun a => (f a).mapError g) = .ok results ↔ items.mapM f = .ok results := by
  induction items generalizing results with
  | nil => simp [pure_eq_ok_iff]
  | cons a rest ih =>
      simp only [List.mapM_cons, bind_eq_ok_iff, mapError_eq_ok_iff, pure_eq_ok_iff, ih]

/-! ## Errors of a sort -/

/-- If the computation fails, then with an error of this sort. -/
def FailsOnly (P : ε → Prop) (x : Except ε α) : Prop :=
  ∀ error, x = .error error → P error

section FailsOnly

variable {P : ε → Prop} {x y : Except ε α}

theorem failsOnly_ok (a : α) : FailsOnly P (.ok a) := by
  rintro _ ⟨⟩

theorem failsOnly_error {error : ε} (h : P error) : FailsOnly P (.error error : Except ε α) := by
  rintro _ ⟨⟩
  exact h

theorem FailsOnly.bind {f : α → Except ε β} (hx : FailsOnly P x)
    (hf : ∀ a, x = .ok a → FailsOnly P (f a)) : FailsOnly P (x >>= f) := by
  cases x with
  | ok a => exact hf a rfl
  | error error => exact failsOnly_error (hx error rfl)

theorem FailsOnly.map {f : α → β} (hx : FailsOnly P x) : FailsOnly P (x.map f) := by
  cases x with
  | ok a => exact failsOnly_ok (f a)
  | error error => exact failsOnly_error (hx error rfl)

theorem FailsOnly.mapError {P : ε' → Prop} {f : ε → ε'}
    (h : FailsOnly (fun error => P (f error)) x) : FailsOnly P (x.mapError f) := by
  cases x with
  | ok a => exact failsOnly_ok a
  | error error => exact failsOnly_error (h error rfl)

theorem failsOnly_ite {p : Prop} [Decidable p] (hx : FailsOnly P x) (hy : FailsOnly P y) :
    FailsOnly P (if p then x else y) := by
  split
  · exact hx
  · exact hy

theorem failsOnly_forM {f : α → Except ε Unit} {items : List α}
    (h : ∀ a ∈ items, FailsOnly P (f a)) : FailsOnly P (items.forM f) := by
  induction items with
  | nil => exact failsOnly_ok ()
  | cons a rest ih =>
      rw [List.forall_mem_cons] at h
      exact h.1.bind fun _ _ => ih h.2

theorem failsOnly_mapM {f : α → Except ε β} {items : List α}
    (h : ∀ a ∈ items, FailsOnly P (f a)) : FailsOnly P (items.mapM f) := by
  induction items with
  | nil => exact failsOnly_ok []
  | cons a rest ih =>
      rw [List.forall_mem_cons] at h
      rw [List.mapM_cons]
      exact h.1.bind fun _ _ => (ih h.2).bind fun _ _ => failsOnly_ok _

end FailsOnly

end Rulebook
