import Mathlib

namespace Checks

variable {α β ε ε' : Type}

/-- Fail with `e` when `c` holds, as a validator does before it goes on. -/
def refuse (c : Prop) [Decidable c] (e : ε) : Except ε Unit := if c then .error e else .ok ()

@[simp] theorem refuse_ok {c : Prop} [Decidable c] {e : ε} {u : Unit} :
    refuse c e = .ok u ↔ ¬c := by
  unfold refuse
  split <;> simp [*]

theorem refuse_congr {c c' : Prop} [Decidable c] [Decidable c'] {e : ε} (h : c ↔ c') :
    refuse c e = refuse c' e := by
  unfold refuse
  by_cases hc : c
  · rw [if_pos hc, if_pos (h.mp hc)]
  · rw [if_neg hc, if_neg (fun hc' => hc (h.mpr hc'))]

/-- A value that is only built together with the proof of its check. -/
theorem dite_ok {c : Prop} [Decidable c] {mk : c → α} {e : ε} {x : α} :
    (if h : c then .ok (mk h) else .error e) = Except.ok x ↔ ∃ h, mk h = x := by
  split
  next h => simp [h]
  next h => simp [h]

theorem bind_ok {r : Except ε α} {k : α → Except ε β} {y : β} :
    (r >>= k) = .ok y ↔ ∃ x, r = .ok x ∧ k x = .ok y := by
  cases r with
  | error e => simp [bind, Except.bind]
  | ok x => simp [bind, Except.bind]

@[simp] theorem pure_ok {x y : α} : (pure x : Except ε α) = .ok y ↔ x = y := by
  change Except.ok x = .ok y ↔ _
  simp

@[simp] theorem throw_ok {e : ε} {y : α} : (throw e : Except ε α) = .ok y ↔ False := by
  change Except.error e = .ok y ↔ _
  simp

@[simp] theorem mapError_ok {r : Except ε α} {f : ε → ε'} {y : α} :
    r.mapError f = .ok y ↔ r = .ok y := by
  cases r <;> simp [Except.mapError]

/-- A program fails where its first part fails, or behind it. -/
theorem bind_error {r : Except ε α} {k : α → Except ε β} {e : ε} :
    (r >>= k) = .error e ↔ r = .error e ∨ ∃ x, r = .ok x ∧ k x = .error e := by
  cases r with
  | error e' => simp [bind, Except.bind]
  | ok x => simp [bind, Except.bind]

theorem refuse_error {c : Prop} [Decidable c] {e e' : ε} :
    refuse c e = .error e' ↔ c ∧ e = e' := by
  unfold refuse
  split <;> simp [*]

theorem pure_error {x : α} {e : ε} : (pure x : Except ε α) ≠ .error e := by
  intro h
  cases h

theorem mapError_error {r : Except ε α} {f : ε → ε'} {e' : ε'} :
    r.mapError f = .error e' ↔ ∃ e, r = .error e ∧ f e = e' := by
  cases r <;> simp [Except.mapError]

theorem exists_unit {p : Unit → Prop} : (∃ u, p u) ↔ p () :=
  ⟨fun ⟨_, h⟩ => h, fun h => ⟨(), h⟩⟩

theorem ok_then (x : α) (k : α → Except ε β) : (Except.ok x >>= k) = k x := rfl

theorem error_then (e : ε) (k : α → Except ε β) : (Except.error e >>= k) = .error e := rfl

/-- Two checks in a row. -/
theorem then_ok {r : Except ε Unit} {k : Unit → Except ε β} {y : β} :
    (r >>= k) = .ok y ↔ r = .ok () ∧ k () = .ok y := by
  rw [bind_ok, exists_unit]

theorem exists_ok {r : Except ε α} (h : r.toOption.isSome = true) : ∃ x, r = .ok x := by
  cases r with
  | error e => cases h
  | ok x => exact ⟨x, rfl⟩

theorem exists_ok_any {r : Except ε α} {p : α → Bool} (h : r.toOption.any p = true) :
    ∃ x, r = .ok x ∧ p x = true := by
  cases r with
  | error e => cases h
  | ok x => exact ⟨x, rfl, h⟩

theorem forM_ok {xs : List α} {f : α → Except ε Unit} {u : Unit} :
    xs.forM f = .ok u ↔ ∀ x ∈ xs, f x = .ok () := by
  induction xs with
  | nil => simp [pure, Except.pure]
  | cons x xs ih =>
    change (f x >>= fun _ => xs.forM f) = _ ↔ _
    simp only [then_ok, ih, List.mem_cons, forall_eq_or_imp]

/-- An error of the program satisfies `P`. -/
def Fails (r : Except ε α) (P : ε → Prop) : Prop := ∀ e, r = .error e → P e

section Fails

variable {P : ε → Prop}

theorem fails_ok (x : α) : Fails (.ok x) P := by
  intro e he
  cases he

theorem fails_error {e : ε} (h : P e) : Fails (.error e : Except ε α) P := by
  intro e' he
  cases he
  exact h

theorem fails_refuse {c : Prop} [Decidable c] {e : ε} (h : P e) : Fails (refuse c e) P := by
  intro e' he
  obtain ⟨-, rfl⟩ := refuse_error.mp he
  exact h

theorem fails_bind {r : Except ε α} {k : α → Except ε β} (hr : Fails r P)
    (hk : ∀ x, Fails (k x) P) : Fails (r >>= k) P := by
  intro e he
  rcases bind_error.mp he with h | ⟨x, -, h⟩
  · exact hr e h
  · exact hk x e h

theorem fails_mapError {r : Except ε α} {f : ε → ε'} {P : ε' → Prop} (h : ∀ e, P (f e)) :
    Fails (r.mapError f) P := by
  intro e' he
  obtain ⟨e, -, rfl⟩ := mapError_error.mp he
  exact h e

end Fails

end Checks
