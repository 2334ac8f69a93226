import Mathlib

namespace RunLength

variable {α : Type}

def expand : List (α × Nat) → List α
  | [] => []
  | (x, n) :: rest => List.replicate n x ++ expand rest

/-- Runs that are not empty and cannot be merged with the next one. -/
def Maximal : List (α × Nat) → Prop
  | [] => True
  | (x, n) :: rest => 0 < n ∧ (∀ run ∈ rest.head?, run.1 ≠ x) ∧ Maximal rest

/-- No run is longer than what all runs stand for. -/
theorem run_le_length {rs : List (α × Nat)} {run : α × Nat} (h : run ∈ rs) :
    run.2 ≤ (expand rs).length := by
  induction rs with
  | nil => cases h
  | cons first rest ih =>
    obtain ⟨x, n⟩ := first
    rw [expand, List.length_append, List.length_replicate]
    rcases List.mem_cons.mp h with heq | hrest
    · subst heq
      exact Nat.le_add_right _ _
    · have hle := ih hrest
      omega

variable [DecidableEq α]

/-- The maximal runs of equal elements, in order. -/
def runs : List α → List (α × Nat)
  | [] => []
  | x :: rest =>
    match runs rest with
    | [] => [(x, 1)]
    | (y, n) :: behind => if x = y then (y, n + 1) :: behind else (x, 1) :: (y, n) :: behind

theorem runs_cons_of_head {x : α} {rest : List α} {n : Nat} {behind : List (α × Nat)}
    (h : runs rest = (x, n) :: behind) : runs (x :: rest) = (x, n + 1) :: behind := by
  rw [runs, h]
  exact if_pos rfl

theorem runs_cons_of_ne {x : α} {rest : List α} (h : ∀ run ∈ (runs rest).head?, run.1 ≠ x) :
    runs (x :: rest) = (x, 1) :: runs rest := by
  rw [runs]
  cases hrest : runs rest with
  | nil => rfl
  | cons run behind =>
    obtain ⟨y, n⟩ := run
    rw [hrest] at h
    have hne : y ≠ x := h (y, n) rfl
    exact if_neg hne.symm

theorem runs_maximal (xs : List α) : Maximal (runs xs) := by
  induction xs with
  | nil => trivial
  | cons x rest ih =>
    cases hrest : runs rest with
    | nil =>
      rw [runs, hrest]
      exact ⟨Nat.one_pos, by simp, trivial⟩
    | cons run behind =>
      obtain ⟨y, n⟩ := run
      rw [hrest] at ih
      by_cases hxy : x = y
      · subst hxy
        rw [runs_cons_of_head hrest]
        exact ⟨Nat.succ_pos n, ih.2.1, ih.2.2⟩
      · have hne : ∀ run ∈ (runs rest).head?, run.1 ≠ x := by
          rw [hrest]
          intro run hrun
          cases hrun
          exact fun heq => hxy heq.symm
        rw [runs_cons_of_ne hne, hrest]
        rw [hrest] at hne
        exact ⟨Nat.one_pos, hne, ih⟩

theorem expand_runs (xs : List α) : expand (runs xs) = xs := by
  induction xs with
  | nil => rfl
  | cons x rest ih =>
    cases hrest : runs rest with
    | nil =>
      rw [hrest] at ih
      rw [runs, hrest, ← ih]
      rfl
    | cons run behind =>
      obtain ⟨y, n⟩ := run
      rw [hrest] at ih
      by_cases hxy : x = y
      · subst hxy
        rw [runs_cons_of_head hrest, ← ih, expand, expand, List.replicate_succ, List.cons_append]
      · rw [runs, hrest]
        dsimp only
        rw [if_neg hxy, expand, ih]
        rfl

/-- Elements in front of others are one run when the others start differently. -/
theorem runs_replicate_append {x : α} {n : Nat} {rest : List α} (hn : 0 < n)
    (h : ∀ run ∈ (runs rest).head?, run.1 ≠ x) :
    runs (List.replicate n x ++ rest) = (x, n) :: runs rest := by
  induction n with
  | zero => omega
  | succ n ih =>
    rw [List.replicate_succ, List.cons_append]
    rcases Nat.eq_zero_or_pos n with hzero | hpos
    · subst hzero
      exact runs_cons_of_ne h
    · exact runs_cons_of_head (ih hpos)

/-- Maximal runs are those of what they stand for. -/
theorem runs_expand {rs : List (α × Nat)} (h : Maximal rs) : runs (expand rs) = rs := by
  induction rs with
  | nil => rfl
  | cons run rest ih =>
    obtain ⟨x, n⟩ := run
    obtain ⟨hpos, hhead, hrest⟩ := h
    have hruns := ih hrest
    rw [expand, runs_replicate_append hpos (by rw [hruns]; exact hhead), hruns]

theorem runs_head (x : α) (rest : List α) : ∃ n behind, runs (x :: rest) = (x, n) :: behind := by
  rw [runs]
  split
  next => exact ⟨1, [], rfl⟩
  next y n behind hrest =>
    split
    next hxy =>
      subst hxy
      exact ⟨n + 1, behind, rfl⟩
    next => exact ⟨1, (y, n) :: behind, rfl⟩

theorem length_runs_same (x : α) (rest : List α) :
    (runs (x :: x :: rest)).length = (runs (x :: rest)).length := by
  obtain ⟨n, behind, hruns⟩ := runs_head x rest
  rw [runs_cons_of_head hruns, hruns, List.length_cons, List.length_cons]

theorem length_runs_ne {x y : α} (rest : List α) (h : y ≠ x) :
    (runs (x :: y :: rest)).length = (runs (y :: rest)).length + 1 := by
  obtain ⟨n, behind, hruns⟩ := runs_head y rest
  have hhead : ∀ run ∈ (runs (y :: rest)).head?, run.1 ≠ x := by
    rw [hruns]
    intro run hrun
    cases hrun
    exact h
  rw [runs_cons_of_ne hhead, List.length_cons]

/-- There are not more runs than elements. -/
theorem length_runs_le (xs : List α) : (runs xs).length ≤ xs.length := by
  induction xs with
  | nil => exact Nat.le_refl 0
  | cons x rest ih =>
    rw [runs]
    split
    next hrest => simp
    next y n behind hrest =>
      rw [hrest, List.length_cons] at ih
      rw [List.length_cons]
      split
      next => rw [List.length_cons]; omega
      next => rw [List.length_cons, List.length_cons]; omega

end RunLength
