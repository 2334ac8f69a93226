import Historian.Checks

namespace Files

open Checks

variable {ν β : Type} {ε α γ : Type}

/-- A flat directory: finitely many names, each with the content of its file. -/
abbrev Directory (ν β : Type) := Finmap fun _ : ν => β

/-- One completed change of a directory. Between two of them a process may stop. -/
inductive Effect (ν β : Type) where
  | put (name : ν) (content : β)
  | rename (source target : ν)
  | remove (name : ν)

/-- A program over a directory: its answer and the changes that it made, in order. The
changes stay when the answer is an error. -/
def Action (ν β ε α : Type) := Directory ν β → Except ε α × List (Effect ν β)

variable [DecidableEq ν]

def Effect.apply (d : Directory ν β) : Effect ν β → Directory ν β
  | .put name content => d.insert name content
  | .rename source target =>
    match d.lookup source with
    | some content => (d.erase source).insert target content
    | none => d
  | .remove name => d.erase name

def applyAll (d : Directory ν β) (effects : List (Effect ν β)) : Directory ν β :=
  effects.foldl Effect.apply d

/-- The first program, and then what the second makes of its value and its directory. -/
def Action.andThen (a : Action ν β ε α) (k : α → Action ν β ε γ) : Action ν β ε γ := fun d =>
  match a d with
  | (.error e, effects) => (.error e, effects)
  | (.ok x, effects) =>
    let next := k x (applyAll d effects)
    (next.1, effects ++ next.2)

instance : Monad (Action ν β ε) where
  pure x := fun _ => (.ok x, [])
  bind := Action.andThen

/-- A computation that only looks at the directory. -/
def look (r : Directory ν β → Except ε α) : Action ν β ε α := fun d => (r d, [])

/-- A computation that does not depend on the directory. -/
def ensure (r : Except ε α) : Action ν β ε α := fun _ => (r, [])

def emit (effect : Effect ν β) : Action ν β ε Unit := fun _ => (.ok (), [effect])

/-- Removal of a file that may be missing: only a present one is a change. -/
def removeIfPresent (name : ν) : Action ν β ε Unit := fun d =>
  (.ok (), if (d.lookup name).isSome then [.remove name] else [])

/-- Removal of several files, one after the other. -/
def removeEach : List ν → Action ν β ε Unit
  | [] => pure ()
  | name :: rest => do
    removeIfPresent name
    removeEach rest

def Action.mapError {ε' : Type} (f : ε → ε') (a : Action ν β ε α) : Action ν β ε' α := fun d =>
  ((a d).1.mapError f, (a d).2)

/-- The directory that a program leaves. -/
def Action.after (a : Action ν β ε α) (d : Directory ν β) : Directory ν β := applyAll d (a d).2

@[simp] theorem applyAll_nil (d : Directory ν β) : applyAll d [] = d := rfl

@[simp] theorem applyAll_cons (d : Directory ν β) (effect : Effect ν β)
    (effects : List (Effect ν β)) :
    applyAll d (effect :: effects) = applyAll (effect.apply d) effects := rfl

theorem applyAll_append (d : Directory ν β) (first second : List (Effect ν β)) :
    applyAll d (first ++ second) = applyAll (applyAll d first) second := by
  simp [applyAll, List.foldl_append]

theorem run_pure (x : α) (d : Directory ν β) :
    (pure x : Action ν β ε α) d = (.ok x, []) := rfl

theorem run_pure_bind (x : α) (k : α → Action ν β ε γ) (d : Directory ν β) :
    ((pure x : Action ν β ε α) >>= k) d = k x d := rfl

theorem run_bind (a : Action ν β ε α) (k : α → Action ν β ε γ) (d : Directory ν β) :
    (a >>= k) d =
      match a d with
      | (.error e, effects) => (.error e, effects)
      | (.ok x, effects) =>
        ((k x (applyAll d effects)).1, effects ++ (k x (applyAll d effects)).2) := rfl

/-- A read in front of a program changes nothing and passes its value on. -/
theorem run_look_bind (r : Directory ν β → Except ε α) (k : α → Action ν β ε γ)
    (d : Directory ν β) : (look r >>= k) d =
      match r d with
      | .ok x => k x d
      | .error e => (.error e, []) := by
  rw [run_bind, look]
  cases r d with
  | ok x => rfl
  | error e => rfl

theorem run_ensure_bind (r : Except ε α) (k : α → Action ν β ε γ) (d : Directory ν β) :
    (ensure r >>= k) d =
      match r with
      | .ok x => k x d
      | .error e => (.error e, []) := run_look_bind (fun _ => r) k d

theorem run_emit_bind (effect : Effect ν β) (k : Unit → Action ν β ε γ) (d : Directory ν β) :
    (emit effect >>= k) d = ((k () (effect.apply d)).1, effect :: (k () (effect.apply d)).2) :=
  rfl

/-- A program that succeeds is a first part that succeeds and a second part after it. -/
theorem run_bind_ok {a : Action ν β ε α} {k : α → Action ν β ε γ} {d : Directory ν β} {y : γ}
    {effects : List (Effect ν β)} :
    (a >>= k) d = (.ok y, effects) ↔
      ∃ x first second, a d = (.ok x, first) ∧ k x (applyAll d first) = (.ok y, second) ∧
        effects = first ++ second := by
  rw [run_bind]
  rcases h : a d with ⟨r, first⟩
  cases r with
  | error e => simp
  | ok x =>
    constructor
    · intro hk
      obtain ⟨h1, h2⟩ := Prod.mk.inj hk
      exact ⟨x, first, _, rfl, Prod.ext h1 rfl, h2.symm⟩
    · intro hk
      obtain ⟨x', first', second, hx, hk, rfl⟩ := hk
      obtain ⟨rfl, rfl⟩ : x = x' ∧ first = first' := by simpa using hx
      change ((k x (applyAll d first)).1, first ++ (k x (applyAll d first)).2) = _
      rw [hk]

theorem run_look_bind_ok {r : Directory ν β → Except ε α} {k : α → Action ν β ε γ}
    {d : Directory ν β} {y : γ} {effects : List (Effect ν β)} :
    (look r >>= k) d = (.ok y, effects) ↔ ∃ x, r d = .ok x ∧ k x d = (.ok y, effects) := by
  rw [run_look_bind]
  cases r d with
  | ok x => simp
  | error e => simp

theorem run_ensure_bind_ok {r : Except ε α} {k : α → Action ν β ε γ} {d : Directory ν β} {y : γ}
    {effects : List (Effect ν β)} :
    (ensure r >>= k) d = (.ok y, effects) ↔ ∃ x, r = .ok x ∧ k x d = (.ok y, effects) :=
  run_look_bind_ok

omit [DecidableEq ν] in
theorem run_look_ok {r : Directory ν β → Except ε α} {d : Directory ν β} {x : α}
    {effects : List (Effect ν β)} :
    (look r : Action ν β ε α) d = (.ok x, effects) ↔ r d = .ok x ∧ effects = [] := by
  unfold look
  rw [Prod.mk.injEq]
  exact and_congr_right fun _ => eq_comm

theorem run_pure_ok {x y : α} {d : Directory ν β} {effects : List (Effect ν β)} :
    (pure x : Action ν β ε α) d = (.ok y, effects) ↔ x = y ∧ effects = [] := by
  rw [run_pure, Prod.mk.injEq, Except.ok.injEq]
  exact and_congr_right fun _ => eq_comm

/-- A read in front of a program that only reads. -/
theorem reads_look_bind {r : Directory ν β → Except ε α} {k : α → Action ν β ε γ}
    {f : α → Except ε γ} {d : Directory ν β} (h : ∀ x, r d = .ok x → k x d = (f x, [])) :
    (look r >>= k) d = (r d >>= f, []) := by
  rw [run_look_bind]
  cases hr : r d with
  | ok x => exact h x hr
  | error e => rfl

theorem reads_ensure_bind {r : Except ε α} {k : α → Action ν β ε γ} {f : α → Except ε γ}
    {d : Directory ν β} (h : ∀ x, r = .ok x → k x d = (f x, [])) :
    (ensure r >>= k) d = (r >>= f, []) := reads_look_bind h

end Files
