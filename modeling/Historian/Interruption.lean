import Mathlib

namespace Interruption

variable {σ φ ε α β : Type}

inductive Ending (ε α : Type) where
  | returned (x : α)
  | refused (e : ε)
  | stopped
  deriving DecidableEq

/-- A computation over a state, under a script that has an entry for each of its steps: the fault
that interrupts the step, or nothing. Behind the script nothing is interrupted. -/
def Run (σ φ ε α : Type) : Type := σ → List (Option φ) → Ending ε α × σ × List (Option φ)

namespace Run

def ret (x : α) : Run σ φ ε α := fun s script => (.returned x, s, script)

def andThen (run : Run σ φ ε α) (next : α → Run σ φ ε β) : Run σ φ ε β := fun s script =>
  match run s script with
  | (.returned x, s, script) => next x s script
  | (.refused e, s, script) => (.refused e, s, script)
  | (.stopped, s, script) => (.stopped, s, script)

instance : Monad (Run σ φ ε) where
  pure := ret
  bind := andThen

/-- What a failure is answered with. Nothing answers a stop. -/
def rescue (run : Run σ φ ε α) (handler : ε → Run σ φ ε α) : Run σ φ ε α := fun s script =>
  match run s script with
  | (.refused e, s, script) => handler e s script
  | ended => ended

def lift (r : Except ε α) : Run σ φ ε α := fun s script =>
  match r with
  | .ok x => (.returned x, s, script)
  | .error e => (.refused e, s, script)

/-- A step that can be interrupted: a fault leaves a state behind, and then the step fails or the
whole computation stops. -/
def step (stops : φ → Bool) (leaves : φ → σ → σ) (failure : ε) (effect : σ → Except ε (α × σ)) :
    Run σ φ ε α := fun s script =>
  match script.head?.join with
  | some fault =>
    (if stops fault then .stopped else .refused failure, leaves fault s, script.tail)
  | none =>
    match effect s with
    | .ok (x, s) => (.returned x, s, script.tail)
    | .error e => (.refused e, s, script.tail)

/-- Where the precondition holds, the computation returns with its postcondition, and wherever
else it ends the last assertion holds. -/
def Keeps (pre : σ → Prop) (run : Run σ φ ε α) (post : α → σ → Prop) (crash : σ → Prop) : Prop :=
  ∀ s script, pre s → match run s script with
    | (.returned x, s', _) => post x s'
    | (_, s', _) => crash s'

variable {pre pre' crash crash' : σ → Prop} {run : Run σ φ ε α} {post post' : α → σ → Prop}

theorem Keeps.weaken (h : Keeps pre run post crash) (hpre : ∀ s, pre' s → pre s)
    (hpost : ∀ x s, post x s → post' x s) (hcrash : ∀ s, crash s → crash' s) :
    Keeps pre' run post' crash' := by
  intro s script hs
  have hrun := h s script (hpre s hs)
  cases hended : run s script with
  | mk ending rest =>
    rw [hended] at hrun
    cases ending with
    | returned x => exact hpost x _ hrun
    | refused e => exact hcrash _ hrun
    | stopped => exact hcrash _ hrun

theorem keeps_pure {x : α} (h : ∀ s, pre s → post x s) :
    Keeps pre (pure x : Run σ φ ε α) post crash := fun s _ hs => h s hs

theorem Keeps.bind {middle : α → σ → Prop} {next : α → Run σ φ ε β} {post : β → σ → Prop}
    (hrun : Keeps pre run middle crash) (hnext : ∀ x, Keeps (middle x) (next x) post crash) :
    Keeps pre (run >>= next) post crash := by
  intro s script hs
  have hfirst := hrun s script hs
  change match andThen run next s script with
    | (.returned x, s', _) => post x s'
    | (_, s', _) => crash s'
  unfold andThen
  cases hended : run s script with
  | mk ending rest =>
    rw [hended] at hfirst
    cases ending with
    | returned x => exact hnext x _ _ hfirst
    | refused e => exact hfirst
    | stopped => exact hfirst

/-- A fact in the precondition can be assumed. -/
theorem keeps_assume {fact : Prop} (h : fact → Keeps pre run post crash) :
    Keeps (fun s => pre s ∧ fact) run post crash := fun s script hs => h hs.2 s script hs.1

theorem keeps_each (h : ∀ s, pre s → Keeps (· = s) run post crash) : Keeps pre run post crash :=
  fun s script hs => h s hs s script rfl

theorem Keeps.at {s : σ} (h : Keeps pre run post crash) (hs : pre s) :
    Keeps (· = s) run post crash := by
  intro s' script heq
  subst heq
  exact h s' script hs

theorem Keeps.rescue {handler : ε → Run σ φ ε α} (hrun : Keeps pre run post crash)
    (hhandler : ∀ e, Keeps crash (handler e) post crash) :
    Keeps pre (run.rescue handler) post crash := by
  intro s script hs
  have hfirst := hrun s script hs
  unfold Run.rescue
  cases hended : run s script with
  | mk ending rest =>
    rw [hended] at hfirst
    cases ending with
    | returned x => exact hfirst
    | refused e => exact hhandler e _ _ hfirst
    | stopped => exact hfirst

theorem keeps_lift {r : Except ε α} (h : ∀ s, pre s → match r with
    | .ok x => post x s
    | .error _ => crash s) : Keeps pre (lift r : Run σ φ ε α) post crash := by
  intro s script hs
  have hs := h s hs
  unfold lift
  cases r with
  | error e => exact hs
  | ok x => exact hs

/-- A step keeps what its effect, its failure and its faults keep. -/
theorem keeps_step {stops : φ → Bool} {leaves : φ → σ → σ} {failure : ε}
    {effect : σ → Except ε (α × σ)} (hleaves : ∀ fault s, pre s → crash (leaves fault s))
    (heffect : ∀ s, pre s → match effect s with
      | .ok (x, s') => post x s'
      | .error _ => crash s) :
    Keeps pre (step stops leaves failure effect) post crash := by
  intro s script hs
  unfold step
  cases script.head?.join with
  | some fault =>
    have hleft := hleaves fault s hs
    dsimp only
    cases stops fault with
    | true => exact hleft
    | false => exact hleft
  | none =>
    have hended := heffect s hs
    dsimp only
    cases heq : effect s with
    | error e =>
      rw [heq] at hended
      exact hended
    | ok result =>
      rw [heq] at hended
      exact hended

/-- The computation ends so when nothing interrupts it. -/
def Settles (run : Run σ φ ε α) (s : σ) (ending : Ending ε α) (s' : σ) : Prop :=
  run s [] = (ending, s', [])

variable {s s' s'' : σ} {x : α} {e : ε}

theorem settles_step {stops : φ → Bool} {leaves : φ → σ → σ} {failure : ε}
    {effect : σ → Except ε (α × σ)} (h : effect s = .ok (x, s')) :
    Settles (step stops leaves failure effect) s (.returned x) s' := by
  unfold Settles step
  simp only [List.head?_nil, Option.join_none, h, List.tail_nil]

theorem settles_step_refused {stops : φ → Bool} {leaves : φ → σ → σ} {failure : ε}
    {effect : σ → Except ε (α × σ)} (h : effect s = .error e) :
    Settles (step stops leaves failure effect) s (.refused e) s := by
  unfold Settles step
  simp only [List.head?_nil, Option.join_none, h, List.tail_nil]

theorem settles_pure : Settles (pure x : Run σ φ ε α) s (.returned x) s := rfl

theorem Settles.bind {next : α → Run σ φ ε β} {ending : Ending ε β}
    (hrun : Settles run s (.returned x) s') (hnext : Settles (next x) s' ending s'') :
    Settles (run >>= next) s ending s'' := by
  change andThen run next s [] = _
  unfold andThen
  rw [hrun]
  exact hnext

theorem Settles.bind_refused {next : α → Run σ φ ε β} (hrun : Settles run s (.refused e) s') :
    Settles (run >>= next) s (.refused e) s' := by
  change andThen run next s [] = _
  unfold andThen
  rw [hrun]

theorem settles_lift {r : Except ε α} (h : r = .ok x) :
    Settles (lift r : Run σ φ ε α) s (.returned x) s := by
  rw [h]
  rfl

theorem settles_lift_refused {r : Except ε α} (h : r = .error e) :
    Settles (lift r : Run σ φ ε α) s (.refused e) s := by
  rw [h]
  rfl

theorem Settles.rescue_returned {handler : ε → Run σ φ ε α}
    (hrun : Settles run s (.returned x) s') : Settles (run.rescue handler) s (.returned x) s' := by
  unfold Settles Run.rescue
  rw [hrun]

theorem Settles.rescue_refused {handler : ε → Run σ φ ε α} {ending : Ending ε α}
    (hrun : Settles run s (.refused e) s') (hhandler : Settles (handler e) s' ending s'') :
    Settles (run.rescue handler) s ending s'' := by
  unfold Settles Run.rescue
  rw [hrun]
  exact hhandler

/-- Where the precondition holds and nothing interrupts it, the computation returns, with its
postcondition. -/
def Succeeds (pre : σ → Prop) (run : Run σ φ ε α) (post : α → σ → Prop) : Prop :=
  ∀ s, pre s → ∃ x s', Settles run s (.returned x) s' ∧ post x s'

theorem Succeeds.weaken (h : Succeeds pre run post) (hpre : ∀ s, pre' s → pre s)
    (hpost : ∀ x s, post x s → post' x s) : Succeeds pre' run post' := by
  intro s hs
  obtain ⟨x, s', hrun, hx⟩ := h s (hpre s hs)
  exact ⟨x, s', hrun, hpost x s' hx⟩

/-- What a computation keeps holds when it succeeds. -/
theorem Succeeds.and_keeps (h : Succeeds pre run post) (hkeeps : Keeps pre run post' crash) :
    Succeeds pre run (fun x s => post x s ∧ post' x s) := by
  intro s hs
  obtain ⟨x, s', hrun, hx⟩ := h s hs
  have hx' := hkeeps s [] hs
  rw [hrun] at hx'
  exact ⟨x, s', hrun, hx, hx'⟩

theorem succeeds_each (h : ∀ s, pre s → Succeeds (· = s) run post) : Succeeds pre run post :=
  fun s hs => h s hs s rfl

theorem Succeeds.at {s : σ} (h : Succeeds pre run post) (hs : pre s) :
    Succeeds (· = s) run post := by
  intro s' heq
  subst heq
  exact h s' hs

theorem succeeds_assume {fact : Prop} (h : fact → Succeeds pre run post) :
    Succeeds (fun s => pre s ∧ fact) run post := fun s hs => h hs.2 s hs.1

theorem succeeds_pure {x : α} (h : ∀ s, pre s → post x s) :
    Succeeds pre (pure x : Run σ φ ε α) post := fun s hs => ⟨x, s, rfl, h s hs⟩

theorem Succeeds.bind {middle : α → σ → Prop} {next : α → Run σ φ ε β} {post : β → σ → Prop}
    (hrun : Succeeds pre run middle) (hnext : ∀ x, Succeeds (middle x) (next x) post) :
    Succeeds pre (run >>= next) post := by
  intro s hs
  obtain ⟨x, s', hfirst, hx⟩ := hrun s hs
  obtain ⟨y, s'', hsecond, hy⟩ := hnext x s' hx
  exact ⟨y, s'', hfirst.bind hsecond, hy⟩

theorem Succeeds.rescue {handler : ε → Run σ φ ε α} (hrun : Succeeds pre run post) :
    Succeeds pre (run.rescue handler) post := by
  intro s hs
  obtain ⟨x, s', hfirst, hx⟩ := hrun s hs
  exact ⟨x, s', hfirst.rescue_returned, hx⟩

theorem succeeds_lift {r : Except ε α} (h : r = .ok x) :
    Succeeds pre (lift r : Run σ φ ε α) (fun y s => pre s ∧ y = x) := by
  intro s hs
  exact ⟨x, s, settles_lift h, hs, rfl⟩

theorem succeeds_step {stops : φ → Bool} {leaves : φ → σ → σ} {failure : ε}
    {effect : σ → Except ε (α × σ)}
    (h : ∀ s, pre s → ∃ x s', effect s = .ok (x, s') ∧ post x s') :
    Succeeds pre (step stops leaves failure effect) post := by
  intro s hs
  obtain ⟨x, s', heffect, hx⟩ := h s hs
  exact ⟨x, s', settles_step heffect, hx⟩

end Run

end Interruption
