import Historian.Checks

namespace Machine

open Checks

variable {α β ε ε' : Type}

/-- How a computation over machine words and slices stops: it refuses its input, or it leaves a word
or a slice. -/
inductive Fault (ε : Type) where
  | refused (error : ε)
  | overflow
  | outOfRange
  deriving DecidableEq

abbrev Run (ε α : Type) := Except (Fault ε) α

def wordSize : Nat := 2 ^ 64

def add (a b : Nat) : Run ε Nat := if a + b < wordSize then pure (a + b) else .error .overflow

def mul (a b : Nat) : Run ε Nat := if a * b < wordSize then pure (a * b) else .error .overflow

def sub (a b : Nat) : Run ε Nat := if b ≤ a then pure (a - b) else .error .overflow

def addOr (error : ε) (a b : Nat) : Run ε Nat :=
  if a + b < wordSize then pure (a + b) else .error (.refused error)

def subOr (error : ε) (a b : Nat) : Run ε Nat :=
  if b ≤ a then pure (a - b) else .error (.refused error)

def mulOr (error : ε) (a b : Nat) : Run ε Nat :=
  if a * b < wordSize then pure (a * b) else .error (.refused error)

/-- The elements from `start` up to `stop`, which must be there. -/
def range (xs : List α) (start stop : Nat) : Run ε (List α) :=
  if start ≤ stop ∧ stop ≤ xs.length then pure ((xs.drop start).take (stop - start))
  else .error .outOfRange

/-- The elements from `start` up to `stop`, when they are there. -/
def rangeOr (error : ε) (xs : List α) (start stop : Nat) : Run ε (List α) :=
  if start ≤ stop ∧ stop ≤ xs.length then pure ((xs.drop start).take (stop - start))
  else .error (.refused error)

def index (xs : List α) (i : Nat) : Run ε α :=
  match xs[i]? with
  | some x => pure x
  | none => .error .outOfRange

/-- The elements from `start` up to `stop` are overwritten by as many others. -/
def writeRange (xs : List α) (start stop : Nat) (ys : List α) : Run ε (List α) :=
  if start ≤ stop ∧ stop ≤ xs.length ∧ ys.length = stop - start then
    pure (xs.take start ++ (ys ++ xs.drop stop))
  else .error .outOfRange

def refuseIf (c : Prop) [Decidable c] (error : ε) : Run ε Unit := Checks.refuse c (.refused error)

/-- A computation without words and slices. -/
def lift (result : Except ε α) : Run ε α := result.mapError .refused

/-- Refusals are renamed; leaving a word or a slice is not caught. -/
def mapRefusal (f : ε → ε') (run : Run ε α) : Run ε' α :=
  match run with
  | .ok x => .ok x
  | .error (.refused error) => .error (.refused (f error))
  | .error .overflow => .error .overflow
  | .error .outOfRange => .error .outOfRange

theorem lift_ok (x : α) : (lift (.ok x) : Run ε α) = .ok x := rfl

theorem lift_error (error : ε) : (lift (.error error) : Run ε α) = .error (.refused error) := rfl

theorem refuseIf_pass {c : Prop} [Decidable c] {error : ε} (h : ¬c) :
    refuseIf c error = .ok () := if_neg h

theorem refuseIf_stop {c : Prop} [Decidable c] {error : ε} (h : c) :
    refuseIf c error = .error (.refused error) := if_pos h

theorem add_eq {a b : Nat} (h : a + b < wordSize) : (add a b : Run ε Nat) = pure (a + b) :=
  if_pos h

theorem mul_eq {a b : Nat} (h : a * b < wordSize) : (mul a b : Run ε Nat) = pure (a * b) :=
  if_pos h

theorem sub_eq {a b : Nat} (h : b ≤ a) : (sub a b : Run ε Nat) = pure (a - b) := if_pos h

theorem addOr_eq {error : ε} {a b : Nat} (h : a + b < wordSize) :
    addOr error a b = pure (a + b) := if_pos h

theorem subOr_eq {error : ε} {a b : Nat} (h : b ≤ a) : subOr error a b = pure (a - b) := if_pos h

theorem mulOr_eq {error : ε} {a b : Nat} (h : a * b < wordSize) :
    mulOr error a b = pure (a * b) := if_pos h

theorem range_eq {xs : List α} {start stop : Nat} (h : start ≤ stop) (h' : stop ≤ xs.length) :
    (range xs start stop : Run ε (List α)) = pure ((xs.drop start).take (stop - start)) :=
  if_pos ⟨h, h'⟩

theorem index_eq {xs : List α} {i : Nat} {x : α} (h : xs[i]? = some x) :
    (index xs i : Run ε α) = pure x := by
  unfold index
  rw [h]

/-- Overwriting the middle of three parts. -/
theorem writeRange_middle {before old new behind : List α} {start stop : Nat}
    (hstart : before.length = start) (hstop : start + old.length = stop)
    (hlen : new.length = old.length) :
    (writeRange (before ++ (old ++ behind)) start stop new : Run ε (List α)) =
      pure (before ++ (new ++ behind)) := by
  subst hstart hstop
  unfold writeRange
  rw [if_pos]
  · rw [List.take_left, ← List.append_assoc before old, ← List.length_append, List.drop_left]
  · refine ⟨by omega, ?_, by omega⟩
    simp only [List.length_append]
    omega

/-- A run that stops only where the other computation refuses, and has its results. -/
def Agrees (run : Run ε α) (result : Except ε α) : Prop := run = lift result

theorem Agrees.pure (x : α) : Agrees (pure x : Run ε α) (pure x) := rfl

theorem Agrees.lift (result : Except ε α) : Agrees (lift result) result := rfl

theorem Agrees.refuseIf {c c' : Prop} [Decidable c] [Decidable c'] {error : ε} (h : c ↔ c') :
    Agrees (Machine.refuseIf c error) (Checks.refuse c' error) := by
  unfold Agrees Machine.refuseIf
  rw [refuse_congr h]
  unfold Checks.refuse
  split <;> rfl

/-- A check in front of the other checks of one refusal. -/
theorem Agrees.refuseOr {c d : Prop} [Decidable c] [Decidable d] {error : ε} {run : Run ε β}
    {next : Unit → Except ε β}
    (h : ¬c → Agrees run (Checks.refuse d error >>= next)) :
    Agrees (Machine.refuseIf c error >>= fun _ => run) (Checks.refuse (c ∨ d) error >>= next) := by
  by_cases hc : c
  · have hcd : Checks.refuse (c ∨ d) error = .error error := if_pos (Or.inl hc)
    have hstop : Machine.refuseIf c error = .error (.refused error) := if_pos hc
    rw [hcd, hstop]
    rfl
  · have hgo : Machine.refuseIf c error = .ok () := if_neg hc
    rw [hgo, refuse_congr (or_iff_right hc)]
    exact h hc

/-- Both go on together, behind what the first part has checked. -/
theorem Agrees.bind {run : Run ε α} {result : Except ε α} {next : α → Run ε β}
    {next' : α → Except ε β} (h : Agrees run result)
    (h' : ∀ x, result = .ok x → Agrees (next x) (next' x)) :
    Agrees (run >>= next) (result >>= next') := by
  unfold Agrees at h ⊢
  subst h
  cases result with
  | error error => rfl
  | ok x => exact h' x rfl

/-- A word or a slice that is not left. -/
theorem Agrees.step {run : Run ε α} {x : α} {next : α → Run ε β} {result : Except ε β}
    (h : run = Pure.pure x) (h' : Agrees (next x) result) : Agrees (run >>= next) result := by
  subst h
  exact h'

theorem Agrees.mapRefusal {run : Run ε α} {result : Except ε α} (h : Agrees run result)
    (f : ε → ε') : Agrees (mapRefusal f run) (result.mapError f) := by
  unfold Agrees at h ⊢
  subst h
  cases result <;> rfl

/-- A checked range is refused where its end is behind the elements. -/
theorem Agrees.rangeOr {error : ε} {xs : List α} {start len : Nat}
    {next : List α → Run ε β} {next' : Unit → Except ε β}
    (h : start + len ≤ xs.length → Agrees (next ((xs.drop start).take len)) (next' ())) :
    Agrees (rangeOr error xs start (start + len) >>= next)
      (Checks.refuse (xs.length < start + len) error >>= next') := by
  unfold Machine.rangeOr Checks.refuse
  by_cases hlen : start + len ≤ xs.length
  · rw [if_pos ⟨by omega, hlen⟩, if_neg (by omega), Nat.add_sub_cancel_left]
    exact h hlen
  · rw [if_neg (fun hboth => hlen hboth.2), if_pos (by omega)]
    rfl

/-- A run that refuses where the other computation does, and has results that are related. -/
inductive Simulates {α' : Type} (related : α → α' → Prop) : Run ε α → Except ε α' → Prop
  | ok {x : α} {y : α'} (h : related x y) : Simulates related (.ok x) (.ok y)
  | refused (error : ε) : Simulates related (.error (.refused error)) (.error error)

section Simulates

variable {α' β' : Type} {related : α → α' → Prop} {related' : β → β' → Prop}

theorem Simulates.bind {run : Run ε α} {result : Except ε α'} {next : α → Run ε β}
    {next' : α' → Except ε β'} (h : Simulates related run result)
    (h' : ∀ x y, related x y → result = .ok y → Simulates related' (next x) (next' y)) :
    Simulates related' (run >>= next) (result >>= next') := by
  cases h with
  | ok hxy => exact h' _ _ hxy rfl
  | refused error => exact Simulates.refused error

/-- Both go on together behind a part with the same result. -/
theorem Simulates.agreed {run : Run ε α} {result : Except ε α} {next : α → Run ε β}
    {next' : α → Except ε β'} (h : Agrees run result)
    (h' : ∀ x, result = .ok x → Simulates related' (next x) (next' x)) :
    Simulates related' (run >>= next) (result >>= next') := by
  unfold Agrees at h
  subst h
  cases result with
  | error error => exact Simulates.refused error
  | ok x => exact h' x rfl

theorem Simulates.step {run : Run ε α} {x : α} {next : α → Run ε β} {result : Except ε β'}
    (h : run = Pure.pure x) (h' : Simulates related' (next x) result) :
    Simulates related' (run >>= next) result := by
  subst h
  exact h'

/-- Results that are equal are in agreement. -/
theorem Simulates.agrees {run : Run ε α} {result : Except ε α}
    (h : Simulates (fun x y => x = y) run result) : Agrees run result := by
  cases h with
  | ok hxy =>
    subst hxy
    rfl
  | refused error => rfl

end Simulates

/-- A run that agrees with a computation leaves no word and no slice. -/
theorem Agrees.inside {run : Run ε α} {result : Except ε α} (h : Agrees run result) :
    run ≠ .error .overflow ∧ run ≠ .error .outOfRange := by
  unfold Agrees at h
  subst h
  cases result with
  | error error => exact ⟨(fun h => nomatch h), (fun h => nomatch h)⟩
  | ok x => exact ⟨(fun h => nomatch h), (fun h => nomatch h)⟩

end Machine
