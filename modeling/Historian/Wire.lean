import Mathlib

namespace Wire

variable {α β ε ε' : Type}

abbrev Bytes := List UInt8

/-- The ranges of the fixed-width integers, and of a pair of slots, are not empty. -/
instance neZero_two : NeZero 2 := ⟨by decide⟩

instance neZero_u32 : NeZero (2 ^ 32) := ⟨by decide⟩

instance neZero_u64 : NeZero (2 ^ 64) := ⟨by decide⟩

instance neZero_u128 : NeZero (2 ^ 128) := ⟨by decide⟩

/-- An encoder keeps the bytes it is given, or only counts them in a saturating 64-bit length. -/
inductive Encoder where
  | bytes (written : Bytes)
  | count (length : Fin (2 ^ 64))
  deriving DecidableEq

def saturatingAdd (n : Fin (2 ^ 64)) (k : Nat) : Fin (2 ^ 64) :=
  ⟨min (n + k) (2 ^ 64 - 1), by omega⟩

def Encoder.put (out : Encoder) (b : Bytes) : Encoder :=
  match out with
  | .bytes written => .bytes (written ++ b)
  | .count length => .count (saturatingAdd length b.length)

def Encoder.len : Encoder → Nat
  | .bytes written => written.length
  | .count length => length

def Encoder.finish : Encoder → Bytes
  | .bytes written => written
  | .count _ => []

/-- Steps that write to an encoder, and steps that consume the front of their input. -/
abbrev Encode (ε : Type) := StateT Encoder (Except ε)

abbrev Decode (ε : Type) := StateT Bytes (Except ε)

def put (b : Bytes) : Encode ε Unit := fun out => .ok ((), out.put b)

def take (short : ε) (n : Nat) : Decode ε Bytes := fun bs =>
  if n ≤ bs.length then .ok (bs.take n, bs.drop n) else .error short

/-- The decoder's loop over a count it has already read. -/
def times (d : Decode ε α) : Nat → Decode ε (List α)
  | 0 => pure []
  | n + 1 => do
    let x ← d
    let xs ← times d n
    pure (x :: xs)

/-- A validated construction in the middle of a decoder: it consumes nothing. -/
def fromExcept (r : Except ε α) : Decode ε α := fun bs => r.map fun x => (x, bs)

theorem Encoder.put_nil (out : Encoder) : out.put [] = out := by
  cases out with
  | bytes written => simp [Encoder.put]
  | count length =>
    have h : min (length.val + 0) (2 ^ 64 - 1) = length.val := by omega
    simp only [Encoder.put, saturatingAdd, List.length_nil, h]

theorem Encoder.put_put (out : Encoder) (b c : Bytes) :
    (out.put b).put c = out.put (b ++ c) := by
  cases out with
  | bytes written => simp [Encoder.put]
  | count length =>
    simp only [Encoder.put, saturatingAdd, List.length_append, Encoder.count.injEq, Fin.mk.injEq]
    omega

theorem decode_bind_ok {d : Decode ε α} {k : α → Decode ε β} {bs rest : Bytes} {y : β} :
    (d >>= k) bs = .ok (y, rest) ↔ ∃ x mid, d bs = .ok (x, mid) ∧ k x mid = .ok (y, rest) := by
  change (d bs >>= fun p => k p.1 p.2) = _ ↔ _
  cases h : d bs with
  | error e => simp [bind, Except.bind]
  | ok p =>
    obtain ⟨x, mid⟩ := p
    constructor
    · intro hk
      exact ⟨x, mid, rfl, hk⟩
    · rintro ⟨_, _, hp, hk⟩
      obtain ⟨rfl, rfl⟩ := Prod.mk.inj (Except.ok.inj hp)
      exact hk

theorem decode_pure_ok {x y : α} {bs rest : Bytes} :
    (pure x : Decode ε α) bs = .ok (y, rest) ↔ x = y ∧ bs = rest := by
  change Except.ok (x, bs) = .ok (y, rest) ↔ _
  simp

theorem decode_throw_ok {e : ε} {y : α} {bs rest : Bytes} :
    (throw e : Decode ε α) bs = .ok (y, rest) ↔ False := by
  change Except.error e = .ok (y, rest) ↔ _
  simp

theorem fromExcept_ok {r : Except ε α} {y : α} {bs rest : Bytes} :
    fromExcept r bs = .ok (y, rest) ↔ r = .ok y ∧ bs = rest := by
  cases r with
  | error e => simp [fromExcept, Except.map]
  | ok x => simp [fromExcept, Except.map]

theorem take_ok {short : ε} {n : Nat} {b bs rest : Bytes} :
    take short n bs = .ok (b, rest) ↔ b.length = n ∧ bs = b ++ rest := by
  unfold take
  split
  next hn =>
    constructor
    · intro h
      obtain ⟨rfl, rfl⟩ := Prod.mk.inj (Except.ok.inj h)
      exact ⟨by simp [hn], (List.take_append_drop n bs).symm⟩
    · rintro ⟨rfl, rfl⟩
      simp
  next hn =>
    constructor
    · intro h
      cases h
    · rintro ⟨rfl, rfl⟩
      simp at hn

/-- The step `e` appends exactly `b`, whatever was written before and in either mode. -/
def Writes (e : Encode ε Unit) (b : Bytes) : Prop := ∀ out, e out = .ok ((), out.put b)

theorem Writes.put (b : Bytes) : Writes (Wire.put b : Encode ε Unit) b := fun _ => rfl

theorem Writes.nil : Writes (pure () : Encode ε Unit) [] := by
  intro out
  rw [Encoder.put_nil]
  rfl

theorem Writes.bind {e : Encode ε Unit} {f : Unit → Encode ε Unit} {b c : Bytes}
    (he : Writes e b) (hf : Writes (f ()) c) : Writes (e >>= f) (b ++ c) := by
  intro out
  change (e out >>= fun p => f p.1 p.2) = _
  rw [he out]
  change f () (out.put b) = _
  rw [hf, Encoder.put_put]

theorem Writes.unique {e : Encode ε Unit} {b c : Bytes} (hb : Writes e b) (hc : Writes e c) :
    b = c := by
  have h := (hb (.bytes [])).symm.trans (hc (.bytes []))
  simpa [Encoder.put] using h

end Wire
