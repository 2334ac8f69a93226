import Historian.Wire

namespace Wire

variable {α β ε ε' : Type}

/-- `enc` and `dec` are inverse on the values `P`: the decoder accepts an input exactly when
it starts with what the encoder writes for the value, so every accepted input is canonical. -/
structure Codec (P : α → Prop) (enc : α → Encode ε Unit) (dec : Decode ε' α) : Prop where
  writes : ∀ x, P x → ∃ b, Writes (enc x) b
  reads : ∀ bs x rest, dec bs = .ok (x, rest) ↔ P x ∧ ∃ b, Writes (enc x) b ∧ bs = b ++ rest

theorem Codec.decode_writes {P : α → Prop} {enc : α → Encode ε Unit} {dec : Decode ε' α}
    (h : Codec P enc dec) {x : α} (hx : P x) {b : Bytes} (hb : Writes (enc x) b) (rest : Bytes) :
    dec (b ++ rest) = .ok (x, rest) :=
  (h.reads _ _ _).mpr ⟨hx, b, hb, rfl⟩

theorem Codec.congr {P Q : α → Prop} {enc enc' : α → Encode ε Unit} {dec : Decode ε' α}
    (h : Codec P enc dec) (hP : ∀ x, Q x ↔ P x) (he : ∀ x, P x → enc' x = enc x) :
    Codec Q enc' dec := by
  constructor
  · intro x hx
    have hp := (hP x).mp hx
    rw [he x hp]
    exact h.writes x hp
  · intro bs x rest
    rw [h.reads, hP]
    constructor
    · rintro ⟨hp, hb⟩
      exact ⟨hp, by rwa [he x hp]⟩
    · rintro ⟨hp, hb⟩
      exact ⟨hp, by rwa [he x hp] at hb⟩

/-- The end of a decoder: nothing is read, and exactly the values `P` are produced. -/
theorem Codec.done {P : α → Prop} {dec : Decode ε' α}
    (h : ∀ bs x rest, dec bs = .ok (x, rest) ↔ P x ∧ bs = rest) :
    Codec P (fun _ => (pure () : Encode ε Unit)) dec := by
  constructor
  · intro x _
    exact ⟨[], Writes.nil⟩
  · intro bs x rest
    rw [h]
    constructor
    · rintro ⟨hp, rfl⟩
      exact ⟨hp, [], Writes.nil, rfl⟩
    · rintro ⟨hp, b, hb, rfl⟩
      exact ⟨hp, by simp [hb.unique Writes.nil]⟩

theorem Codec.pure {P : α → Prop} {y : α} (h : ∀ x, P x ↔ y = x) :
    Codec P (fun _ => (pure () : Encode ε Unit)) (pure y : Decode ε' α) := by
  apply Codec.done
  intro bs x rest
  rw [decode_pure_ok, h]

theorem Codec.check {P : α → Prop} {r : Except ε' α} (h : ∀ x, r = .ok x ↔ P x) :
    Codec P (fun _ => (Pure.pure () : Encode ε Unit)) (fromExcept r) := by
  apply Codec.done
  intro bs x rest
  rw [fromExcept_ok, h]

/-- One field of a record: the encoder writes `f x`, the decoder reads it into `a` and goes on
with the values whose field is `a`. -/
theorem Codec.field {P : α → Prop} {Q : β → Prop} {encField : β → Encode ε Unit}
    {decField : Decode ε' β} {enc : α → Encode ε Unit} {dec : β → Decode ε' α} (f : α → β)
    (hf : Codec Q encField decField) (hQ : ∀ x, P x → Q (f x))
    (h : ∀ a, Q a → Codec (fun x => P x ∧ a = f x) enc (dec a)) :
    Codec P (fun x => do encField (f x); enc x) (do let a ← decField; dec a) := by
  have split : ∀ x, P x → ∀ b, Writes (do encField (f x); enc x) b →
      ∃ c d, Writes (encField (f x)) c ∧ Writes (enc x) d ∧ b = c ++ d := by
    intro x hx b hb
    obtain ⟨c, hc⟩ := hf.writes (f x) (hQ x hx)
    obtain ⟨d, hd⟩ := (h (f x) (hQ x hx)).writes x ⟨hx, rfl⟩
    exact ⟨c, d, hc, hd, hb.unique (hc.bind hd)⟩
  constructor
  · intro x hx
    obtain ⟨c, hc⟩ := hf.writes (f x) (hQ x hx)
    obtain ⟨d, hd⟩ := (h (f x) (hQ x hx)).writes x ⟨hx, rfl⟩
    exact ⟨c ++ d, hc.bind hd⟩
  · intro bs x rest
    rw [decode_bind_ok]
    constructor
    · rintro ⟨a, mid, ha, hx⟩
      obtain ⟨hqa, c, hc, rfl⟩ := (hf.reads _ _ _).mp ha
      obtain ⟨⟨hpx, rfl⟩, d, hd, rfl⟩ := ((h a hqa).reads _ _ _).mp hx
      exact ⟨hpx, c ++ d, hc.bind hd, by simp⟩
    · rintro ⟨hpx, b, hb, rfl⟩
      obtain ⟨c, d, hc, hd, rfl⟩ := split x hpx b hb
      refine ⟨f x, d ++ rest, ?_, ?_⟩
      · exact (hf.reads _ _ _).mpr ⟨hQ x hpx, c, hc, by simp⟩
      · exact ((h _ (hQ x hpx)).reads _ _ _).mpr ⟨⟨hpx, rfl⟩, d, hd, rfl⟩

/-- The last field, after which the encoder has nothing more to write. -/
theorem Codec.last {P : α → Prop} {Q : β → Prop} {encField : β → Encode ε Unit}
    {decField : Decode ε' β} {dec : β → Decode ε' α} (f : α → β)
    (hf : Codec Q encField decField) (hQ : ∀ x, P x → Q (f x))
    (h : ∀ a, Q a → ∀ bs x rest, dec a bs = .ok (x, rest) ↔ (P x ∧ a = f x) ∧ bs = rest) :
    Codec P (fun x => encField (f x)) (do let a ← decField; dec a) := by
  have step : Codec P (fun x => do encField (f x); (Pure.pure () : Encode ε Unit))
      (do let a ← decField; dec a) :=
    Codec.field f hf hQ (fun a ha => Codec.done (h a ha))
  refine step.congr (fun _ => Iff.rfl) ?_
  intro x _
  exact (bind_pure_unit).symm

/-- The last field of a record whose constructor takes any fields. -/
theorem Codec.map {P : α → Prop} {Q : β → Prop} {encField : β → Encode ε Unit}
    {decField : Decode ε' β} {g : β → α} (f : α → β)
    (hf : Codec Q encField decField) (hQ : ∀ x, P x → Q (f x))
    (h : ∀ a, Q a → ∀ x, g a = x ↔ P x ∧ a = f x) :
    Codec P (fun x => encField (f x)) (do let a ← decField; Pure.pure (g a)) := by
  apply Codec.last f hf hQ
  intro a ha bs x rest
  rw [decode_pure_ok, h a ha]

/-- The last field of a record whose constructor validates its fields. -/
theorem Codec.checked {P : α → Prop} {Q : β → Prop} {encField : β → Encode ε Unit}
    {decField : Decode ε' β} {g : β → Except ε' α} (f : α → β)
    (hf : Codec Q encField decField) (hQ : ∀ x, P x → Q (f x))
    (h : ∀ a, Q a → ∀ x, g a = .ok x ↔ P x ∧ a = f x) :
    Codec P (fun x => encField (f x)) (do let a ← decField; fromExcept (g a)) := by
  apply Codec.last f hf hQ
  intro a ha bs x rest
  rw [fromExcept_ok, h a ha]

/-- One constructor of a variant: its values are exactly those the body is read for. -/
theorem Codec.inject {P : α → Prop} {Q : β → Prop} {enc : α → Encode ε Unit}
    {encBody : β → Encode ε Unit} {decBody : Decode ε' β} (mk : β → α)
    (h : Codec Q encBody decBody) (hP : ∀ x, P x ↔ ∃ b, Q b ∧ mk b = x)
    (henc : ∀ b, enc (mk b) = encBody b) :
    Codec P enc (do let b ← decBody; Pure.pure (mk b)) := by
  constructor
  · intro x hx
    obtain ⟨b, hb, rfl⟩ := (hP x).mp hx
    rw [henc]
    exact h.writes b hb
  · intro bs x rest
    simp only [decode_bind_ok, decode_pure_ok]
    constructor
    · rintro ⟨b, _, hb, rfl, rfl⟩
      obtain ⟨hq, c, hc, rfl⟩ := (h.reads _ _ _).mp hb
      exact ⟨(hP _).mpr ⟨b, hq, rfl⟩, c, by rwa [henc], rfl⟩
    · rintro ⟨hx, c, hc, rfl⟩
      obtain ⟨b, hb, rfl⟩ := (hP x).mp hx
      rw [henc] at hc
      exact ⟨b, rest, h.decode_writes hb hc rest, rfl, rfl⟩

/-- A tag that no value has. -/
theorem Codec.refused {P : α → Prop} {enc : α → Encode ε Unit} {e : ε'} (h : ∀ x, ¬P x) :
    Codec P enc (throw e : Decode ε' α) := by
  constructor
  · intro x hx
    exact absurd hx (h x)
  · intro bs x rest
    rw [decode_throw_ok]
    simp [h x]

theorem codec_take (short : ε') (n : Nat) :
    Codec (fun b : Bytes => b.length = n) (fun b => (put b : Encode ε Unit)) (take short n) := by
  constructor
  · intro b _
    exact ⟨b, Writes.put b⟩
  · intro bs b rest
    rw [take_ok]
    constructor
    · rintro ⟨hl, rfl⟩
      exact ⟨hl, b, Writes.put b, rfl⟩
    · rintro ⟨hl, c, hc, rfl⟩
      exact ⟨hl, by rw [hc.unique (Writes.put b)]⟩

/-- A presence flag followed by the value when it is present. -/
def encodeOption (flag : Bool → Encode ε Unit) (enc : α → Encode ε Unit) : Option α → Encode ε Unit
  | some x => do
    flag true
    enc x
  | none => flag false

def decodeOption (flag : Decode ε Bool) (dec : Decode ε α) : Decode ε (Option α) := do
  let present ← flag
  if present then do
    let x ← dec
    pure (some x)
  else pure none

theorem Codec.option {P : α → Prop} {encFlag : Bool → Encode ε Unit} {decFlag : Decode ε' Bool}
    {enc : α → Encode ε Unit} {dec : Decode ε' α} (hflag : Codec (fun _ => True) encFlag decFlag)
    (h : Codec P enc dec) :
    Codec (fun o => ∀ x ∈ o, P x) (encodeOption encFlag enc) (decodeOption decFlag dec) := by
  constructor
  · intro o ho
    cases o with
    | none => exact hflag.writes false trivial
    | some x =>
      obtain ⟨b, hb⟩ := hflag.writes true trivial
      obtain ⟨c, hc⟩ := h.writes x (ho x rfl)
      exact ⟨b ++ c, hb.bind hc⟩
  · intro bs o rest
    unfold decodeOption
    rw [decode_bind_ok]
    constructor
    · rintro ⟨present, mid, hp, ho⟩
      obtain ⟨-, b, hb, rfl⟩ := (hflag.reads _ _ _).mp hp
      cases present with
      | false =>
        simp only [Bool.false_eq_true, ↓reduceIte, decode_pure_ok] at ho
        obtain ⟨rfl, rfl⟩ := ho
        exact ⟨by simp, b, hb, rfl⟩
      | true =>
        simp only [↓reduceIte, decode_bind_ok, decode_pure_ok] at ho
        obtain ⟨x, _, hx, rfl, rfl⟩ := ho
        obtain ⟨hpx, c, hc, rfl⟩ := (h.reads _ _ _).mp hx
        exact ⟨by simpa using hpx, b ++ c, hb.bind hc, by simp⟩
    · rintro ⟨ho, b, hb, rfl⟩
      cases o with
      | none =>
        exact ⟨false, rest, (hflag.reads _ _ _).mpr ⟨trivial, b, hb, rfl⟩, rfl⟩
      | some x =>
        obtain ⟨c, hc⟩ := hflag.writes true trivial
        obtain ⟨d, hd⟩ := h.writes x (ho x rfl)
        obtain rfl := hb.unique (hc.bind hd)
        refine ⟨true, d ++ rest, (hflag.reads _ _ _).mpr ⟨trivial, c, hc, by simp⟩, ?_⟩
        simp only [↓reduceIte, decode_bind_ok, decode_pure_ok]
        exact ⟨x, rest, h.decode_writes (ho x rfl) hd rest, rfl, rfl⟩

theorem Codec.list {P : α → Prop} {enc : α → Encode ε Unit} {dec : Decode ε' α}
    (h : Codec P enc dec) (n : Nat) :
    Codec (fun xs => xs.length = n ∧ ∀ x ∈ xs, P x) (fun xs => xs.forM enc) (times dec n) := by
  induction n with
  | zero =>
    have base : Codec (fun xs : List α => xs.length = 0 ∧ ∀ x ∈ xs, P x)
        (fun _ => (Pure.pure () : Encode ε Unit)) (times dec 0) := by
      apply Codec.pure
      intro xs
      cases xs with
      | nil => simp
      | cons x xs => simp
    refine base.congr (fun _ => Iff.rfl) ?_
    rintro xs ⟨hl, _⟩
    cases List.length_eq_zero_iff.mp hl
    rfl
  | succ n ih =>
    constructor
    · rintro xs ⟨hl, hp⟩
      cases xs with
      | nil => simp at hl
      | cons x xs =>
        obtain ⟨b, hb⟩ := h.writes x (hp x (by simp))
        obtain ⟨c, hc⟩ := ih.writes xs ⟨by simpa using hl, fun y hy => hp y (by simp [hy])⟩
        exact ⟨b ++ c, hb.bind hc⟩
    · intro bs xs rest
      simp only [times, decode_bind_ok, decode_pure_ok]
      constructor
      · rintro ⟨x, mid, hx, ys, end_, hys, rfl, rfl⟩
        obtain ⟨hpx, b, hb, rfl⟩ := (h.reads _ _ _).mp hx
        obtain ⟨⟨hl, hp⟩, c, hc, rfl⟩ := (ih.reads _ _ _).mp hys
        exact ⟨⟨by simp [hl], by simpa [hpx] using hp⟩, b ++ c, hb.bind hc, by simp⟩
      · rintro ⟨⟨hl, hp⟩, b, hb, rfl⟩
        cases xs with
        | nil => simp at hl
        | cons x xs =>
          have hpx := hp x (by simp)
          have hps : xs.length = n ∧ ∀ y ∈ xs, P y :=
            ⟨by simpa using hl, fun y hy => hp y (by simp [hy])⟩
          obtain ⟨c, hc⟩ := h.writes x hpx
          obtain ⟨d, hd⟩ := ih.writes xs hps
          obtain rfl := hb.unique (hc.bind hd)
          refine ⟨x, d ++ rest, ?_, xs, rest, ?_, rfl, rfl⟩
          · exact (h.reads _ _ _).mpr ⟨hpx, c, hc, by simp⟩
          · exact (ih.reads _ _ _).mpr ⟨hps, d, hd, rfl⟩

/-- The decoder reads exactly what the step writes, whatever follows it, and makes `x` of it. -/
def Reads (enc : Encode ε Unit) (dec : Decode ε' α) (x : α) : Prop :=
  ∃ b, Writes enc b ∧ ∀ rest, dec (b ++ rest) = .ok (x, rest)

theorem Codec.reads_of {P : α → Prop} {enc : α → Encode ε Unit} {dec : Decode ε' α}
    (h : Codec P enc dec) {x : α} (hx : P x) : Reads (enc x) dec x := by
  obtain ⟨b, hb⟩ := h.writes x hx
  exact ⟨b, hb, h.decode_writes hx hb⟩

theorem Reads.pure (x : α) : Reads (Pure.pure () : Encode ε Unit) (Pure.pure x : Decode ε' α) x :=
  ⟨[], Writes.nil, fun _ => rfl⟩

theorem Reads.bind {enc : Encode ε Unit} {encRest : Unit → Encode ε Unit} {dec : Decode ε' α}
    {decRest : α → Decode ε' β} {x : α} {y : β} (h : Reads enc dec x)
    (hrest : Reads (encRest ()) (decRest x) y) : Reads (enc >>= encRest) (dec >>= decRest) y := by
  obtain ⟨b, hb, hread⟩ := h
  obtain ⟨c, hc, hreadRest⟩ := hrest
  refine ⟨b ++ c, hb.bind hc, ?_⟩
  intro rest
  rw [List.append_assoc, decode_bind_ok]
  exact ⟨x, c ++ rest, hread (c ++ rest), hreadRest rest⟩

/-- A check on what has been read writes nothing. -/
theorem Reads.check {enc : Encode ε Unit} {r : Except ε' α} {decRest : α → Decode ε' β} {x : α}
    {y : β} (hr : r = .ok x) (h : Reads enc (decRest x) y) :
    Reads enc (fromExcept r >>= decRest) y := by
  obtain ⟨b, hb, hread⟩ := h
  refine ⟨b, hb, ?_⟩
  intro rest
  rw [decode_bind_ok]
  exact ⟨x, b ++ rest, fromExcept_ok.mpr ⟨hr, rfl⟩, hread rest⟩

end Wire
