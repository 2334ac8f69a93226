import Historian.Wire

namespace Wire

/-- UTF-8 of a string of Unicode scalars. -/
def utf8Encode (s : List Char) : Bytes := s.flatMap String.utf8EncodeChar

def scalar? (least n : Nat) : Option Char :=
  if h : least ≤ n ∧ n.isValidChar then some (Char.ofNatAux n h.2) else none

/-- The payload of a continuation byte. -/
def continuation? (b : UInt8) : Option Nat :=
  if 0x80 ≤ b.toNat ∧ b.toNat < 0xC0 then some (b.toNat - 0x80) else none

/-- One scalar from the front of the input. An overlong spelling, a surrogate and a value
past the last scalar are refused, as is a sequence cut short. -/
def utf8DecodeChar : Bytes → Option (Char × Bytes)
  | [] => none
  | a :: rest =>
    if a.toNat < 0x80 then do
      let c ← scalar? 0 a.toNat
      pure (c, rest)
    else if 0xC0 ≤ a.toNat ∧ a.toNat < 0xE0 then
      match rest with
      | b :: rest => do
        let x ← continuation? b
        let c ← scalar? 0x80 ((a.toNat - 0xC0) * 64 + x)
        pure (c, rest)
      | _ => none
    else if 0xE0 ≤ a.toNat ∧ a.toNat < 0xF0 then
      match rest with
      | b :: c :: rest => do
        let x ← continuation? b
        let y ← continuation? c
        let s ← scalar? 0x800 ((a.toNat - 0xE0) * 4096 + x * 64 + y)
        pure (s, rest)
      | _ => none
    else if 0xF0 ≤ a.toNat ∧ a.toNat < 0xF8 then
      match rest with
      | b :: c :: d :: rest => do
        let x ← continuation? b
        let y ← continuation? c
        let z ← continuation? d
        let s ← scalar? 0x10000 ((a.toNat - 0xF0) * 262144 + x * 4096 + y * 64 + z)
        pure (s, rest)
      | _ => none
    else none

/-- Every scalar takes at least one byte, so the input's length bounds the number of steps. -/
def utf8DecodeFuel : Nat → Bytes → Option (List Char)
  | _, [] => some []
  | 0, _ :: _ => none
  | fuel + 1, bs => do
    let (c, rest) ← utf8DecodeChar bs
    let cs ← utf8DecodeFuel fuel rest
    pure (c :: cs)

def utf8Decode (bs : Bytes) : Option (List Char) := utf8DecodeFuel bs.length bs

theorem scalar?_eq_some {least n : Nat} {c : Char} :
    scalar? least n = some c ↔ least ≤ n ∧ c.toNat = n := by
  unfold scalar?
  split
  next h =>
    constructor
    · intro hc
      cases Option.some.inj hc
      exact ⟨h.1, rfl⟩
    · rintro ⟨_, rfl⟩
      rfl
  next h =>
    constructor
    · intro hc
      cases hc
    · rintro ⟨hl, rfl⟩
      exact absurd ⟨hl, c.valid⟩ h

theorem continuation?_eq_some {b : UInt8} {n : Nat} :
    continuation? b = some n ↔ n < 64 ∧ b.toNat = n + 0x80 := by
  unfold continuation?
  split
  next h =>
    simp only [Option.some.injEq]
    omega
  next h =>
    simp only [reduceCtorEq, false_iff]
    omega

theorem ofNat_eq_byte {n : Nat} {b : UInt8} (h : n = b.toNat) : UInt8.ofNat n = b := by
  rw [h, UInt8.ofNat_toNat]

/-- The four shapes of an encoded scalar, with the bytes left as numbers. -/
theorem utf8EncodeChar_shape (c : Char) :
    (c.toNat < 0x80 ∧ ∃ a : UInt8, String.utf8EncodeChar c = [a] ∧ a.toNat = c.toNat) ∨
    (0x80 ≤ c.toNat ∧ c.toNat < 0x800 ∧ ∃ a b : UInt8, String.utf8EncodeChar c = [a, b] ∧
      a.toNat = c.toNat / 64 + 0xC0 ∧ b.toNat = c.toNat % 64 + 0x80) ∨
    (0x800 ≤ c.toNat ∧ c.toNat < 0x10000 ∧ ∃ a b d : UInt8, String.utf8EncodeChar c = [a, b, d] ∧
      a.toNat = c.toNat / 4096 + 0xE0 ∧ b.toNat = c.toNat / 64 % 64 + 0x80 ∧
      d.toNat = c.toNat % 64 + 0x80) ∨
    (0x10000 ≤ c.toNat ∧ c.toNat < 0x110000 ∧ ∃ a b d e : UInt8,
      String.utf8EncodeChar c = [a, b, d, e] ∧
      a.toNat = c.toNat / 262144 + 0xF0 ∧ b.toNat = c.toNat / 4096 % 64 + 0x80 ∧
      d.toNat = c.toNat / 64 % 64 + 0x80 ∧ e.toNat = c.toNat % 64 + 0x80) := by
  have hmax : c.toNat < 0x110000 := by
    have h := c.valid
    simp only [UInt32.isValidChar, Nat.isValidChar] at h
    change c.val.toNat < _
    omega
  unfold String.utf8EncodeChar
  simp only [Char.toNat_val]
  split
  next h => exact .inl ⟨by omega, _, rfl, by rw [UInt8.toNat_ofNat']; omega⟩
  next h =>
    split
    next h' =>
      refine .inr (.inl ⟨by omega, by omega, _, _, rfl, ?_, ?_⟩) <;>
        (rw [UInt8.toNat_ofNat']; omega)
    next h' =>
      split
      next h'' =>
        refine .inr (.inr (.inl ⟨by omega, by omega, _, _, _, rfl, ?_, ?_, ?_⟩)) <;>
          (rw [UInt8.toNat_ofNat']; omega)
      next h'' =>
        refine .inr (.inr (.inr ⟨by omega, hmax, _, _, _, _, rfl, ?_, ?_, ?_, ?_⟩)) <;>
          (rw [UInt8.toNat_ofNat']; omega)

theorem utf8DecodeChar_encode (c : Char) (rest : Bytes) :
    utf8DecodeChar (String.utf8EncodeChar c ++ rest) = some (c, rest) := by
  rcases utf8EncodeChar_shape c with ⟨hc, a, he, ha⟩ | ⟨hl, hh, a, b, he, ha, hb⟩ |
    ⟨hl, hh, a, b, d, he, ha, hb, hd⟩ | ⟨hl, hh, a, b, d, e, he, ha, hb, hd, hlast⟩
  · have hs : scalar? 0 a.toNat = some c := scalar?_eq_some.mpr ⟨by omega, ha.symm⟩
    simp [he, utf8DecodeChar, show a.toNat < 128 by omega, hs]
  · have hx := (continuation?_eq_some (b := b)).mpr ⟨Nat.mod_lt _ (by omega), hb⟩
    have hs : scalar? 0x80 ((a.toNat - 0xC0) * 64 + c.toNat % 64) = some c :=
      scalar?_eq_some.mpr (by omega)
    simp only [he, List.cons_append, List.nil_append, utf8DecodeChar]
    rw [if_neg (by omega), if_pos (by omega)]
    refine Option.bind_eq_some_iff.mpr ⟨_, hx, ?_⟩
    exact Option.bind_eq_some_iff.mpr ⟨c, hs, rfl⟩
  · have hx := (continuation?_eq_some (b := b)).mpr ⟨Nat.mod_lt _ (by omega), hb⟩
    have hy := (continuation?_eq_some (b := d)).mpr ⟨Nat.mod_lt _ (by omega), hd⟩
    have hs : scalar? 0x800 ((a.toNat - 0xE0) * 4096 + c.toNat / 64 % 64 * 64 + c.toNat % 64) =
        some c := scalar?_eq_some.mpr (by omega)
    simp only [he, List.cons_append, List.nil_append, utf8DecodeChar]
    rw [if_neg (by omega), if_neg (by omega), if_pos (by omega)]
    refine Option.bind_eq_some_iff.mpr ⟨_, hx, ?_⟩
    refine Option.bind_eq_some_iff.mpr ⟨_, hy, ?_⟩
    exact Option.bind_eq_some_iff.mpr ⟨c, hs, rfl⟩
  · have hx := (continuation?_eq_some (b := b)).mpr ⟨Nat.mod_lt _ (by omega), hb⟩
    have hy := (continuation?_eq_some (b := d)).mpr ⟨Nat.mod_lt _ (by omega), hd⟩
    have hz := (continuation?_eq_some (b := e)).mpr ⟨Nat.mod_lt _ (by omega), hlast⟩
    have hs : scalar? 0x10000 ((a.toNat - 0xF0) * 262144 + c.toNat / 4096 % 64 * 4096 +
        c.toNat / 64 % 64 * 64 + c.toNat % 64) = some c := scalar?_eq_some.mpr (by omega)
    simp only [he, List.cons_append, List.nil_append, utf8DecodeChar]
    rw [if_neg (by omega), if_neg (by omega), if_neg (by omega), if_pos (by omega)]
    refine Option.bind_eq_some_iff.mpr ⟨_, hx, ?_⟩
    refine Option.bind_eq_some_iff.mpr ⟨_, hy, ?_⟩
    refine Option.bind_eq_some_iff.mpr ⟨_, hz, ?_⟩
    exact Option.bind_eq_some_iff.mpr ⟨c, hs, rfl⟩

/-- What a successful step has read is the scalar's only spelling. -/
theorem utf8DecodeChar_canonical {bs rest : Bytes} {c : Char}
    (h : utf8DecodeChar bs = some (c, rest)) : bs = String.utf8EncodeChar c ++ rest := by
  cases bs with
  | nil => simp [utf8DecodeChar] at h
  | cons a tail =>
    simp only [utf8DecodeChar] at h
    split at h
    next ha =>
      obtain ⟨s, hs, h⟩ := Option.bind_eq_some_iff.mp h
      obtain ⟨rfl, rfl⟩ := Prod.mk.inj (Option.some.inj h)
      obtain ⟨_, hv⟩ := scalar?_eq_some.mp hs
      simp only [String.utf8EncodeChar, Char.toNat_val]
      rw [if_pos (by omega), ofNat_eq_byte (b := a) (by omega)]
      rfl
    next ha =>
      split at h
      next hr =>
        split at h
        next b tail =>
          obtain ⟨x, hx, h⟩ := Option.bind_eq_some_iff.mp h
          obtain ⟨s, hs, h⟩ := Option.bind_eq_some_iff.mp h
          obtain ⟨rfl, rfl⟩ := Prod.mk.inj (Option.some.inj h)
          obtain ⟨hl, hv⟩ := scalar?_eq_some.mp hs
          obtain ⟨hx, hb⟩ := continuation?_eq_some.mp hx
          simp only [String.utf8EncodeChar, Char.toNat_val]
          rw [if_neg (by omega), if_pos (by omega), ofNat_eq_byte (b := a) (by omega),
            ofNat_eq_byte (b := b) (by omega)]
          rfl
        next => simp at h
      next hr =>
        split at h
        next hr' =>
          split at h
          next b d tail =>
            obtain ⟨x, hx, h⟩ := Option.bind_eq_some_iff.mp h
            obtain ⟨y, hy, h⟩ := Option.bind_eq_some_iff.mp h
            obtain ⟨s, hs, h⟩ := Option.bind_eq_some_iff.mp h
            obtain ⟨rfl, rfl⟩ := Prod.mk.inj (Option.some.inj h)
            obtain ⟨hl, hv⟩ := scalar?_eq_some.mp hs
            obtain ⟨hx, hb⟩ := continuation?_eq_some.mp hx
            obtain ⟨hy, hd⟩ := continuation?_eq_some.mp hy
            simp only [String.utf8EncodeChar, Char.toNat_val]
            rw [if_neg (by omega), if_neg (by omega), if_pos (by omega),
              ofNat_eq_byte (b := a) (by omega), ofNat_eq_byte (b := b) (by omega),
              ofNat_eq_byte (b := d) (by omega)]
            rfl
          next => simp at h
        next hr' =>
          split at h
          next hr'' =>
            split at h
            next b d e tail =>
              obtain ⟨x, hx, h⟩ := Option.bind_eq_some_iff.mp h
              obtain ⟨y, hy, h⟩ := Option.bind_eq_some_iff.mp h
              obtain ⟨z, hz, h⟩ := Option.bind_eq_some_iff.mp h
              obtain ⟨s, hs, h⟩ := Option.bind_eq_some_iff.mp h
              obtain ⟨rfl, rfl⟩ := Prod.mk.inj (Option.some.inj h)
              obtain ⟨hl, hv⟩ := scalar?_eq_some.mp hs
              obtain ⟨hx, hb⟩ := continuation?_eq_some.mp hx
              obtain ⟨hy, hd⟩ := continuation?_eq_some.mp hy
              obtain ⟨hz, he⟩ := continuation?_eq_some.mp hz
              simp only [String.utf8EncodeChar, Char.toNat_val]
              rw [if_neg (by omega), if_neg (by omega), if_neg (by omega),
                ofNat_eq_byte (b := a) (by omega), ofNat_eq_byte (b := b) (by omega),
                ofNat_eq_byte (b := d) (by omega), ofNat_eq_byte (b := e) (by omega)]
              rfl
            next => simp at h
          next => simp at h

theorem length_utf8EncodeChar_pos (c : Char) : 0 < (String.utf8EncodeChar c).length := by
  rw [String.length_utf8EncodeChar]
  exact c.utf8Size_pos

theorem utf8DecodeFuel_encode (s : List Char) :
    ∀ fuel, (utf8Encode s).length ≤ fuel → utf8DecodeFuel fuel (utf8Encode s) = some s := by
  induction s with
  | nil =>
    intro fuel _
    cases fuel <;> rfl
  | cons c s ih =>
    intro fuel hf
    have hpos := length_utf8EncodeChar_pos c
    simp only [utf8Encode, List.flatMap_cons, List.length_append] at hf ih ⊢
    cases fuel with
    | zero => omega
    | succ fuel =>
      have hne : String.utf8EncodeChar c ++ s.flatMap String.utf8EncodeChar ≠ [] := by
        intro h
        have := congrArg List.length h
        simp only [List.length_append, List.length_nil] at this
        omega
      obtain ⟨b, bs, hb⟩ := List.exists_cons_of_ne_nil hne
      have hstep := utf8DecodeChar_encode c (s.flatMap String.utf8EncodeChar)
      rw [hb] at hstep ⊢
      simp only [utf8DecodeFuel, hstep]
      simp [ih fuel (by omega)]

theorem utf8DecodeFuel_canonical {fuel : Nat} {bs : Bytes} {s : List Char}
    (h : utf8DecodeFuel fuel bs = some s) : bs = utf8Encode s := by
  induction fuel generalizing bs s with
  | zero =>
    cases bs with
    | nil => cases Option.some.inj h; rfl
    | cons b bs => simp [utf8DecodeFuel] at h
  | succ fuel ih =>
    cases bs with
    | nil => cases Option.some.inj h; rfl
    | cons b bs =>
      obtain ⟨⟨c, rest⟩, hc, h⟩ := Option.bind_eq_some_iff.mp h
      obtain ⟨cs, hcs, h⟩ := Option.bind_eq_some_iff.mp h
      cases Option.some.inj h
      rw [utf8DecodeChar_canonical hc, ih hcs]
      rfl

/-- The decoder accepts exactly the encoded strings. -/
theorem utf8Decode_eq_some {bs : Bytes} {s : List Char} :
    utf8Decode bs = some s ↔ bs = utf8Encode s := by
  constructor
  · exact utf8DecodeFuel_canonical
  · rintro rfl
    exact utf8DecodeFuel_encode s _ (Nat.le_refl _)

theorem utf8Encode_inj {a b : List Char} (h : utf8Encode a = utf8Encode b) : a = b := by
  have hdecode := utf8Decode_eq_some.mpr h
  rw [utf8Decode_eq_some.mpr rfl] at hdecode
  exact Option.some.inj hdecode

theorem length_utf8Encode_le (s : List Char) : (utf8Encode s).length ≤ 4 * s.length := by
  induction s with
  | nil => simp [utf8Encode]
  | cons c s ih =>
    have := c.utf8Size_le_four
    simp only [utf8Encode, List.flatMap_cons, List.length_append, List.length_cons,
      String.length_utf8EncodeChar] at ih ⊢
    omega

end Wire
