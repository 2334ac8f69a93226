import Historian.Codec

namespace Wire

variable {ε ε' : Type}

/-- The `w` big-endian bytes of `n`, and the number that bytes denote. -/
def toBE : Nat → Nat → Bytes
  | 0, _ => []
  | w + 1, n => toBE w (n / 256) ++ [UInt8.ofNat n]

def ofBE (b : Bytes) : Nat := b.foldl (fun n byte => n * 256 + byte.toNat) 0

@[simp] theorem length_toBE (w n : Nat) : (toBE w n).length = w := by
  induction w generalizing n with
  | zero => rfl
  | succ w ih => simp [toBE, ih]

theorem ofBE_append_byte (b : Bytes) (byte : UInt8) :
    ofBE (b ++ [byte]) = ofBE b * 256 + byte.toNat := by
  simp [ofBE]

theorem ofBE_lt (b : Bytes) : ofBE b < 256 ^ b.length := by
  induction b using List.reverseRecOn with
  | nil => simp [ofBE]
  | append_singleton b byte ih =>
    rw [ofBE_append_byte, List.length_append, List.length_singleton, Nat.pow_succ]
    have := byte.toNat_lt
    omega

theorem ofBE_toBE {w n : Nat} (h : n < 256 ^ w) : ofBE (toBE w n) = n := by
  induction w generalizing n with
  | zero =>
    have : n = 0 := by simpa using h
    simp [toBE, ofBE, this]
  | succ w ih =>
    have hd : n / 256 < 256 ^ w := by
      rw [Nat.pow_succ] at h
      omega
    rw [toBE, ofBE_append_byte, ih hd, UInt8.toNat_ofNat']
    omega

theorem toBE_ofBE (b : Bytes) : toBE b.length (ofBE b) = b := by
  induction b using List.reverseRecOn with
  | nil => rfl
  | append_singleton b byte ih =>
    have hb := byte.toNat_lt
    have hdiv : (ofBE b * 256 + byte.toNat) / 256 = ofBE b := by omega
    have hbyte : UInt8.ofNat (ofBE b * 256 + byte.toNat) = byte := by
      apply UInt8.toNat_inj.mp
      rw [UInt8.toNat_ofNat']
      omega
    rw [List.length_append, List.length_singleton, toBE, ofBE_append_byte, hdiv, hbyte, ih]

/-- A fixed-width unsigned integer, read back from exactly its own bytes. -/
def encodeBE (w : Nat) {N : Nat} (x : Fin N) : Encode ε Unit := put (toBE w x)

def decodeBE (short : ε) (w N : Nat) [NeZero N] : Decode ε (Fin N) := do
  let b ← take short w
  pure (Fin.ofNat N (ofBE b))

theorem codec_be (short : ε') {w N : Nat} [NeZero N] (h : 256 ^ w = N) :
    Codec (fun _ => True) (encodeBE w : Fin N → Encode ε Unit) (decodeBE short w N) := by
  subst h
  apply Codec.map (fun x : Fin (256 ^ w) => toBE w x) (codec_take short w)
  · intro x _
    simp
  · intro b hb x
    have hlt : ofBE b < 256 ^ w := hb ▸ ofBE_lt b
    constructor
    · rintro rfl
      refine ⟨trivial, ?_⟩
      rw [Fin.val_ofNat, Nat.mod_eq_of_lt hlt, ← hb, toBE_ofBE]
    · rintro ⟨-, rfl⟩
      ext
      rw [Fin.val_ofNat, ofBE_toBE x.isLt, Nat.mod_eq_of_lt x.isLt]

/-- The `w` little-endian bytes of `n`, and the number that bytes denote. -/
def toLE (w n : Nat) : Bytes := (toBE w n).reverse

def ofLE (b : Bytes) : Nat := ofBE b.reverse

@[simp] theorem length_toLE (w n : Nat) : (toLE w n).length = w := by
  rw [toLE, List.length_reverse, length_toBE]

theorem ofLE_lt (b : Bytes) : ofLE b < 256 ^ b.length := by
  have h := ofBE_lt b.reverse
  rwa [List.length_reverse] at h

theorem ofLE_toLE {w n : Nat} (h : n < 256 ^ w) : ofLE (toLE w n) = n := by
  rw [ofLE, toLE, List.reverse_reverse, ofBE_toBE h]

theorem toLE_ofLE (b : Bytes) : toLE b.length (ofLE b) = b := by
  have h := toBE_ofBE b.reverse
  rw [List.length_reverse] at h
  rw [toLE, ofLE, h, List.reverse_reverse]

/-- A fixed-width unsigned integer with its lowest byte first. -/
def encodeLE (w : Nat) {N : Nat} (x : Fin N) : Encode ε Unit := put (toLE w x)

def decodeLE (short : ε) (w N : Nat) [NeZero N] : Decode ε (Fin N) := do
  let b ← take short w
  pure (Fin.ofNat N (ofLE b))

theorem codec_le (short : ε') {w N : Nat} [NeZero N] (h : 256 ^ w = N) :
    Codec (fun _ => True) (encodeLE w : Fin N → Encode ε Unit) (decodeLE short w N) := by
  subst h
  apply Codec.map (fun x : Fin (256 ^ w) => toLE w x) (codec_take short w)
  · intro x _
    simp
  · intro b hb x
    have hlt : ofLE b < 256 ^ w := hb ▸ ofLE_lt b
    constructor
    · intro heq
      subst heq
      refine ⟨trivial, ?_⟩
      rw [Fin.val_ofNat, Nat.mod_eq_of_lt hlt, ← hb, toLE_ofLE]
    · intro h
      obtain ⟨-, rfl⟩ := h
      ext
      rw [Fin.val_ofNat, ofLE_toLE x.isLt, Nat.mod_eq_of_lt x.isLt]

end Wire
