import Historian.ByteOrder
import Historian.Bounded

namespace Historian

open Wire Checks

inductive JournalV1Error where
  | invalidHeaderMagic | unsupportedHeaderVersion | invalidHeaderLength | invalidFrameMagic
  | unsupportedFrameVersion | unsupportedFrameKind | invalidFrameFlags | invalidAppendSequence
  | nonMonotonicAppendSequence | appendSequenceOverflow | payloadTooLarge | truncated
  | trailingBytes | checksumMismatch | unknownTag | invalidCount | invalidLength | invalidUtf8
  | invalidIdentity | invalidCanonicalData
  deriving DecidableEq, Repr

def journalV1HeaderLen : Nat := 28

abbrev Enc := Encode JournalV1Error
abbrev Cursor := Decode JournalV1Error

def encodeU8 (value : UInt8) : Enc Unit := put [value]
def encodeU32 (value : U32) : Enc Unit := encodeBE 4 value
def encodeU64 (value : U64) : Enc Unit := encodeBE 8 value
def encodeU128 (value : U128) : Enc Unit := encodeBE 16 value
def encodeI64 (value : Int64) : Enc Unit := encodeU64 value.toBitVec.toFin

def encodeString (value : Text) : Enc Unit :=
  if h : value.len < 2 ^ 32 then do
    encodeU32 ⟨value.len, h⟩
    put (utf8Encode value)
  else throw .invalidLength

def encodeCount (value : Nat) : Enc Unit :=
  if h : value < 2 ^ 32 then encodeU32 ⟨value, h⟩ else throw .invalidCount

/-- The presence flag before an optional field. -/
def encodeFlag (present : Bool) : Enc Unit := encodeU8 (if present then 1 else 0)

def Cursor.u8 : Cursor UInt8 := do
  let bytes ← take .truncated 1
  pure (bytes.headD 0)

def Cursor.u32 : Cursor U32 := decodeBE .truncated 4 (2 ^ 32)
def Cursor.u64 : Cursor U64 := decodeBE .truncated 8 (2 ^ 64)
def Cursor.u128 : Cursor U128 := decodeBE .truncated 16 (2 ^ 128)

def Cursor.i64 : Cursor Int64 := do
  let bits ← Cursor.u64
  pure (Int64.ofBitVec (BitVec.ofFin bits))

def Cursor.string (maximum : Nat) : Cursor Text := do
  let length ← Cursor.u32
  fromExcept (refuse (maximum < length.val) .invalidLength)
  let bytes ← take .truncated length.val
  match utf8Decode bytes with
  | some value => pure value
  | none => throw .invalidUtf8

def Cursor.count (maximum : Nat) : Cursor Nat := do
  let count ← Cursor.u32
  fromExcept (refuse (maximum < count.val) .invalidCount)
  pure count.val

def flagOfTag : UInt8 → Except JournalV1Error Bool
  | 0 => .ok false
  | 1 => .ok true
  | _ => .error .unknownTag

def Cursor.option : Cursor Bool := do
  let tag ← Cursor.u8
  fromExcept (flagOfTag tag)

/-- A model type's own validation inside the decoder, with its error replaced. -/
def invalidModel {α : Type} (r : Except ModelError α) : Cursor α :=
  fromExcept (r.mapError fun _ => .invalidCanonicalData)

theorem codec_u8 : Codec (fun _ => True) encodeU8 Cursor.u8 := by
  apply Codec.map (fun value : UInt8 => [value]) (codec_take JournalV1Error.truncated 1)
  · intro value _
    rfl
  · intro bytes hb value
    obtain ⟨byte, rfl⟩ := List.length_eq_one_iff.mp hb
    simp

theorem codec_u32 : Codec (fun _ => True) encodeU32 Cursor.u32 := codec_be _ (by decide)
theorem codec_u64 : Codec (fun _ => True) encodeU64 Cursor.u64 := codec_be _ (by decide)
theorem codec_u128 : Codec (fun _ => True) encodeU128 Cursor.u128 := codec_be _ (by decide)

theorem codec_i64 : Codec (fun _ => True) encodeI64 Cursor.i64 := by
  apply Codec.map (fun value : Int64 => value.toBitVec.toFin) codec_u64 (fun _ _ => trivial)
  intro bits _ value
  constructor
  · rintro rfl
    exact ⟨trivial, rfl⟩
  · rintro ⟨-, rfl⟩
    rfl

/-- An enumeration written as one byte. -/
theorem codec_enum {α : Type} {tag : α → UInt8} {ofTag : UInt8 → Except JournalV1Error α}
    (h : ∀ a x, ofTag a = .ok x ↔ a = tag x) :
    Codec (fun _ => True) (fun x => encodeU8 (tag x))
      (do let a ← Cursor.u8; fromExcept (ofTag a)) := by
  apply Codec.checked tag codec_u8 (fun _ _ => trivial)
  intro a _ x
  rw [h, true_and]

theorem codec_flag : Codec (fun _ => True) encodeFlag Cursor.option := by
  have h : ∀ a x, flagOfTag a = .ok x ↔ a = if x then 1 else 0 := by
    intro a x
    unfold flagOfTag
    split <;> cases x <;> simp_all
  exact codec_enum h

/-- The 32-bit field that holds a bounded number. -/
theorem ofNat_u32 {n : Nat} (h : n < 2 ^ 32) : Fin.ofNat (2 ^ 32) n = ⟨n, h⟩ := by
  ext
  rw [Fin.val_ofNat, Nat.mod_eq_of_lt h]

theorem codec_count {maximum : Nat} (hm : maximum < 2 ^ 32) :
    Codec (fun n => n ≤ maximum) encodeCount (Cursor.count maximum) := by
  have h : Codec (fun n => n ≤ maximum) (fun n => encodeU32 (Fin.ofNat (2 ^ 32) n))
      (Cursor.count maximum) := by
    apply Codec.last (Fin.ofNat (2 ^ 32)) codec_u32 (fun _ _ => trivial)
    intro a _ bs n rest
    simp only [decode_bind_ok, fromExcept_ok, refuse_ok, decode_pure_ok]
    constructor
    · rintro ⟨_, _, ⟨hle, rfl⟩, rfl, rfl⟩
      exact ⟨⟨by omega, by rw [ofNat_u32 a.isLt]⟩, rfl⟩
    · rintro ⟨⟨hle, rfl⟩, rfl⟩
      rw [ofNat_u32 (by omega)]
      exact ⟨(), bs, ⟨by simpa using hle, rfl⟩, rfl, rfl⟩
  refine h.congr (fun _ => Iff.rfl) ?_
  intro n hn
  unfold encodeCount
  rw [dif_pos (by omega), ofNat_u32]

theorem codec_string {maximum : Nat} (hm : maximum < 2 ^ 32) :
    Codec (fun s => s.len ≤ maximum) encodeString (Cursor.string maximum) := by
  have h : Codec (fun s : Text => s.len ≤ maximum)
      (fun s => do encodeU32 (Fin.ofNat (2 ^ 32) s.len); put (utf8Encode s))
      (Cursor.string maximum) := by
    apply Codec.field (fun s : Text => Fin.ofNat (2 ^ 32) s.len) codec_u32 (fun _ _ => trivial)
    intro a _
    constructor
    · intro s _
      exact ⟨_, Writes.put _⟩
    · intro bs s rest
      simp only [decode_bind_ok, fromExcept_ok, refuse_ok, take_ok]
      constructor
      · rintro ⟨_, _, ⟨hle, rfl⟩, b, mid, ⟨hb, rfl⟩, hs⟩
        cases hv : utf8Decode b with
        | none =>
          rw [hv] at hs
          exact (decode_throw_ok.mp hs).elim
        | some value =>
          rw [hv] at hs
          obtain ⟨rfl, rfl⟩ := decode_pure_ok.mp hs
          obtain rfl := utf8Decode_eq_some.mp hv
          refine ⟨⟨by unfold Text.len; omega, ?_⟩, _, Writes.put _, rfl⟩
          unfold Text.len
          rw [hb, ofNat_u32 a.isLt]
      · rintro ⟨⟨hle, rfl⟩, b, hb, rfl⟩
        obtain rfl := hb.unique (Writes.put _)
        rw [ofNat_u32 (by omega)]
        refine ⟨(), _, ⟨by simpa using hle, rfl⟩, utf8Encode s, rest, ⟨rfl, rfl⟩, ?_⟩
        rw [utf8Decode_eq_some.mpr rfl]
        rfl
  refine h.congr (fun _ => Iff.rfl) ?_
  intro s hs
  unfold encodeString
  rw [dif_pos (by omega), ofNat_u32]

/-- A validated string field of at most `maximum` bytes. -/
theorem codec_checked {valid : Text → Bool} {error : ModelError} {maximum : Nat}
    (hm : maximum < 2 ^ 32) (hv : ∀ value, valid value = true → value.len ≤ maximum) :
    Codec (fun _ => True) (fun x : Checked valid => encodeString x.value)
      (do let value ← Cursor.string maximum; invalidModel (Checked.new error value)) := by
  apply Codec.checked (fun x : Checked valid => x.value) (codec_string hm)
  · intro x _
    exact hv _ x.isValid
  · intro value _ x
    rw [mapError_ok, Checked.new_ok, true_and]

end Historian
