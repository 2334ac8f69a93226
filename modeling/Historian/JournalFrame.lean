import Historian.JournalValidate
import Historian.Crc32c
import Historian.Slice

namespace Historian

open Wire Checks

def journalV1Version : Nat := 1
def journalV1FramePrefixLen : Nat := 20
def journalV1FrameCrcLen : Nat := 4
def maxAdmissionPayloadV1 : Nat := 8 * 1024 * 1024
def journalV1HeaderMagic : Bytes := [0x4f, 0x43, 0x48, 0x4a, 0x4e, 0x4c, 0x30, 0x31]
def journalV1FrameMagic : Bytes := [0x4f, 0x43, 0x48, 0x46]
def frameKindAdmission : UInt8 := 1
def frameFlagsNone : UInt8 := 0

/-- Append sequences count from one. -/
structure AppendSequenceV1 where
  value : U64
  positive : 0 < value.val
  deriving DecidableEq

def AppendSequenceV1.new (value : U64) : Except JournalV1Error AppendSequenceV1 :=
  if h : 0 < value.val then .ok ⟨value, h⟩ else .error .invalidAppendSequence

def AppendSequenceV1.successor (sequence : AppendSequenceV1) :
    Except JournalV1Error AppendSequenceV1 :=
  if h : sequence.value.val + 1 < 2 ^ 64 then .ok ⟨⟨sequence.value.val + 1, h⟩, by simp⟩
  else .error .appendSequenceOverflow

structure DecodeLimitsV1 where
  maxPayloadLen : Nat
  bounded : maxPayloadLen ≤ maxAdmissionPayloadV1
  deriving DecidableEq

def DecodeLimitsV1.new (maxPayloadLen : Nat) : Except JournalV1Error DecodeLimitsV1 :=
  if h : maxPayloadLen ≤ maxAdmissionPayloadV1 then .ok ⟨maxPayloadLen, h⟩
  else .error .payloadTooLarge

def DecodeLimitsV1.maximum : DecodeLimitsV1 := ⟨maxAdmissionPayloadV1, Nat.le_refl _⟩

/-- The bytes before the payload: magic, version, kind, flags, sequence and payload length. -/
def framePrefix (appendSequence : U64) (payloadLen : Nat) : Bytes :=
  journalV1FrameMagic ++ toBE 2 journalV1Version ++ [frameKindAdmission] ++ [frameFlagsNone] ++
    toBE 8 appendSequence ++ toBE 4 payloadLen

/-- A frame ends with the checksum of everything before it. -/
def sealFrame (body : Bytes) : Bytes := body ++ toBE 4 (crc32c body)

def frameBytes (appendSequence : U64) (payload : Bytes) : Except JournalV1Error Bytes := do
  refuse (maxAdmissionPayloadV1 < payload.length) .payloadTooLarge
  pure (sealFrame (framePrefix appendSequence payload.length ++ payload))

/-- Run an encoder over an empty byte buffer. -/
def encodeBytes (encode : Enc Unit) : Except JournalV1Error Bytes := do
  let (_, encoder) ← encode (.bytes [])
  pure encoder.finish

def encodeAdmissionFrameV1 (appendSequence : AppendSequenceV1) (admission : CanonicalAdmission) :
    Except JournalV1Error Bytes := do
  let payload ← encodeBytes (encodeCanonicalPayload admission)
  frameBytes appendSequence.value payload

def encodeDecodedAdmissionFrameV1 (admission : DecodedAdmissionV1) :
    Except JournalV1Error Bytes := do
  let payload ← encodeBytes (encodeDecodedPayload admission)
  frameBytes admission.appendSequence payload

def admissionFrameLenV1 (admission : CanonicalAdmission) : Except JournalV1Error Nat := do
  let (_, encoder) ← encodeCanonicalPayload admission (.count 0)
  refuse (maxAdmissionPayloadV1 < encoder.len) .payloadTooLarge
  pure (journalV1FramePrefixLen + encoder.len + journalV1FrameCrcLen)

/-- The check of a sequence against the one before it, when there is one. -/
def followsPrevious (appendSequence : AppendSequenceV1) :
    Option AppendSequenceV1 → Except JournalV1Error Unit
  | none => .ok ()
  | some previous => do
    let expected ← previous.successor
    refuse (appendSequence ≠ expected) .nonMonotonicAppendSequence

def decodeAdmissionFrameV1 (bytes : Bytes) (limits : DecodeLimitsV1)
    (previousAppendSequence : Option AppendSequenceV1) :
    Except JournalV1Error DecodedAdmissionV1 := do
  refuse (bytes.length < journalV1FramePrefixLen + journalV1FrameCrcLen) .truncated
  refuse (slice bytes 0 4 ≠ journalV1FrameMagic) .invalidFrameMagic
  refuse (ofBE (slice bytes 4 2) ≠ journalV1Version) .unsupportedFrameVersion
  refuse (slice bytes 6 1 ≠ [frameKindAdmission]) .unsupportedFrameKind
  refuse (slice bytes 7 1 ≠ [frameFlagsNone]) .invalidFrameFlags
  let appendSequence ← AppendSequenceV1.new (Fin.ofNat (2 ^ 64) (ofBE (slice bytes 8 8)))
  followsPrevious appendSequence previousAppendSequence
  let payloadLen := ofBE (slice bytes 16 4)
  refuse (maxAdmissionPayloadV1 < payloadLen ∨ limits.maxPayloadLen < payloadLen) .payloadTooLarge
  let checksumOffset := journalV1FramePrefixLen + payloadLen
  let expectedLen := checksumOffset + journalV1FrameCrcLen
  refuse (bytes.length < expectedLen) .truncated
  refuse (expectedLen < bytes.length) .trailingBytes
  refuse ((crc32c (slice bytes 0 checksumOffset)).val ≠ ofBE (slice bytes checksumOffset 4))
    .checksumMismatch
  let (decoded, rest) ← decodePayload appendSequence.value
    (slice bytes journalV1FramePrefixLen payloadLen)
  refuse (rest ≠ []) .trailingBytes
  validateDecoded decoded
  pure decoded

theorem length_framePrefix (appendSequence : U64) (payloadLen : Nat) :
    (framePrefix appendSequence payloadLen).length = journalV1FramePrefixLen := by
  simp [framePrefix, journalV1FrameMagic, journalV1FramePrefixLen]

theorem AppendSequenceV1.new_ok {value : U64} {sequence : AppendSequenceV1} :
    AppendSequenceV1.new value = .ok sequence ↔ value = sequence.value := by
  unfold AppendSequenceV1.new
  rw [dite_ok]
  constructor
  · rintro ⟨h, rfl⟩
    rfl
  · rintro rfl
    exact ⟨sequence.positive, rfl⟩

/-- The frame that carries a payload. -/
def frame (appendSequence : U64) (payload : Bytes) : Bytes :=
  sealFrame (framePrefix appendSequence payload.length ++ payload)

theorem frame_eq (appendSequence : U64) (payload : Bytes) :
    frame appendSequence payload = framePrefix appendSequence payload.length ++ (payload ++
      toBE 4 (crc32c (framePrefix appendSequence payload.length ++ payload))) := by
  simp [frame, sealFrame]

theorem length_frame (appendSequence : U64) (payload : Bytes) :
    (frame appendSequence payload).length =
      journalV1FramePrefixLen + payload.length + journalV1FrameCrcLen := by
  simp only [frame_eq, List.length_append, length_framePrefix, length_toBE, journalV1FrameCrcLen]
  omega

/-- What the checks of the prefix leave of it. -/
theorem framePrefix_of_slices {bytes : Bytes} {appendSequence : U64} {payloadLen : Nat}
    (hlen : journalV1FramePrefixLen ≤ bytes.length)
    (hmagic : slice bytes 0 4 = journalV1FrameMagic)
    (hversion : ofBE (slice bytes 4 2) = journalV1Version)
    (hkind : slice bytes 6 1 = [frameKindAdmission])
    (hflags : slice bytes 7 1 = [frameFlagsNone])
    (hseq : Fin.ofNat (2 ^ 64) (ofBE (slice bytes 8 8)) = appendSequence)
    (hpayload : ofBE (slice bytes 16 4) = payloadLen) :
    slice bytes 0 journalV1FramePrefixLen = framePrefix appendSequence payloadLen := by
  have h20 : journalV1FramePrefixLen = 20 := rfl
  have hs : ofBE (slice bytes 8 8) = appendSequence.val := by
    have hb := ofBE_lt (slice bytes 8 8)
    rw [length_slice (by omega)] at hb
    rw [← hseq, Fin.val_ofNat, Nat.mod_eq_of_lt (by omega)]
  calc slice bytes 0 journalV1FramePrefixLen
      = slice bytes 0 (4 + 2 + 1 + 1 + 8 + 4) := rfl
    _ = slice bytes 0 4 ++ slice bytes 4 2 ++ slice bytes 6 1 ++ slice bytes 7 1 ++
          slice bytes 8 8 ++ slice bytes 16 4 := by simp only [slice_add, Nat.zero_add]
    _ = framePrefix appendSequence payloadLen := by
      rw [hmagic, slice_eq_toBE (by omega) hversion, hkind, hflags, slice_eq_toBE (by omega) hs,
        slice_eq_toBE (by omega) hpayload]
      rfl

/-- A checked prefix, any payload and a checksum that agrees are a frame. -/
theorem frame_of_slices {bytes : Bytes} {appendSequence : U64} {n : Nat}
    (hlen : bytes.length = journalV1FramePrefixLen + n + journalV1FrameCrcLen)
    (hpre : slice bytes 0 journalV1FramePrefixLen = framePrefix appendSequence n)
    (hcrc : (crc32c (slice bytes 0 (journalV1FramePrefixLen + n))).val =
      ofBE (slice bytes (journalV1FramePrefixLen + n) journalV1FrameCrcLen)) :
    bytes = frame appendSequence (slice bytes journalV1FramePrefixLen n) := by
  have hbody : slice bytes 0 (journalV1FramePrefixLen + n) =
      framePrefix appendSequence n ++ slice bytes journalV1FramePrefixLen n := by
    rw [slice_add, hpre, Nat.zero_add]
  have hn : (slice bytes journalV1FramePrefixLen n).length = n := length_slice (by omega)
  calc bytes
      = slice bytes 0 (journalV1FramePrefixLen + n + journalV1FrameCrcLen) := (slice_all hlen).symm
    _ = slice bytes 0 (journalV1FramePrefixLen + n) ++
          slice bytes (journalV1FramePrefixLen + n) journalV1FrameCrcLen := by
      rw [slice_add, Nat.zero_add]
    _ = slice bytes 0 (journalV1FramePrefixLen + n) ++
          toBE 4 (crc32c (slice bytes 0 (journalV1FramePrefixLen + n))) := by
      rw [slice_eq_toBE (by omega) hcrc.symm]
      rfl
    _ = frame appendSequence (slice bytes journalV1FramePrefixLen n) := by
      rw [frame, sealFrame, hbody, hn]

/-- The fields that the decoder reads back from a prefix. -/
theorem slices_of_framePrefix (appendSequence : U64) {payloadLen : Nat} (rest : Bytes)
    (hp : payloadLen < 2 ^ 32) :
    let bytes := framePrefix appendSequence payloadLen ++ rest
    slice bytes 0 4 = journalV1FrameMagic ∧ ofBE (slice bytes 4 2) = journalV1Version ∧
      slice bytes 6 1 = [frameKindAdmission] ∧ slice bytes 7 1 = [frameFlagsNone] ∧
      Fin.ofNat (2 ^ 64) (ofBE (slice bytes 8 8)) = appendSequence ∧
      ofBE (slice bytes 16 4) = payloadLen := by
  refine ⟨rfl, rfl, rfl, rfl, ?_, ?_⟩
  · have h : slice (framePrefix appendSequence payloadLen ++ rest) 8 8 = toBE 8 appendSequence := by
      rw [show framePrefix appendSequence payloadLen ++ rest = (journalV1FrameMagic ++
        toBE 2 journalV1Version ++ [frameKindAdmission] ++ [frameFlagsNone]) ++
        (toBE 8 appendSequence ++ (toBE 4 payloadLen ++ rest)) by simp [framePrefix]]
      exact slice_append rfl (length_toBE _ _)
    rw [h, ofBE_toBE appendSequence.isLt]
    exact Fin.ext (Nat.mod_eq_of_lt appendSequence.isLt)
  · have h : slice (framePrefix appendSequence payloadLen ++ rest) 16 4 = toBE 4 payloadLen := by
      rw [show framePrefix appendSequence payloadLen ++ rest = (journalV1FrameMagic ++
        toBE 2 journalV1Version ++ [frameKindAdmission] ++ [frameFlagsNone] ++
        toBE 8 appendSequence) ++ (toBE 4 payloadLen ++ rest) by simp [framePrefix]]
      exact slice_append (by simp [journalV1FrameMagic]) (length_toBE _ _)
    rw [h, ofBE_toBE (by omega)]

theorem slice_frame_body (appendSequence : U64) (payload : Bytes) :
    slice (frame appendSequence payload) 0 (journalV1FramePrefixLen + payload.length) =
      framePrefix appendSequence payload.length ++ payload := by
  rw [frame, sealFrame, ← List.nil_append (_ ++ _)]
  exact slice_append rfl (by rw [List.length_append, length_framePrefix])

theorem slice_frame_payload (appendSequence : U64) (payload : Bytes) :
    slice (frame appendSequence payload) journalV1FramePrefixLen payload.length = payload := by
  rw [frame_eq]
  exact slice_append (length_framePrefix _ _) rfl

theorem slice_frame_checksum (appendSequence : U64) (payload : Bytes) :
    slice (frame appendSequence payload) (journalV1FramePrefixLen + payload.length) 4 =
      toBE 4 (crc32c (framePrefix appendSequence payload.length ++ payload)) := by
  rw [frame, sealFrame, ← List.append_nil (toBE 4 _)]
  exact slice_append (by rw [List.length_append, length_framePrefix]) (length_toBE _ _)

/-- A byte string is accepted exactly when it is the frame of a payload within the limits
whose record decodes completely and is canonical. -/
theorem decodeAdmissionFrameV1_ok {bytes : Bytes} {limits : DecodeLimitsV1}
    {previous : Option AppendSequenceV1} {decoded : DecodedAdmissionV1} :
    decodeAdmissionFrameV1 bytes limits previous = .ok decoded ↔
      ∃ (sequence : AppendSequenceV1) (payload : Bytes),
        bytes = frame sequence.value payload ∧
        payload.length ≤ limits.maxPayloadLen ∧ followsPrevious sequence previous = .ok () ∧
        decodePayload sequence.value payload = .ok (decoded, []) ∧
        validateDecoded decoded = .ok () := by
  unfold decodeAdmissionFrameV1
  simp only [bind_ok, exists_unit, refuse_ok, pure_ok, Prod.exists, Nat.not_lt, not_not, not_or,
    AppendSequenceV1.new_ok]
  constructor
  · rintro ⟨hlen, hmagic, hversion, hkind, hflags, sequence, hseq, hprev, ⟨hmax, hlimit⟩, hshort,
      hlong, hcrc, _, _, hpayload, rfl, hvalid, rfl⟩
    have hpre := framePrefix_of_slices (by omega) hmagic hversion hkind hflags hseq rfl
    refine ⟨sequence, _, frame_of_slices (by omega) hpre hcrc, ?_, hprev, hpayload, hvalid⟩
    rw [length_slice (by omega)]
    exact hlimit
  · rintro ⟨sequence, payload, rfl, hlimit, hprev, hpayload, hvalid⟩
    have hmax : payload.length ≤ maxAdmissionPayloadV1 := Nat.le_trans hlimit limits.bounded
    have hfields := slices_of_framePrefix sequence.value (payload ++
      toBE 4 (crc32c (framePrefix sequence.value payload.length ++ payload)))
      (show payload.length < 2 ^ 32 by simp only [maxAdmissionPayloadV1] at hmax; omega)
    simp only [← frame_eq] at hfields
    obtain ⟨hmagic, hversion, hkind, hflags, hseq, hpl⟩ := hfields
    refine ⟨by rw [length_frame]; omega, hmagic, hversion, hkind, hflags, sequence, hseq, hprev, ?_⟩
    rw [hpl, length_frame, slice_frame_body, slice_frame_payload, slice_frame_checksum,
      ofBE_toBE (Fin.isLt _)]
    exact ⟨⟨hmax, hlimit⟩, Nat.le_refl _, Nat.le_refl _, rfl, decoded, [], hpayload, rfl, hvalid,
      rfl⟩

theorem encodeBytes_of_writes {encode : Enc Unit} {written : Bytes} (h : Writes encode written) :
    encodeBytes encode = .ok written := by
  unfold encodeBytes
  rw [h (.bytes [])]
  rfl

theorem frameBytes_ok {appendSequence : U64} {payload bytes : Bytes} :
    frameBytes appendSequence payload = .ok bytes ↔
      payload.length ≤ maxAdmissionPayloadV1 ∧ frame appendSequence payload = bytes := by
  unfold frameBytes
  simp only [then_ok, refuse_ok, pure_ok, Nat.not_lt]
  rfl

/-- A record that is framed at all is framed around the bytes its encoder writes. -/
theorem encodeDecodedAdmissionFrameV1_ok {decoded : DecodedAdmissionV1} {payload bytes : Bytes}
    (hwrites : Writes (encodeDecodedPayload decoded) payload) :
    encodeDecodedAdmissionFrameV1 decoded = .ok bytes ↔
      payload.length ≤ maxAdmissionPayloadV1 ∧ frame decoded.appendSequence payload = bytes := by
  unfold encodeDecodedAdmissionFrameV1
  rw [encodeBytes_of_writes hwrites]
  exact frameBytes_ok

/-- An accepted frame is the only frame of its record. -/
theorem encode_of_decode_frame {bytes : Bytes} {limits : DecodeLimitsV1}
    {previous : Option AppendSequenceV1} {decoded : DecodedAdmissionV1}
    (h : decodeAdmissionFrameV1 bytes limits previous = .ok decoded) :
    encodeDecodedAdmissionFrameV1 decoded = .ok bytes := by
  obtain ⟨sequence, payload, rfl, hlimit, -, hpayload, -⟩ := decodeAdmissionFrameV1_ok.mp h
  obtain ⟨⟨hseq, -⟩, written, hwrites, hsplit⟩ :=
    ((codec_payload sequence.value).reads _ _ _).mp hpayload
  rw [List.append_nil] at hsplit
  subst hsplit
  rw [encodeDecodedAdmissionFrameV1_ok hwrites]
  exact ⟨Nat.le_trans hlimit limits.bounded, by rw [hseq]⟩

end Historian
