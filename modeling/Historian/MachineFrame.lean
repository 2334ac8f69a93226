import Historian.ActiveJournal
import Historian.JournalFrame
import Historian.Machine

namespace Historian.MachineFrame

open Wire Checks Machine

def frameLenFromPrefixV1 (bytes : Bytes) (limits : DecodeLimitsV1) : Run JournalV1Error Nat := do
  refuseIf (bytes.length ≠ journalV1FramePrefixLen) .truncated
  let magic ← range bytes 0 4
  refuseIf (magic ≠ journalV1FrameMagic) .invalidFrameMagic
  let version ← range bytes 4 6
  refuseIf (ofBE version ≠ journalV1Version) .unsupportedFrameVersion
  let kind ← range bytes 6 7
  refuseIf (kind ≠ [frameKindAdmission]) .unsupportedFrameKind
  let flags ← range bytes 7 8
  refuseIf (flags ≠ [frameFlagsNone]) .invalidFrameFlags
  let sequence ← range bytes 8 16
  let _ ← lift (AppendSequenceV1.new (Fin.ofNat (2 ^ 64) (ofBE sequence)))
  let payloadField ← range bytes 16 20
  let payloadLen := ofBE payloadField
  refuseIf (maxAdmissionPayloadV1 < payloadLen ∨ limits.maxPayloadLen < payloadLen) .payloadTooLarge
  let length ← addOr .invalidLength journalV1FramePrefixLen payloadLen
  addOr .invalidLength length journalV1FrameCrcLen

/-- The payload is read through a cursor that only takes checked ranges. -/
def decodeAdmissionFrameV1 (bytes : Bytes) (limits : DecodeLimitsV1)
    (previousAppendSequence : Option AppendSequenceV1) : Run JournalV1Error DecodedAdmissionV1 := do
  refuseIf (bytes.length < journalV1FramePrefixLen + journalV1FrameCrcLen) .truncated
  let magic ← range bytes 0 4
  refuseIf (magic ≠ journalV1FrameMagic) .invalidFrameMagic
  let version ← range bytes 4 6
  refuseIf (ofBE version ≠ journalV1Version) .unsupportedFrameVersion
  let kind ← range bytes 6 7
  refuseIf (kind ≠ [frameKindAdmission]) .unsupportedFrameKind
  let flags ← range bytes 7 8
  refuseIf (flags ≠ [frameFlagsNone]) .invalidFrameFlags
  let sequenceField ← range bytes 8 16
  let appendSequence ← lift (AppendSequenceV1.new (Fin.ofNat (2 ^ 64) (ofBE sequenceField)))
  lift (followsPrevious appendSequence previousAppendSequence)
  let payloadField ← range bytes 16 20
  let payloadLen := ofBE payloadField
  refuseIf (maxAdmissionPayloadV1 < payloadLen ∨ limits.maxPayloadLen < payloadLen) .payloadTooLarge
  let checksumOffset ← addOr .invalidLength journalV1FramePrefixLen payloadLen
  let expectedLen ← addOr .invalidLength checksumOffset journalV1FrameCrcLen
  refuseIf (bytes.length < expectedLen) .truncated
  refuseIf (expectedLen < bytes.length) .trailingBytes
  let expectedCrc ← range bytes checksumOffset expectedLen
  let body ← range bytes 0 checksumOffset
  refuseIf ((crc32c body).val ≠ ofBE expectedCrc) .checksumMismatch
  let payload ← range bytes journalV1FramePrefixLen checksumOffset
  let (decoded, rest) ← lift (decodePayload appendSequence.value payload)
  refuseIf (rest ≠ []) .trailingBytes
  lift (validateDecoded decoded)
  pure decoded

/-- The payload is moved behind its prefix in place. -/
def frameBytes (appendSequence : U64) (payload : Bytes) : Run JournalV1Error Bytes := do
  refuseIf (maxAdmissionPayloadV1 < payload.length) .payloadTooLarge
  let body ← addOr .payloadTooLarge journalV1FramePrefixLen payload.length
  let capacity ← addOr .payloadTooLarge body journalV1FrameCrcLen
  let originalLen := payload.length
  let more ← sub capacity originalLen
  let frame := payload ++ zeros more
  let moved ← range frame 0 originalLen
  let behind ← add journalV1FramePrefixLen originalLen
  let frame ← writeRange frame journalV1FramePrefixLen behind moved
  let frame ← writeRange frame 0 4 journalV1FrameMagic
  let frame ← writeRange frame 4 6 (toBE 2 journalV1Version)
  let frame ← writeRange frame 6 7 [frameKindAdmission]
  let frame ← writeRange frame 7 8 [frameFlagsNone]
  let frame ← writeRange frame 8 16 (toBE 8 appendSequence)
  let frame ← writeRange frame 16 20 (toBE 4 originalLen)
  let checksumOffset ← add journalV1FramePrefixLen originalLen
  let checked ← range frame 0 checksumOffset
  writeRange frame checksumOffset frame.length (toBE 4 (crc32c checked))

def encodeDecodedAdmissionFrameV1 (admission : DecodedAdmissionV1) : Run JournalV1Error Bytes := do
  let payload ← lift (encodeBytes (encodeDecodedPayload admission))
  frameBytes admission.appendSequence payload

/-- A range of bytes is the slice of its length. -/
theorem range_slice {bytes : Bytes} {start stop : Nat} (h : start ≤ stop)
    (h' : stop ≤ bytes.length) {ε : Type} :
    (range bytes start stop : Run ε Bytes) = pure (slice bytes start (stop - start)) :=
  range_eq h h'

theorem agrees_frameLenFromPrefixV1 (bytes : Bytes) (limits : DecodeLimitsV1) :
    Agrees (frameLenFromPrefixV1 bytes limits) (Historian.frameLenFromPrefixV1 bytes limits) := by
  unfold frameLenFromPrefixV1 Historian.frameLenFromPrefixV1
  refine Agrees.bind (Agrees.refuseIf Iff.rfl) fun _ hlen => ?_
  rw [refuse_ok, not_not] at hlen
  have hlen : bytes.length = 20 := hlen
  refine Agrees.step (range_slice (by omega) (by omega)) ?_
  refine Agrees.bind (Agrees.refuseIf Iff.rfl) fun _ _ => ?_
  refine Agrees.step (range_slice (by omega) (by omega)) ?_
  refine Agrees.bind (Agrees.refuseIf Iff.rfl) fun _ _ => ?_
  refine Agrees.step (range_slice (by omega) (by omega)) ?_
  refine Agrees.bind (Agrees.refuseIf Iff.rfl) fun _ _ => ?_
  refine Agrees.step (range_slice (by omega) (by omega)) ?_
  refine Agrees.bind (Agrees.refuseIf Iff.rfl) fun _ _ => ?_
  refine Agrees.step (range_slice (by omega) (by omega)) ?_
  refine Agrees.bind (Agrees.lift _) fun _ _ => ?_
  refine Agrees.step (range_slice (by omega) (by omega)) ?_
  refine Agrees.bind (Agrees.refuseIf Iff.rfl) fun _ hpayload => ?_
  rw [refuse_ok] at hpayload
  simp only [Nat.reduceSub]
  have hmax : maxAdmissionPayloadV1 < 2 ^ 32 := by decide
  have hword : wordSize = 2 ^ 64 := rfl
  have hprefix : journalV1FramePrefixLen = 20 := rfl
  have hcrc : journalV1FrameCrcLen = 4 := rfl
  refine Agrees.step (addOr_eq (by omega)) ?_
  rw [addOr_eq (by omega)]
  exact Agrees.pure _

theorem agrees_decodeAdmissionFrameV1 (bytes : Bytes) (limits : DecodeLimitsV1)
    (previousAppendSequence : Option AppendSequenceV1) :
    Agrees (decodeAdmissionFrameV1 bytes limits previousAppendSequence)
      (Historian.decodeAdmissionFrameV1 bytes limits previousAppendSequence) := by
  have hprefix : journalV1FramePrefixLen = 20 := rfl
  have hcrc : journalV1FrameCrcLen = 4 := rfl
  unfold decodeAdmissionFrameV1 Historian.decodeAdmissionFrameV1
  refine Agrees.bind (Agrees.refuseIf Iff.rfl) fun _ hlen => ?_
  rw [refuse_ok] at hlen
  refine Agrees.step (range_slice (by omega) (by omega)) ?_
  refine Agrees.bind (Agrees.refuseIf Iff.rfl) fun _ _ => ?_
  refine Agrees.step (range_slice (by omega) (by omega)) ?_
  refine Agrees.bind (Agrees.refuseIf Iff.rfl) fun _ _ => ?_
  refine Agrees.step (range_slice (by omega) (by omega)) ?_
  refine Agrees.bind (Agrees.refuseIf Iff.rfl) fun _ _ => ?_
  refine Agrees.step (range_slice (by omega) (by omega)) ?_
  refine Agrees.bind (Agrees.refuseIf Iff.rfl) fun _ _ => ?_
  refine Agrees.step (range_slice (by omega) (by omega)) ?_
  refine Agrees.bind (Agrees.lift _) fun appendSequence _ => ?_
  refine Agrees.bind (Agrees.lift _) fun _ _ => ?_
  refine Agrees.step (range_slice (by omega) (by omega)) ?_
  refine Agrees.bind (Agrees.refuseIf Iff.rfl) fun _ hpayload => ?_
  rw [refuse_ok] at hpayload
  simp only [Nat.reduceSub]
  have hmax : maxAdmissionPayloadV1 < 2 ^ 32 := by decide
  have hword : wordSize = 2 ^ 64 := rfl
  refine Agrees.step (addOr_eq (by omega)) ?_
  refine Agrees.step (addOr_eq (by omega)) ?_
  refine Agrees.bind (Agrees.refuseIf Iff.rfl) fun _ hshort => ?_
  refine Agrees.bind (Agrees.refuseIf Iff.rfl) fun _ hlong => ?_
  rw [refuse_ok] at hshort hlong
  refine Agrees.step (range_slice (by omega) (by omega)) ?_
  refine Agrees.step (range_slice (by omega) (by omega)) ?_
  simp only [Nat.add_sub_cancel_left, Nat.sub_zero, hcrc]
  refine Agrees.bind (Agrees.refuseIf Iff.rfl) fun _ _ => ?_
  refine Agrees.step (range_slice (by omega) (by omega)) ?_
  rw [Nat.add_sub_cancel_left]
  refine Agrees.bind (Agrees.lift _) fun decoded _ => ?_
  refine Agrees.bind (Agrees.refuseIf Iff.rfl) fun _ _ => ?_
  refine Agrees.bind (Agrees.lift _) fun _ _ => ?_
  exact Agrees.pure _

theorem exists_split {bytes : Bytes} {n : Nat} (h : n ≤ bytes.length) :
    ∃ head rest, bytes = head ++ rest ∧ head.length = n ∧ rest.length = bytes.length - n := by
  refine ⟨bytes.take n, bytes.drop n, (List.take_append_drop n bytes).symm, ?_, ?_⟩
  · rw [List.length_take]
    omega
  · rw [List.length_drop]

/-- Overwriting the first of two parts. -/
theorem writeRange_first {old new behind : Bytes} {stop : Nat} (h : old.length = stop)
    (hlen : new.length = old.length) :
    (writeRange (old ++ behind) 0 stop new : Run JournalV1Error Bytes) = pure (new ++ behind) := by
  have hmiddle : (writeRange ([] ++ (old ++ behind)) 0 stop new : Run JournalV1Error Bytes) =
      pure ([] ++ (new ++ behind)) := writeRange_middle rfl (by omega) hlen
  exact hmiddle

/-- The fields of the prefix are written over the first twenty bytes. -/
theorem writePrefix {head behind : Bytes} (h : head.length = 20) (appendSequence : U64) (n : Nat)
    {result : Except JournalV1Error Bytes} {next : Bytes → Run JournalV1Error Bytes}
    (hnext : Agrees (next (framePrefix appendSequence n ++ behind)) result) :
    Agrees (do
      let frame ← writeRange (head ++ behind) 0 4 journalV1FrameMagic
      let frame ← writeRange frame 4 6 (toBE 2 journalV1Version)
      let frame ← writeRange frame 6 7 [frameKindAdmission]
      let frame ← writeRange frame 7 8 [frameFlagsNone]
      let frame ← writeRange frame 8 16 (toBE 8 appendSequence)
      let frame ← writeRange frame 16 20 (toBE 4 n)
      next frame) result := by
  have hmagic : journalV1FrameMagic.length = 4 := rfl
  obtain ⟨magic, head, rfl, h1, hrest⟩ := exists_split (by omega : 4 ≤ head.length)
  obtain ⟨version, head, rfl, h2, hrest⟩ := exists_split (by omega : 2 ≤ head.length)
  obtain ⟨kind, head, rfl, h3, hrest⟩ := exists_split (by omega : 1 ≤ head.length)
  obtain ⟨flags, head, rfl, h4, hrest⟩ := exists_split (by omega : 1 ≤ head.length)
  obtain ⟨sequence, length, rfl, h5, h6⟩ := exists_split (by omega : 8 ≤ head.length)
  simp only [List.append_assoc]
  refine Agrees.step (writeRange_first h1 (by omega)) ?_
  refine Agrees.step (writeRange_middle hmagic (by omega) (by rw [length_toBE, h2])) ?_
  rw [← List.append_assoc journalV1FrameMagic]
  refine Agrees.step (writeRange_middle (by simp [hmagic]) (by omega) (by rw [h3]; rfl)) ?_
  rw [← List.append_assoc]
  refine Agrees.step (writeRange_middle (by simp [hmagic]) (by omega) (by rw [h4]; rfl)) ?_
  rw [← List.append_assoc]
  refine Agrees.step (writeRange_middle (by simp [hmagic]) (by omega) (by rw [length_toBE, h5])) ?_
  rw [← List.append_assoc]
  refine Agrees.step (writeRange_middle (by simp [hmagic]) (by omega)
    (by rw [length_toBE]; omega)) ?_
  rw [← List.append_assoc]
  exact hnext

theorem agrees_frameBytes (appendSequence : U64) (payload : Bytes) :
    Agrees (frameBytes appendSequence payload) (Historian.frameBytes appendSequence payload) := by
  have hprefix : journalV1FramePrefixLen = 20 := rfl
  have hcrc : journalV1FrameCrcLen = 4 := rfl
  have hmax : maxAdmissionPayloadV1 < 2 ^ 32 := by decide
  have hword : wordSize = 2 ^ 64 := rfl
  unfold frameBytes Historian.frameBytes
  refine Agrees.bind (Agrees.refuseIf Iff.rfl) fun _ hpayload => ?_
  rw [refuse_ok] at hpayload
  refine Agrees.step (addOr_eq (by omega)) ?_
  refine Agrees.step (addOr_eq (by omega)) ?_
  refine Agrees.step (sub_eq (by omega)) ?_
  have hlen : (payload ++ zeros (journalV1FramePrefixLen + payload.length + journalV1FrameCrcLen -
      payload.length)).length = 20 + (payload.length + 4) := by
    rw [List.length_append, length_zeros]
    omega
  refine Agrees.step (range_slice (Nat.zero_le _) (by omega)) ?_
  rw [Nat.sub_zero, slice_head rfl]
  refine Agrees.step (add_eq (by omega)) ?_
  generalize payload ++ zeros (journalV1FramePrefixLen + payload.length + journalV1FrameCrcLen -
    payload.length) = frame at hlen
  obtain ⟨head, frame, rfl, hhead, hframe⟩ := exists_split (by omega : 20 ≤ frame.length)
  rw [hlen, Nat.add_sub_cancel_left] at hframe
  obtain ⟨old, last, rfl, hold, hlast⟩ := exists_split (by omega : payload.length ≤ frame.length)
  refine Agrees.step (writeRange_middle hhead (by omega) hold.symm) ?_
  refine writePrefix hhead appendSequence payload.length ?_
  refine Agrees.step (add_eq (by omega)) ?_
  have hbody : (framePrefix appendSequence payload.length).length = 20 := length_framePrefix _ _
  rw [← List.append_assoc]
  refine Agrees.step (range_slice (Nat.zero_le _) (by simp only [List.length_append]; omega)) ?_
  rw [Nat.sub_zero, slice_head (by rw [List.length_append]; omega)]
  have hwrite : (writeRange ((framePrefix appendSequence payload.length ++ payload) ++ (last ++ []))
      (journalV1FramePrefixLen + payload.length)
      ((framePrefix appendSequence payload.length ++ payload) ++ last).length
      (toBE 4 (crc32c (framePrefix appendSequence payload.length ++ payload))) :
        Run JournalV1Error Bytes) = _ :=
    writeRange_middle (by rw [List.length_append]; omega)
      (by simp only [List.length_append]; omega) (by rw [length_toBE]; omega)
  rw [List.append_nil] at hwrite
  rw [hwrite, List.append_nil]
  exact Agrees.pure _

theorem agrees_encodeDecodedAdmissionFrameV1 (admission : DecodedAdmissionV1) :
    Agrees (encodeDecodedAdmissionFrameV1 admission)
      (Historian.encodeDecodedAdmissionFrameV1 admission) :=
  Agrees.bind (Agrees.lift _) fun _ _ => agrees_frameBytes _ _

end Historian.MachineFrame
