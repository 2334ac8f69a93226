import Historian.ActiveOpen
import Historian.JournalRoundTrip

namespace Historian

open Wire Checks Files

/-- A byte string that is a sequence of frames, with the records that they hold and the offsets
behind them. The first frame starts at `offset` and follows `previous`. -/
inductive Frames (storeId : StoreId) (limits : DecodeLimitsV1) :
    Option AppendSequenceV1 → Nat → List RecoveredAdmissionV1 → Bytes → Prop
  | nil {previous : Option AppendSequenceV1} {offset : Nat} :
    Frames storeId limits previous offset [] []
  | cons {previous : Option AppendSequenceV1} {offset : Nat} {frame rest : Bytes}
      {decoded : DecodedAdmissionV1} {endOffset : U64} {sequence : AppendSequenceV1}
      {records : List RecoveredAdmissionV1}
      (decodes : decodeAdmissionFrameV1 frame limits previous = .ok decoded)
      (store : decoded.storeId = storeId) (declared : decoded.declaration.storeId = storeId)
      (ends : endOffset.val = offset + frame.length)
      (numbered : decoded.appendSequence = sequence.value)
      (tail : Frames storeId limits (some sequence) endOffset.val records rest) :
    Frames storeId limits previous offset (⟨endOffset, decoded⟩ :: records) (frame ++ rest)

/-- The sequence that the next frame has to follow. -/
def sequenceBehind (previous : Option AppendSequenceV1) :
    List RecoveredAdmissionV1 → Option AppendSequenceV1
  | [] => previous
  | record :: rest => sequenceBehind (floorSequence record.admission.appendSequence) rest

/-- Records numbered on from `sequence` without a hole. -/
def Numbered : U64 → List RecoveredAdmissionV1 → Prop
  | _, [] => True
  | sequence, record :: rest =>
    sequence.val + 1 = record.admission.appendSequence.val ∧
      Numbered record.admission.appendSequence rest

theorem floorSequence_value (sequence : AppendSequenceV1) :
    floorSequence sequence.value = some sequence := by
  unfold floorSequence
  rw [dif_pos sequence.positive]

theorem floorSequence_eq_some {floor : U64} {sequence : AppendSequenceV1} :
    floorSequence floor = some sequence ↔ floor = sequence.value := by
  constructor
  · intro h
    unfold floorSequence at h
    split at h
    next hpos =>
      cases h
      rfl
    next => cases h
  · intro h
    rw [h, floorSequence_value]

theorem mem_floorSequence {floor : U64} {sequence : AppendSequenceV1}
    (h : sequence ∈ floorSequence floor) : sequence.value = floor :=
  (floorSequence_eq_some.mp h).symm

/-- A frame announces its own length in its prefix. -/
theorem frameLen_of_frame {limits : DecodeLimitsV1} (sequence : AppendSequenceV1) {payload : Bytes}
    (hlimit : payload.length ≤ limits.maxPayloadLen) (rest : Bytes) :
    frameLenFromPrefixV1 (slice (frame sequence.value payload ++ rest) 0 journalV1FramePrefixLen)
      limits = .ok (frame sequence.value payload).length := by
  have hmax : payload.length ≤ maxAdmissionPayloadV1 := Nat.le_trans hlimit limits.bounded
  have h32 : payload.length < 2 ^ 32 := by
    simp only [maxAdmissionPayloadV1] at hmax
    omega
  have hhead : slice (frame sequence.value payload ++ rest) 0 journalV1FramePrefixLen =
      framePrefix sequence.value payload.length := by
    rw [frame_eq, List.append_assoc]
    exact slice_head (length_framePrefix _ _)
  rw [hhead, length_frame]
  obtain ⟨hmagic, hversion, hkind, hflags, hseq, hlen⟩ :=
    slices_of_framePrefix sequence.value [] h32
  rw [List.append_nil] at hmagic hversion hkind hflags hseq hlen
  unfold frameLenFromPrefixV1
  simp only [bind_ok, exists_unit, refuse_ok, pure_ok, not_not, not_or, Nat.not_lt,
    AppendSequenceV1.new_ok]
  refine ⟨length_framePrefix _ _, hmagic, hversion, hkind, hflags, sequence, hseq, ?_⟩
  rw [hlen]
  exact ⟨⟨hmax, hlimit⟩, rfl⟩

theorem frameLen_of_decode {frame : Bytes} {limits : DecodeLimitsV1}
    {previous : Option AppendSequenceV1} {decoded : DecodedAdmissionV1}
    (h : decodeAdmissionFrameV1 frame limits previous = .ok decoded) (rest : Bytes) :
    frameLenFromPrefixV1 (slice (frame ++ rest) 0 journalV1FramePrefixLen) limits =
      .ok frame.length := by
  obtain ⟨sequence, payload, rfl, hlimit, -⟩ := decodeAdmissionFrameV1_ok.mp h
  exact frameLen_of_frame sequence hlimit rest

theorem length_of_decode {frame : Bytes} {limits : DecodeLimitsV1}
    {previous : Option AppendSequenceV1} {decoded : DecodedAdmissionV1}
    (h : decodeAdmissionFrameV1 frame limits previous = .ok decoded) :
    journalV1FramePrefixLen + journalV1FrameCrcLen ≤ frame.length := by
  obtain ⟨sequence, payload, rfl, -⟩ := decodeAdmissionFrameV1_ok.mp h
  rw [length_frame]
  omega

theorem length_le_of_decode {frame : Bytes} {limits : DecodeLimitsV1}
    {previous : Option AppendSequenceV1} {decoded : DecodedAdmissionV1}
    (h : decodeAdmissionFrameV1 frame limits previous = .ok decoded) :
    frame.length ≤ journalV1FramePrefixLen + maxAdmissionPayloadV1 + journalV1FrameCrcLen := by
  obtain ⟨sequence, payload, rfl, hlimit, -⟩ := decodeAdmissionFrameV1_ok.mp h
  have hmax : payload.length ≤ maxAdmissionPayloadV1 := Nat.le_trans hlimit limits.bounded
  rw [length_frame]
  omega

/-- The sequence of a record is that of its frame, which follows the one before it. -/
theorem sequence_of_decode {frame : Bytes} {limits : DecodeLimitsV1}
    {previous : Option AppendSequenceV1} {decoded : DecodedAdmissionV1}
    (h : decodeAdmissionFrameV1 frame limits previous = .ok decoded) :
    ∃ sequence : AppendSequenceV1, decoded.appendSequence = sequence.value ∧
      u64At frame 8 = sequence.value ∧
      ∀ before ∈ previous, before.value.val + 1 = sequence.value.val := by
  obtain ⟨sequence, payload, rfl, hlimit, hfollows, hpayload, -⟩ :=
    decodeAdmissionFrameV1_ok.mp h
  have hmax : payload.length ≤ maxAdmissionPayloadV1 := Nat.le_trans hlimit limits.bounded
  have h32 : payload.length < 2 ^ 32 := by
    simp only [maxAdmissionPayloadV1] at hmax
    omega
  have hsound := ((codec_payload sequence.value).reads _ _ _).mp hpayload
  refine ⟨sequence, hsound.1.1.symm, ?_, followsPrevious_ok.mp hfollows⟩
  rw [frame_eq]
  exact (slices_of_framePrefix sequence.value _ h32).2.2.2.2.1

/-- A record names one store, in its own field and in its declaration. -/
theorem storeId_of_decode {frame : Bytes} {limits : DecodeLimitsV1}
    {previous : Option AppendSequenceV1} {decoded : DecodedAdmissionV1}
    (h : decodeAdmissionFrameV1 frame limits previous = .ok decoded) :
    decoded.storeId = decoded.declaration.storeId := by
  obtain ⟨-, -, -, -, -, -, hvalid⟩ := decodeAdmissionFrameV1_ok.mp h
  unfold validateDecoded at hvalid
  simp only [then_ok, refuse_ok, not_or, not_not] at hvalid
  exact hvalid.1.1

/-- A frame is accepted behind any sequence that it follows. -/
theorem decode_behind {frame : Bytes} {limits : DecodeLimitsV1}
    {previous other : Option AppendSequenceV1} {decoded : DecodedAdmissionV1}
    (h : decodeAdmissionFrameV1 frame limits previous = .ok decoded)
    (hother : ∀ before ∈ other, before.value.val + 1 = decoded.appendSequence.val) :
    decodeAdmissionFrameV1 frame limits other = .ok decoded := by
  obtain ⟨sequence, payload, rfl, hlimit, -, hpayload, hvalid⟩ := decodeAdmissionFrameV1_ok.mp h
  have hsound := ((codec_payload sequence.value).reads _ _ _).mp hpayload
  have hfollows : followsPrevious sequence other = .ok () := by
    rw [followsPrevious_ok, hsound.1.1]
    exact hother
  exact decodeAdmissionFrameV1_ok.mpr
    ⟨sequence, payload, rfl, hlimit, hfollows, hpayload, hvalid⟩

/-- A frame at the front of a file is cut off there whole. -/
theorem front_frame {rest : Bytes} {frameLen : Nat} (hlen : frameLen ≤ rest.length) :
    (slice rest 0 frameLen).length = frameLen ∧
      rest = slice rest 0 frameLen ++ rest.drop frameLen := by
  refine ⟨length_slice (by omega), ?_⟩
  simp [slice]

namespace Frames

variable {storeId : StoreId} {limits : DecodeLimitsV1} {previous : Option AppendSequenceV1}
  {offset : Nat} {records : List RecoveredAdmissionV1} {bytes : Bytes}

theorem length_le (h : Frames storeId limits previous offset records bytes) :
    records.length ≤ bytes.length := by
  induction h with
  | nil => exact Nat.le_refl _
  | cons decodes _ _ _ _ _ ih =>
    have hlen := length_of_decode decodes
    simp only [journalV1FramePrefixLen, journalV1FrameCrcLen] at hlen
    rw [List.length_cons, List.length_append]
    omega

theorem eq_nil (h : Frames storeId limits previous offset records bytes) :
    records = [] ↔ bytes = [] := by
  cases h with
  | nil => simp
  | cons decodes =>
    have hlen := length_of_decode decodes
    simp only [journalV1FramePrefixLen, journalV1FrameCrcLen] at hlen
    simp only [reduceCtorEq, List.append_eq_nil_iff, false_iff, not_and]
    intro hnil
    rw [hnil] at hlen
    simp at hlen

/-- Every record ends inside the byte string. -/
theorem endOffset_le (h : Frames storeId limits previous offset records bytes) :
    ∀ record ∈ records, offset < record.endOffset.val ∧
      record.endOffset.val ≤ offset + bytes.length := by
  induction h with
  | nil => simp
  | cons decodes _ _ ends _ _ ih =>
    have hlen := length_of_decode decodes
    simp only [journalV1FramePrefixLen, journalV1FrameCrcLen] at hlen
    intro record hrecord
    rw [List.length_append]
    rw [List.mem_cons] at hrecord
    obtain rfl | hrecord := hrecord
    · dsimp only
      omega
    · have hmem := ih record hrecord
      omega

theorem last_endOffset (h : Frames storeId limits previous offset records bytes)
    {record : RecoveredAdmissionV1} (hlast : records.getLast? = some record) :
    record.endOffset.val = offset + bytes.length := by
  induction h with
  | nil => simp at hlast
  | @cons _ _ _ rest _ _ _ records decodes _ _ ends _ tail ih =>
    rw [List.length_append]
    cases records with
    | nil =>
      have hrest : rest = [] := tail.eq_nil.mp rfl
      rw [List.getLast?_singleton, Option.some.injEq] at hlast
      subst hlast hrest
      simpa using ends
    | cons next others =>
      rw [List.getLast?_cons_cons] at hlast
      have hend := ih hlast
      omega

/-- One more frame behind the last one. -/
theorem snoc (h : Frames storeId limits previous offset records bytes) {frame : Bytes}
    {decoded : DecodedAdmissionV1} {endOffset : U64}
    (hdecode : decodeAdmissionFrameV1 frame limits (sequenceBehind previous records) = .ok decoded)
    (hstore : decoded.storeId = storeId) (hdeclared : decoded.declaration.storeId = storeId)
    (hend : endOffset.val = offset + (bytes.length + frame.length)) :
    Frames storeId limits previous offset (records ++ [⟨endOffset, decoded⟩]) (bytes ++ frame) := by
  induction h with
  | nil =>
    obtain ⟨sequence, hsequence, -, -⟩ := sequence_of_decode hdecode
    rw [List.nil_append, List.nil_append, ← List.append_nil frame]
    exact .cons hdecode hstore hdeclared (by simpa using hend) hsequence .nil
  | cons decodes store declared ends numbered _ ih =>
    rw [List.cons_append, List.append_assoc]
    refine .cons decodes store declared ends numbered (ih ?_ ?_)
    · rw [sequenceBehind, numbered, floorSequence_value] at hdecode
      exact hdecode
    · rw [List.length_append] at hend
      omega

/-- The sequences behind the first record follow each other. -/
theorem numbered_tail (h : Frames storeId limits previous offset records bytes) :
    (∀ before ∈ previous, Numbered before.value records) ∧
      ∀ record rest, records = record :: rest → Numbered record.admission.appendSequence rest := by
  induction h with
  | nil => simp [Numbered]
  | cons decodes _ _ _ numbered tail ih =>
    have htail := ih.1 _ rfl
    rw [← numbered] at htail
    constructor
    · intro before hbefore
      obtain ⟨sequence, hsequence, -, hfollows⟩ := sequence_of_decode decodes
      refine ⟨?_, htail⟩
      rw [hsequence]
      exact hfollows before hbefore
    · intro record rest heq
      cases heq
      exact htail

end Frames

@[simp] theorem lastSequence_nil (sequence : U64) : lastSequence sequence [] = sequence := rfl

@[simp] theorem lastSequence_cons (sequence : U64) (record : RecoveredAdmissionV1)
    (rest : List RecoveredAdmissionV1) : lastSequence sequence (record :: rest) =
      lastSequence record.admission.appendSequence rest := by
  unfold lastSequence
  cases rest with
  | nil => rfl
  | cons second others => simp [List.getLast?_cons]

theorem numbered_snoc {sequence : U64} {records : List RecoveredAdmissionV1}
    {record : RecoveredAdmissionV1} (h : Numbered sequence records)
    (hnext : (lastSequence sequence records).val + 1 = record.admission.appendSequence.val) :
    Numbered sequence (records ++ [record]) := by
  induction records generalizing sequence with
  | nil => exact ⟨hnext, trivial⟩
  | cons first rest ih =>
    rw [lastSequence_cons] at hnext
    exact ⟨h.1, ih h.2 hnext⟩

theorem sequenceBehind_eq {sequence : U64} {records : List RecoveredAdmissionV1} :
    sequenceBehind (floorSequence sequence) records =
      floorSequence (lastSequence sequence records) := by
  induction records generalizing sequence with
  | nil => rfl
  | cons first rest ih =>
    rw [sequenceBehind, ih, lastSequence_cons]

/-- The sequence of the last record counts the records. -/
theorem numbered_last {sequence : U64} {records : List RecoveredAdmissionV1}
    (h : Numbered sequence records) :
    (lastSequence sequence records).val = sequence.val + records.length := by
  induction records generalizing sequence with
  | nil => rfl
  | cons first rest ih =>
    have hrest := ih h.2
    have hfirst := h.1
    rw [lastSequence_cons, hrest, List.length_cons]
    omega

section Scans

variable {identity : JournalIdentity} {limits : ActiveJournalLimits} {root : DurableCutoff}

/-- The scan up to a root finds the frames that are there and stops behind them. -/
theorem scanRootFrames_complete {previous : Option AppendSequenceV1} {offset : Nat}
    {records : List RecoveredAdmissionV1} {body : Bytes}
    (h : Frames identity.storeId limits.decode previous offset records body) (tail : Bytes)
    {start : U64} {count fuel : Nat} (hstart : start.val = offset)
    (hroot : root.endOffset.val = offset + body.length)
    (hcount : count + records.length ≤ limits.recordLimit) (hfuel : records.length ≤ fuel) :
    scanRootFrames identity limits root fuel count start previous (body ++ tail) =
      .ok ⟨records, root.endOffset, sequenceBehind previous records, tail⟩ := by
  induction h generalizing start count fuel with
  | nil =>
    have hend : start = root.endOffset := by
      apply Fin.ext
      simpa [hstart] using hroot.symm
    subst hend
    cases fuel <;> simp [scanRootFrames, sequenceBehind]
  | @cons previous offset frame rest decoded endOffset sequence records decodes store declared ends
      numbered _ ih =>
    have hlen := length_of_decode decodes
    have h24 : journalV1FramePrefixLen + journalV1FrameCrcLen = 24 := rfl
    have h20 : journalV1FramePrefixLen = 20 := rfl
    rw [List.length_cons] at hcount hfuel
    rw [List.length_append] at hroot
    obtain ⟨fuel, rfl⟩ : ∃ n, fuel = n + 1 := ⟨fuel - 1, by omega⟩
    have hlt : ¬root.endOffset ≤ start := by
      rw [Fin.le_def]
      omega
    have hadd : checkedAdd start frame.length = some endOffset := by
      rw [checkedAdd_eq_some]
      omega
    have hrest : scanRootFrames identity limits root fuel (count + 1) endOffset (some sequence)
        (rest ++ tail) = _ := ih rfl (by omega) (by omega) (by omega)
    unfold scanRootFrames
    rw [if_neg hlt, List.append_assoc, frameLen_of_decode decodes]
    simp only [bind_ok, exists_unit, refuse_ok, mapError_ok, pure_ok, Except.ok.injEq,
      exists_eq_left', hadd, List.length_append, List.drop_left]
    refine ⟨?_, by omega, ?_, by omega, decoded, ?_, ?_, sequence, ?_, _, hrest, ?_⟩
    · rw [not_or]
      constructor <;> omega
    · rw [Fin.lt_def]
      omega
    · rw [slice_head rfl]
      exact decodes
    · simp [store, declared]
    · rw [AppendSequenceV1.new_ok]
      exact numbered
    · rw [sequenceBehind, numbered, floorSequence_value]

/-- What the scan up to a root has found when it succeeds. -/
theorem scanRootFrames_sound {fuel count : Nat} {offset : U64} {previous : Option AppendSequenceV1}
    {rest : Bytes} {scan : RootScan}
    (h : scanRootFrames identity limits root fuel count offset previous rest = .ok scan) :
    ∃ body, rest = body ++ scan.rest ∧
      Frames identity.storeId limits.decode previous offset.val scan.records body ∧
      scan.offset.val = offset.val + body.length ∧
      (scan.records = [] ∨ count + scan.records.length ≤ limits.recordLimit) ∧
      scan.previous = sequenceBehind previous scan.records := by
  induction fuel generalizing count offset previous rest scan with
  | zero =>
    unfold scanRootFrames at h
    split at h
    next =>
      cases h
      exact ⟨[], rfl, .nil, rfl, Or.inl rfl, rfl⟩
    next => cases h
  | succ fuel ih =>
    unfold scanRootFrames at h
    split at h
    next =>
      cases h
      exact ⟨[], rfl, .nil, rfl, Or.inl rfl, rfl⟩
    next =>
      simp only [bind_ok, exists_unit, refuse_ok, mapError_ok, not_or, Nat.not_le, Nat.not_lt] at h
      obtain ⟨⟨hcount, -⟩, -, frameLen, -, h⟩ := h
      split at h
      next => cases h
      next frameEnd hadd =>
        rw [checkedAdd_eq_some] at hadd
        simp only [bind_ok, exists_unit, refuse_ok, mapError_ok, not_or, not_not, Nat.not_lt,
          pure_ok, AppendSequenceV1.new_ok] at h
        obtain ⟨-, hlen, decoded, hdecode, ⟨hstore, hdeclared⟩, sequence, hsequence, scanned, hscan,
          rfl⟩ := h
        obtain ⟨hframe, hsplit⟩ := front_frame hlen
        obtain ⟨body, hrest, hframes, hoffset, hbound, hprevious⟩ := ih hscan
        refine ⟨slice rest 0 frameLen ++ body, ?_, ?_, ?_, Or.inr ?_, ?_⟩
        · rw [List.append_assoc, ← hrest]
          exact hsplit
        · exact .cons hdecode hstore hdeclared (by omega) hsequence hframes
        · rw [List.length_append, hframe]
          dsimp only
          omega
        · rw [List.length_cons]
          rcases hbound with hnil | hbound
          · rw [hnil]
            simp only [List.length_nil]
            omega
          · omega
        · rw [sequenceBehind, hsequence, floorSequence_value]
          exact hprevious

/-- The scan of a whole file that holds nothing behind the checkpoint. -/
theorem scanFrames_complete {previous : Option AppendSequenceV1} {offset : Nat}
    {records : List RecoveredAdmissionV1} {body : Bytes}
    (h : Frames identity.storeId limits.decode previous offset records body)
    {checkpoint : CheckpointState} {start : U64} {count fuel : Nat} (hstart : start.val = offset)
    (hend : checkpoint.endOffset.val = offset + body.length)
    (hcount : count + records.length ≤ limits.recordLimit) (hfuel : records.length ≤ fuel) :
    scanFrames identity limits checkpoint fuel count start previous body =
      .ok ⟨records, checkpoint.endOffset, none, none⟩ := by
  induction h generalizing start count fuel with
  | nil =>
    have hstop : start = checkpoint.endOffset := by
      apply Fin.ext
      simpa [hstart] using hend.symm
    subst hstop
    cases fuel <;> simp [scanFrames]
  | @cons previous offset frame rest decoded endOffset sequence records decodes store declared ends
      numbered tail ih =>
    have hlen := length_of_decode decodes
    have h24 : journalV1FramePrefixLen + journalV1FrameCrcLen = 24 := rfl
    have h20 : journalV1FramePrefixLen = 20 := rfl
    rw [List.length_cons] at hcount hfuel
    rw [List.length_append] at hend
    obtain ⟨fuel, rfl⟩ : ∃ n, fuel = n + 1 := ⟨fuel - 1, by omega⟩
    have hne : frame ++ rest ≠ [] := by
      intro hnil
      rw [(List.append_eq_nil_iff.mp hnil).1] at hlen
      simp at hlen
      omega
    have hadd : checkedAdd start frame.length = some endOffset := by
      rw [checkedAdd_eq_some]
      omega
    have hrest : scanFrames identity limits checkpoint fuel (count + 1) endOffset (some sequence)
        rest = _ := ih rfl (by omega) (by omega) (by omega)
    have hhead : ¬(frame ++ rest).length < journalV1FramePrefixLen := by
      rw [List.length_append]
      omega
    have hwhole : ¬(frame ++ rest).length < frame.length := by
      rw [List.length_append]
      omega
    unfold scanFrames
    rw [if_neg hne, if_neg hhead, frameLen_of_decode decodes]
    simp only [hadd, slice_head rfl, decodes, List.drop_left, if_neg hwhole]
    simp only [bind_ok, exists_unit, refuse_ok, mapError_ok, pure_ok]
    refine ⟨by omega, ?_, ?_, sequence, ?_, _, hrest, rfl⟩
    · rw [Fin.lt_def, Fin.lt_def]
      omega
    · simp [store, declared]
    · rw [AppendSequenceV1.new_ok]
      exact numbered

end Scans

end Historian
