import Historian.MachineParse

namespace Historian.MachineSegment

open Wire Checks Machine MachineFrame

/-- The largest artifact fits the machine word. -/
theorem artifact_lt : maxSegmentV1Bytes < wordSize := by decide

section Fields

variable {bytes : Bytes} {offset len : Nat} {error : SegmentV1Error}

theorem readField_eq (hbytes : bytes.length ≤ maxSegmentV1Bytes)
    (h : offset + len ≤ bytes.length) :
    readField error bytes offset len = pure (slice bytes offset len) := by
  have hword := artifact_lt
  unfold readField
  rw [addOr_eq (by omega)]
  change rangeOr error bytes offset (offset + len) = _
  unfold rangeOr
  rw [if_pos ⟨by omega, h⟩, Nat.add_sub_cancel_left]
  rfl

theorem readU16_eq (hbytes : bytes.length ≤ maxSegmentV1Bytes) (h : offset + 2 ≤ bytes.length) :
    readU16 error bytes offset = pure (u16At bytes offset) := by
  unfold readU16
  rw [readField_eq hbytes h]
  rfl

theorem readU32_eq (hbytes : bytes.length ≤ maxSegmentV1Bytes) (h : offset + 4 ≤ bytes.length) :
    readU32 error bytes offset = pure (u32At bytes offset) := by
  unfold readU32
  rw [readField_eq hbytes h]
  rfl

theorem readU64_eq (hbytes : bytes.length ≤ maxSegmentV1Bytes) (h : offset + 8 ≤ bytes.length) :
    readU64 error bytes offset = pure (u64At bytes offset) := by
  unfold readU64
  rw [readField_eq hbytes h]
  rfl

theorem agrees_readCount {maximum : Nat} (hbytes : bytes.length ≤ maxSegmentV1Bytes)
    (h : offset + 4 ≤ bytes.length) :
    Agrees (readCount bytes offset maximum) (Historian.readCount bytes offset maximum) := by
  unfold readCount Historian.readCount
  refine Agrees.step (readU32_eq hbytes h) ?_
  exact Agrees.bind (Agrees.refuseIf Iff.rfl) fun _ _ => Agrees.pure _

theorem agrees_readSeriesId (h : offset + 16 ≤ bytes.length) :
    Agrees (readSeriesId bytes offset (offset + 16)) (Historian.readSeriesId bytes offset) := by
  unfold readSeriesId Historian.readSeriesId
  refine Agrees.step (range_slice (by omega) h) ?_
  rw [Nat.add_sub_cancel_left]
  exact Agrees.lift _

theorem agrees_readTimestamp (hbytes : bytes.length ≤ maxSegmentV1Bytes)
    (h : offset + 12 ≤ bytes.length) :
    Agrees (readTimestamp bytes offset) (Historian.readTimestamp bytes offset) := by
  unfold readTimestamp Historian.readTimestamp
  refine Agrees.step (readU64_eq hbytes (by omega)) ?_
  refine Agrees.step (readU32_eq hbytes (by omega)) ?_
  exact Agrees.lift _

/-- An entry of a directory that is inside the artifact. -/
theorem directoryEntry_eq {entryLen index : Nat} (hbytes : bytes.length ≤ maxSegmentV1Bytes)
    (h : offset + (index + 1) * entryLen ≤ bytes.length) :
    directoryEntry bytes offset entryLen index =
      pure (slice bytes (offset + index * entryLen) entryLen) := by
  have hword := artifact_lt
  rw [Nat.add_mul, Nat.one_mul] at h
  unfold directoryEntry
  rw [mul_eq (by omega)]
  change (add offset (index * entryLen) >>= _) = _
  rw [add_eq (by omega)]
  change (add (offset + index * entryLen) entryLen >>= _) = _
  rw [add_eq (by omega)]
  change range bytes _ _ = _
  rw [range_slice (by omega) (by omega), Nat.add_sub_cancel_left]

end Fields

theorem agrees_usizeAdd (a b : Nat) :
    Agrees (addOr SegmentV1Error.bounds a b) (usizeAdd a b) := by
  have hword : wordSize = 2 ^ 64 := rfl
  unfold Agrees addOr usizeAdd refuse
  by_cases h : a + b < 2 ^ 64
  · rw [if_pos (by omega), if_neg (by omega)]
    rfl
  · rw [if_neg (by omega), if_pos (by omega)]
    rfl

/-- No step of the layout leaves the machine word: its first check bounds them all. -/
theorem agrees_layoutNew (count : SegmentCounts) (blocksLength : Nat) :
    Agrees (layoutNew count blocksLength) (SegmentLayout.new count blocksLength) := by
  have hword : wordSize = 2 ^ 64 := rfl
  have hframes : maxActiveJournalRecords = 4096 := rfl
  have hobservations : maxSegmentV1Observations = 1048576 := rfl
  have hjournal : maxActiveJournalBytes = 536870912 := rfl
  have hseries : segmentV1SeriesEntryLen = 64 := rfl
  have happend : segmentV1AppendEntryLen = 48 := rfl
  have hrecent : segmentV1ObservationEntryLen = 96 := rfl
  have hheader : segmentV1HeaderLen = 192 := rfl
  have hcrc : segmentV1CrcLen = 4 := rfl
  unfold layoutNew SegmentLayout.new
  refine Agrees.bind (Agrees.refuseIf Iff.rfl) fun _ hchecked => ?_
  rw [refuse_ok] at hchecked
  rw [hseries, happend, hrecent, hheader, hcrc]
  refine Agrees.step (mulOr_eq (by omega)) ?_
  refine Agrees.step (addOr_eq (by omega)) ?_
  refine Agrees.step (addOr_eq (by omega)) ?_
  refine Agrees.step (mulOr_eq (by omega)) ?_
  refine Agrees.step (addOr_eq (by omega)) ?_
  refine Agrees.step (mulOr_eq (by omega)) ?_
  refine Agrees.step (addOr_eq (by omega)) ?_
  refine Agrees.step (addOr_eq (by omega)) ?_
  exact Agrees.bind (Agrees.refuseIf Iff.rfl) fun _ _ => Agrees.pure _

theorem agrees_decodeSeriesEntry (bytes : Bytes) :
    Agrees (decodeSeriesEntry bytes) (Historian.decodeSeriesEntry bytes) := by
  have hmax : 64 ≤ maxSegmentV1Bytes := by decide
  unfold decodeSeriesEntry Historian.decodeSeriesEntry
  refine Agrees.refuseOr fun hlen => ?_
  have hlen : bytes.length = 64 := not_not.mp hlen
  refine Agrees.step (range_slice (by omega) (by omega)) ?_
  refine Agrees.bind (Agrees.refuseIf Iff.rfl) fun _ _ => ?_
  refine Agrees.bind (agrees_readSeriesId (by omega)) fun seriesId _ => ?_
  refine Agrees.step (readU64_eq (by omega) (by omega)) ?_
  refine Agrees.step (readU64_eq (by omega) (by omega)) ?_
  refine Agrees.step (readU32_eq (by omega) (by omega)) ?_
  refine Agrees.step (readU32_eq (by omega) (by omega)) ?_
  refine Agrees.step (readU64_eq (by omega) (by omega)) ?_
  refine Agrees.step (readU64_eq (by omega) (by omega)) ?_
  exact Agrees.pure _

theorem agrees_decodeAppendEntry (bytes : Bytes) :
    Agrees (decodeAppendEntry bytes) (Historian.decodeAppendEntry bytes) := by
  have hmax : 64 ≤ maxSegmentV1Bytes := by decide
  unfold decodeAppendEntry Historian.decodeAppendEntry
  refine Agrees.refuseOr fun hlen => ?_
  have hlen : bytes.length = 48 := not_not.mp hlen
  refine Agrees.step (range_slice (by omega) (by omega)) ?_
  refine Agrees.bind (Agrees.refuseIf Iff.rfl) fun _ _ => ?_
  refine Agrees.step (readU64_eq (by omega) (by omega)) ?_
  refine Agrees.bind (agrees_readSeriesId (by omega)) fun seriesId _ => ?_
  refine Agrees.step (readU64_eq (by omega) (by omega)) ?_
  refine Agrees.step (readU64_eq (by omega) (by omega)) ?_
  refine Agrees.step (readU32_eq (by omega) (by omega)) ?_
  exact Agrees.pure _

theorem agrees_decodeObservationEntry (bytes : Bytes) (expected : ObservationLocation) :
    Agrees (decodeObservationEntry bytes expected)
      (Historian.decodeObservationEntry bytes expected) := by
  have hmax : 96 ≤ maxSegmentV1Bytes := by decide
  unfold decodeObservationEntry Historian.decodeObservationEntry
  refine Agrees.refuseOr fun hlen => ?_
  have hlen : bytes.length = 96 := not_not.mp hlen
  refine Agrees.step (range_slice (by omega) (by omega)) ?_
  refine Agrees.bind (Agrees.refuseIf Iff.rfl) fun _ _ => ?_
  refine Agrees.bind (agrees_readSeriesId (by omega)) fun seriesId _ => ?_
  refine Agrees.bind (agrees_readTimestamp (by omega) (by omega)) fun effective _ => ?_
  refine Agrees.bind (agrees_readTimestamp (by omega) (by omega)) fun receive _ => ?_
  refine Agrees.step (range_slice (by omega) (by omega)) ?_
  refine Agrees.bind (Agrees.lift _) fun observationId _ => ?_
  refine Agrees.step (readU64_eq (by omega) (by omega)) ?_
  refine Agrees.step (readU32_eq (by omega) (by omega)) ?_
  refine Agrees.step (readU32_eq (by omega) (by omega)) ?_
  refine Agrees.step (readU64_eq (by omega) (by omega)) ?_
  refine Agrees.step (readU64_eq (by omega) (by omega)) ?_
  exact Agrees.bind (Agrees.refuseIf Iff.rfl) fun _ _ => Agrees.pure _

theorem agrees_parseSegmentHeader (bytes : Bytes) (expectedStoreId : StoreId) :
    Agrees (parseSegmentHeader bytes expectedStoreId)
      (Historian.parseSegmentHeader bytes expectedStoreId) := by
  have hheader : segmentV1HeaderLen = 192 := rfl
  have hcrc : segmentV1CrcLen = 4 := rfl
  unfold parseSegmentHeader Historian.parseSegmentHeader
  refine Agrees.bind (Agrees.refuseIf Iff.rfl) fun _ hbytes => ?_
  refine Agrees.bind (Agrees.refuseIf Iff.rfl) fun _ hlen => ?_
  rw [refuse_ok, Nat.not_lt] at hbytes hlen
  refine Agrees.step (range_slice (by omega) (by omega)) ?_
  refine Agrees.step (readU16_eq hbytes (by omega)) ?_
  refine Agrees.step (readU16_eq hbytes (by omega)) ?_
  refine Agrees.step (readU32_eq hbytes (by omega)) ?_
  refine Agrees.step (range_slice (by omega) (by omega)) ?_
  refine Agrees.bind (Agrees.refuseIf Iff.rfl) fun _ _ => ?_
  refine Agrees.step (range_slice (by omega) (by omega)) ?_
  refine Agrees.bind (Agrees.lift _) fun storeId _ => ?_
  refine Agrees.bind (Agrees.refuseIf Iff.rfl) fun _ _ => ?_
  refine Agrees.step (readU64_eq hbytes (by omega)) ?_
  refine Agrees.step (readU64_eq hbytes (by omega)) ?_
  refine Agrees.step (readU64_eq hbytes (by omega)) ?_
  refine Agrees.step (readU64_eq hbytes (by omega)) ?_
  refine Agrees.step (readU64_eq hbytes (by omega)) ?_
  refine Agrees.step (readU64_eq hbytes (by omega)) ?_
  refine Agrees.step (readU32_eq hbytes (by omega)) ?_
  refine Agrees.bind (agrees_readCount hbytes (by omega)) fun frameCount _ => ?_
  refine Agrees.bind (agrees_readCount hbytes (by omega)) fun seriesCount _ => ?_
  refine Agrees.bind (agrees_readCount hbytes (by omega)) fun observationCount _ => ?_
  refine Agrees.bind (Agrees.refuseIf Iff.rfl) fun _ _ => ?_
  refine Agrees.step (readU64_eq hbytes (by omega)) ?_
  refine Agrees.bind (agrees_layoutNew _ _) fun layout _ => ?_
  refine Agrees.step (readU64_eq hbytes (by omega)) ?_
  refine Agrees.step (readU64_eq hbytes (by omega)) ?_
  refine Agrees.step (readU64_eq hbytes (by omega)) ?_
  refine Agrees.step (readU64_eq hbytes (by omega)) ?_
  refine Agrees.step (readU64_eq hbytes (by omega)) ?_
  refine Agrees.step (readU64_eq hbytes (by omega)) ?_
  refine Agrees.step (readU64_eq hbytes (by omega)) ?_
  refine Agrees.step (readU64_eq hbytes (by omega)) ?_
  refine Agrees.step (readU64_eq hbytes (by omega)) ?_
  refine Agrees.bind (Agrees.refuseIf Iff.rfl) fun _ _ => ?_
  refine Agrees.bind (Agrees.refuseIf Iff.rfl) fun _ _ => ?_
  refine Agrees.step (sub_eq (by omega)) ?_
  refine Agrees.step (readU32_eq hbytes (by omega)) ?_
  refine Agrees.step (range_slice (Nat.zero_le _) (by omega)) ?_
  exact Agrees.bind (Agrees.refuseIf Iff.rfl) fun _ _ => Agrees.pure _

theorem decodeSeriesEntry_counts {bytes : Bytes} {entry : SegmentSeriesEntryV1}
    (h : Historian.decodeSeriesEntry bytes = .ok entry) :
    entry.frameCount < 2 ^ 32 ∧ entry.observationCount < 2 ^ 32 := by
  unfold Historian.decodeSeriesEntry at h
  simp only [bind_ok, exists_unit, pure_ok] at h
  obtain ⟨-, seriesId, -, rfl⟩ := h
  exact ⟨(u32At bytes 32).isLt, (u32At bytes 36).isLt⟩

theorem agrees_parseSeriesDirectory {bytes : Bytes} {layout : SegmentLayout}
    {checksumOffset : Nat} (hbytes : bytes.length ≤ maxSegmentV1Bytes) {count index : Nat}
    {prior : Option SegmentSeriesEntryV1} {cursor : SeriesCursor}
    (h : layout.seriesOffset + (index + count) * segmentV1SeriesEntryLen ≤ bytes.length) :
    Agrees (parseSeriesDirectory bytes layout checksumOffset count index prior cursor)
      (Historian.parseSeriesDirectory bytes layout checksumOffset count
        (layout.seriesOffset + index * segmentV1SeriesEntryLen) prior cursor) := by
  have hword : wordSize = 2 ^ 64 := rfl
  have hrecent : segmentV1ObservationEntryLen = 96 := rfl
  induction count generalizing index prior cursor with
  | zero => exact Agrees.pure _
  | succ count ih =>
    have hindex : layout.seriesOffset + (index + 1) * segmentV1SeriesEntryLen ≤ bytes.length := by
      have hle := Nat.mul_le_mul_right segmentV1SeriesEntryLen
        (by omega : index + 1 ≤ index + (count + 1))
      omega
    have hnext : layout.seriesOffset + index * segmentV1SeriesEntryLen + segmentV1SeriesEntryLen =
        layout.seriesOffset + (index + 1) * segmentV1SeriesEntryLen := by
      rw [Nat.add_mul, Nat.one_mul, Nat.add_assoc]
    unfold parseSeriesDirectory Historian.parseSeriesDirectory
    refine Agrees.step (directoryEntry_eq hbytes hindex) ?_
    refine Agrees.bind (agrees_decodeSeriesEntry _) fun entry hentry => ?_
    have hcounts := decodeSeriesEntry_counts hentry
    refine Agrees.step (mulOr_eq (by rw [hrecent]; omega)) ?_
    refine Agrees.bind (Agrees.refuseIf Iff.rfl) fun _ _ => ?_
    refine Agrees.bind (agrees_usizeAdd _ _) fun blockOffset _ => ?_
    refine Agrees.bind (agrees_usizeAdd _ _) fun recentOffset _ => ?_
    refine Agrees.bind (Agrees.refuseIf Iff.rfl) fun _ _ => ?_
    refine Agrees.bind (agrees_usizeAdd _ _) fun frames _ => ?_
    refine Agrees.bind (agrees_usizeAdd _ _) fun observations _ => ?_
    rw [hnext]
    refine Agrees.bind (ih (by rw [Nat.add_assoc, Nat.add_comm 1]; exact h)) fun parsed _ => ?_
    exact Agrees.pure _

theorem frameLenFromPrefixV1_le {bytes : Bytes} {n : Nat}
    (h : Historian.frameLenFromPrefixV1 bytes .maximum = .ok n) : n < 2 ^ 32 := by
  have hmax : maxAdmissionPayloadV1 + 24 < 2 ^ 32 := by decide
  have hprefix : journalV1FramePrefixLen = 20 := rfl
  have hcrc : journalV1FrameCrcLen = 4 := rfl
  unfold Historian.frameLenFromPrefixV1 at h
  simp only [bind_ok, exists_unit, refuse_ok, pure_ok] at h
  obtain ⟨-, -, -, -, -, -, -, hpayload, rfl⟩ := h
  omega

/-- A checked range that must also end inside its block. -/
theorem agrees_blockRange {bytes : Bytes} {start len blockEnd : Nat}
    {next : Bytes → Run SegmentV1Error BlockWalk} {next' : Unit → Except SegmentV1Error BlockWalk}
    (h : start + len ≤ bytes.length → Agrees (next (slice bytes start len)) (next' ())) :
    Agrees (do
        let head ← rangeOr .invalidSegment bytes start (start + len)
        refuseIf (blockEnd < start + len) .invalidSegment
        next head)
      (refuse (bytes.length < start + len ∨ blockEnd < start + len) .invalidSegment >>= next') := by
  by_cases hlen : start + len ≤ bytes.length
  · have hrange : (rangeOr SegmentV1Error.invalidSegment bytes start (start + len)) =
        pure (slice bytes start len) := by
      unfold rangeOr
      rw [if_pos ⟨by omega, hlen⟩, Nat.add_sub_cancel_left]
      rfl
    refine Agrees.step hrange ?_
    have hiff : blockEnd < start + len ↔ bytes.length < start + len ∨ blockEnd < start + len := by
      omega
    exact Agrees.bind (Agrees.refuseIf hiff) fun _ _ => h hlen
  · have hrange : (rangeOr SegmentV1Error.invalidSegment bytes start (start + len)) =
        .error (.refused .invalidSegment) := if_neg fun hboth => hlen hboth.2
    have hrefuse : refuse (bytes.length < start + len ∨ blockEnd < start + len)
        SegmentV1Error.invalidSegment = .error .invalidSegment := if_pos (Or.inl (by omega))
    rw [hrange, hrefuse]
    rfl

theorem agrees_walkFrames {bytes : Bytes} {storeId : StoreId} {seriesId : SeriesId}
    {blockEnd : Nat} (hbytes : bytes.length ≤ maxSegmentV1Bytes) {remaining : Nat}
    {frameOrdinal observed frameOffset : Nat} {prior : Option U64}
    (hoffset : frameOffset ≤ bytes.length)
    (hobserved : observed + remaining * maxObservations < wordSize) :
    Agrees (walkFrames bytes storeId seriesId blockEnd remaining frameOrdinal observed frameOffset
        prior)
      (Historian.walkFrames bytes storeId seriesId blockEnd remaining frameOrdinal frameOffset
        prior) := by
  have hmax : maxSegmentV1Bytes < 2 ^ 32 := by decide
  have hword : wordSize = 2 ^ 64 := rfl
  have hprefix : journalV1FramePrefixLen = 20 := rfl
  have h256 : maxObservations = 256 := rfl
  induction remaining generalizing frameOrdinal observed frameOffset prior with
  | zero => exact Agrees.pure _
  | succ remaining ih =>
    unfold walkFrames Historian.walkFrames
    refine Agrees.step (addOr_eq (by omega)) ?_
    refine agrees_blockRange fun hhead => ?_
    refine Agrees.bind ((agrees_frameLenFromPrefixV1 _ _).mapRefusal _) ?_
    intro frameLength hlength
    rw [mapError_ok] at hlength
    have hframeLength := frameLenFromPrefixV1_le hlength
    refine Agrees.step (addOr_eq (by omega)) ?_
    refine agrees_blockRange fun hframe => ?_
    refine Agrees.bind ((agrees_decodeAdmissionFrameV1 _ _ _).mapRefusal _) fun decoded _ => ?_
    refine Agrees.bind (Agrees.refuseIf Iff.rfl) fun _ _ => ?_
    refine Agrees.bind ((agrees_encodeDecodedAdmissionFrameV1 _).mapRefusal _) fun canonical _ => ?_
    refine Agrees.bind (Agrees.refuseIf Iff.rfl) fun _ _ => ?_
    have hcontexts := decoded.envelope.lengths_le.1
    rw [Nat.add_mul, Nat.one_mul] at hobserved
    refine Agrees.step (addOr_eq (by omega)) ?_
    have hordinals : (refuseIf (2 ^ 32 < decoded.envelope.observations.length)
        SegmentV1Error.bounds) = pure () := if_neg (by omega)
    refine Agrees.step hordinals ?_
    refine Agrees.bind (ih hframe (by omega)) fun walk _ => ?_
    exact Agrees.pure _

theorem agrees_walkBlocks {bytes : Bytes} {storeId : StoreId}
    (hbytes : bytes.length ≤ maxSegmentV1Bytes) {entries : List SegmentSeriesEntryV1}
    (h : ∀ entry ∈ entries, entry.blockOffset + entry.blockLength ≤ bytes.length ∧
      entry.frameCount < 2 ^ 32) :
    Agrees (walkBlocks bytes storeId entries) (Historian.walkBlocks bytes storeId entries) := by
  have hmax : maxSegmentV1Bytes < 2 ^ 32 := by decide
  have hword : wordSize = 2 ^ 64 := rfl
  have h256 : maxObservations = 256 := rfl
  induction entries with
  | nil => exact Agrees.pure _
  | cons entry rest ih =>
    obtain ⟨⟨hinside, hcount⟩, hrest⟩ := List.forall_mem_cons.mp h
    unfold walkBlocks Historian.walkBlocks
    refine Agrees.step (addOr_eq (by omega)) ?_
    refine Agrees.bind (agrees_walkFrames hbytes (by omega) (by rw [h256]; omega)) fun walk _ => ?_
    refine Agrees.bind (Agrees.refuseIf Iff.rfl) fun _ _ => ?_
    refine Agrees.bind (ih hrest) fun blocks _ => ?_
    exact Agrees.pure _

/-- A range that is read with both of its checks. -/
theorem agrees_checkedSlice {bytes : Bytes} {offset len : Nat} {α : Type}
    (hbytes : bytes.length ≤ maxSegmentV1Bytes) {next : Bytes → Run SegmentV1Error α}
    {next' : Bytes → Except SegmentV1Error α}
    (h : ∀ frame, Agrees (next frame) (next' frame)) :
    Agrees (readField .invalidSegment bytes offset len >>= next)
      (match checkedSlice bytes offset len with
        | none => .error .invalidSegment
        | some frame => next' frame) := by
  by_cases hlen : offset + len ≤ bytes.length
  · rw [readField_eq hbytes hlen, checkedSlice, if_pos hlen]
    exact h _
  · rw [checkedSlice, if_neg hlen]
    have hread : readField .invalidSegment bytes offset len =
        .error (.refused .invalidSegment) := by
      unfold readField addOr
      split
      next => exact if_neg fun hboth => hlen hboth.2
      next => rfl
    rw [hread]
    rfl

theorem agrees_proveAppends {bytes : Bytes} {appendOffset : Nat}
    (hbytes : bytes.length ≤ maxSegmentV1Bytes) {proofs : List FrameLocation}
    {index expectedSequence : Nat} {checksum : StreamingCrc32c} {length : Nat}
    (h : appendOffset + (index + proofs.length) * segmentV1AppendEntryLen ≤ bytes.length) :
    Agrees (proveAppends bytes appendOffset proofs index expectedSequence checksum length)
      (Historian.proveAppends bytes proofs (appendOffset + index * segmentV1AppendEntryLen)
        expectedSequence checksum length) := by
  induction proofs generalizing index expectedSequence checksum length with
  | nil => exact Agrees.pure _
  | cons proof rest ih =>
    rw [List.length_cons] at h
    have hindex : appendOffset + (index + 1) * segmentV1AppendEntryLen ≤ bytes.length := by
      have hle := Nat.mul_le_mul_right segmentV1AppendEntryLen
        (by omega : index + 1 ≤ index + (rest.length + 1))
      omega
    have hnext : appendOffset + index * segmentV1AppendEntryLen + segmentV1AppendEntryLen =
        appendOffset + (index + 1) * segmentV1AppendEntryLen := by
      rw [Nat.add_mul, Nat.one_mul, Nat.add_assoc]
    unfold proveAppends Historian.proveAppends
    refine Agrees.bind (Agrees.refuseIf Iff.rfl) fun _ _ => ?_
    refine Agrees.step (directoryEntry_eq hbytes hindex) ?_
    refine Agrees.bind (agrees_decodeAppendEntry _) fun entry _ => ?_
    refine Agrees.bind (Agrees.refuseIf Iff.rfl) fun _ _ => ?_
    refine agrees_checkedSlice hbytes fun frame => ?_
    refine Agrees.bind (agrees_usizeAdd _ _) fun behind _ => ?_
    rw [hnext]
    refine Agrees.bind (ih (by rw [Nat.add_assoc, Nat.add_comm 1]; exact h)) fun proved _ => ?_
    exact Agrees.pure _

theorem agrees_proveObservations {bytes : Bytes} {recentOffset : Nat}
    (hbytes : bytes.length ≤ maxSegmentV1Bytes) {expected : List ObservationLocation}
    {index : Nat}
    (h : recentOffset + (index + expected.length) * segmentV1ObservationEntryLen ≤
      bytes.length) :
    Agrees (proveObservations bytes recentOffset expected index)
      (Historian.proveObservations bytes expected
        (recentOffset + index * segmentV1ObservationEntryLen)) := by
  induction expected generalizing index with
  | nil => exact Agrees.pure _
  | cons entry rest ih =>
    rw [List.length_cons] at h
    have hindex : recentOffset + (index + 1) * segmentV1ObservationEntryLen ≤ bytes.length := by
      have hle := Nat.mul_le_mul_right segmentV1ObservationEntryLen
        (by omega : index + 1 ≤ index + (rest.length + 1))
      omega
    have hnext : recentOffset + index * segmentV1ObservationEntryLen +
        segmentV1ObservationEntryLen =
          recentOffset + (index + 1) * segmentV1ObservationEntryLen := by
      rw [Nat.add_mul, Nat.one_mul, Nat.add_assoc]
    unfold proveObservations Historian.proveObservations
    refine Agrees.step (directoryEntry_eq hbytes hindex) ?_
    refine Agrees.bind (agrees_decodeObservationEntry _ _) fun observation _ => ?_
    rw [hnext]
    refine Agrees.bind (ih (by rw [Nat.add_assoc, Nat.add_comm 1]; exact h)) fun entries _ => ?_
    exact Agrees.pure _

theorem seriesChain_inside {appendOffset checksumOffset : Nat}
    {prior : Option SegmentSeriesEntryV1} {cursor last : SeriesCursor}
    {entries : List SegmentSeriesEntryV1}
    (h : SeriesChain appendOffset checksumOffset prior cursor entries last) :
    ∀ entry ∈ entries, entry.blockOffset + entry.blockLength ≤ appendOffset := by
  induction entries generalizing prior cursor with
  | nil => simp
  | cons entry rest ih =>
    obtain ⟨-, -, hoffset, -, -, hinside, -, -, -, hrest⟩ := h
    rw [List.forall_mem_cons, hoffset]
    exact ⟨hinside, ih hrest⟩

/-- Every word and every slice of the parser is left only by a refusal. -/
theorem agrees_parseSegmentV1 (bytes : Bytes) (expectedStoreId : StoreId) :
    Agrees (parseSegmentV1 bytes expectedStoreId)
      (Historian.parseSegmentV1 bytes expectedStoreId) := by
  have hword : wordSize = 2 ^ 64 := rfl
  have hcrc : segmentV1CrcLen = 4 := rfl
  have hseriesLen : segmentV1SeriesEntryLen = 64 := rfl
  have happendLen : segmentV1AppendEntryLen = 48 := rfl
  have hrecentLen : segmentV1ObservationEntryLen = 96 := rfl
  unfold parseSegmentV1 Historian.parseSegmentV1
  refine Agrees.bind (agrees_parseSegmentHeader _ _) fun header hheader => ?_
  have hdescribes := parseSegmentHeader_ok.mp hheader
  have hbounded := hdescribes.bounded
  have hlayout := hdescribes.layout_eq
  have htotal := hdescribes.length_eq
  have hbytes : bytes.length ≤ maxSegmentV1Bytes := by
    rw [htotal, hlayout]
    exact hbounded.artifactLength_le
  have hartifact := artifact_lt
  have hseriesOffset : header.layout.seriesOffset = 192 := by rw [hlayout]; rfl
  have hblocksOffset : header.layout.blocksOffset = 192 + header.count.series * 64 := by
    rw [hlayout]; rfl
  have happendOffset : header.layout.appendOffset =
      header.layout.blocksOffset + header.layout.blocksLength := by rw [hlayout]; rfl
  have hrecentOffset : header.layout.recentOffset =
      header.layout.appendOffset + header.count.frames * 48 := by rw [hlayout]; rfl
  have hend : header.layout.artifactLength =
      header.layout.recentOffset + header.count.observations * 96 + 4 := by rw [hlayout]; rfl
  refine Agrees.step (sub_eq (by omega)) ?_
  have hdirectory : header.layout.seriesOffset +
      (0 + header.count.series) * segmentV1SeriesEntryLen ≤ bytes.length := by
    rw [hseriesLen]
    omega
  have hagrees : Agrees (parseSeriesDirectory bytes header.layout (bytes.length - segmentV1CrcLen)
      header.count.series 0 none ⟨header.layout.blocksOffset, header.layout.recentOffset, 0, 0⟩)
      _ := agrees_parseSeriesDirectory hbytes hdirectory
  rw [Nat.zero_mul, Nat.add_zero] at hagrees
  refine Agrees.bind hagrees fun parsed hparsed => ?_
  obtain ⟨series, last⟩ := parsed
  refine Agrees.bind (Agrees.refuseIf Iff.rfl) fun _ _ => ?_
  have hentries : ∀ entry ∈ series, entry.blockOffset + entry.blockLength ≤ bytes.length ∧
      entry.frameCount < 2 ^ 32 := by
    have hin : header.layout.seriesOffset + header.count.series * segmentV1SeriesEntryLen ≤
        bytes.length := by
      rw [hseriesLen]
      omega
    obtain ⟨-, -, hfits, hchain⟩ :=
      (parseSeriesDirectory_ok hin (by omega) (by omega)).mp hparsed
    intro entry hentry
    have hinside := seriesChain_inside hchain entry hentry
    exact ⟨by omega, (hfits entry hentry).2.2.1⟩
  refine Agrees.bind (agrees_walkBlocks hbytes hentries) fun walked _ => ?_
  obtain ⟨proofs, expectedObservations⟩ := walked
  refine Agrees.bind (Agrees.refuseIf Iff.rfl) fun _ hcounted => ?_
  rw [refuse_ok, not_or, not_not, not_not] at hcounted
  have hfloor : header.sealed.sequenceFloor.val + 1 < 2 ^ 64 := by
    have hlt : header.sealed.sequenceFloor.val < header.sealed.sequenceCutoff.val :=
      hdescribes.sealable.nonempty
    have hcutoff := header.sealed.sequenceCutoff.isLt
    omega
  refine Agrees.step (addOr_eq (by omega)) ?_
  have happends : header.layout.appendOffset + (0 + (sortAppends proofs).length) *
      segmentV1AppendEntryLen ≤ bytes.length := by
    rw [sortAppends, List.length_insertionSort, happendLen]
    omega
  have hproves : Agrees (proveAppends bytes header.layout.appendOffset (sortAppends proofs) 0
      (header.sealed.sequenceFloor.val + 1)
      (StreamingCrc32c.new.update (encodeHeader expectedStoreId)) journalV1HeaderLen) _ :=
    agrees_proveAppends hbytes happends
  rw [Nat.zero_mul, Nat.add_zero] at hproves
  refine Agrees.bind hproves fun proved _ => ?_
  refine Agrees.bind (Agrees.refuseIf Iff.rfl) fun _ _ => ?_
  have hrecents : header.layout.recentOffset + (0 + (expectedObservations.insertionSort
      fun left right => (directoryOrder left right).isLE).length) *
        segmentV1ObservationEntryLen ≤ bytes.length := by
    rw [List.length_insertionSort, hrecentLen]
    omega
  have hobserves := agrees_proveObservations hbytes hrecents
  rw [Nat.zero_mul, Nat.add_zero] at hobserves
  refine Agrees.bind hobserves fun observations _ => ?_
  exact Agrees.pure _

end Historian.MachineSegment
