import Historian.SegmentBuild

namespace Historian

open Wire Checks

/-- Addition in the machine word of lengths and counts. -/
def usizeAdd (a b : Nat) : Except SegmentV1Error Nat := do
  refuse (2 ^ 64 ≤ a + b) .bounds
  pure (a + b)

def checkedSlice (bytes : Bytes) (offset length : Nat) : Option Bytes :=
  if offset + length ≤ bytes.length then some (slice bytes offset length) else none

def readCount (bytes : Bytes) (offset maximum : Nat) : Except SegmentV1Error Nat := do
  let count := (u32At bytes offset).val
  refuse (maximum < count) .bounds
  pure count

def readSeriesId (bytes : Bytes) (offset : Nat) : Except SegmentV1Error SeriesId :=
  (Identity.fromBytes (slice bytes offset 16)).mapError fun _ => SegmentV1Error.invalidSegment

def decodeSeriesEntry (bytes : Bytes) : Except SegmentV1Error SegmentSeriesEntryV1 := do
  refuse (bytes.length ≠ segmentV1SeriesEntryLen ∨ slice bytes 56 8 ≠ zeros 8) .invalidSegment
  let seriesId ← readSeriesId bytes 0
  pure ⟨seriesId, u64At bytes 16, u64At bytes 24, u32At bytes 32, u32At bytes 36, u64At bytes 40,
    u64At bytes 48⟩

def decodeAppendEntry (bytes : Bytes) : Except SegmentV1Error SegmentAppendEntryV1 := do
  refuse (bytes.length ≠ segmentV1AppendEntryLen ∨ slice bytes 44 4 ≠ zeros 4) .invalidSegment
  let seriesId ← readSeriesId bytes 8
  pure ⟨u64At bytes 0, seriesId, u64At bytes 24, u64At bytes 32, u32At bytes 40⟩

def readTimestamp (bytes : Bytes) (offset : Nat) : Except SegmentV1Error Timestamp :=
  (Timestamp.new (Int64.ofBitVec (BitVec.ofFin (u64At bytes offset)))
    (u32At bytes (offset + 8))).mapError fun _ => SegmentV1Error.invalidSegment

def decodeObservationEntry (bytes : Bytes) (expected : ObservationLocation) :
    Except SegmentV1Error SegmentObservationEntryV1 := do
  refuse (bytes.length ≠ segmentV1ObservationEntryLen ∨ slice bytes 88 8 ≠ zeros 8)
    .invalidSegment
  let seriesId ← readSeriesId bytes 0
  let effective ← readTimestamp bytes 16
  let receive ← readTimestamp bytes 28
  let observationId ← (Identity.fromBytes (slice bytes 40 16)).mapError
    fun _ => SegmentV1Error.invalidSegment
  let actual : SegmentObservationEntryV1 := ⟨seriesId, expected.rawOrderKey, u64At bytes 56,
    u32At bytes 64, u32At bytes 68, u64At bytes 72, u64At bytes 80⟩
  refuse (effective ≠ expected.rawOrderKey.effective ∨ receive ≠ expected.rawOrderKey.receive ∨
    observationId ≠ expected.rawOrderKey.observationId ∨ actual.seriesId ≠ expected.seriesId ∨
    actual.appendSequence ≠ expected.appendSequence ∨
    actual.observationOrdinal ≠ expected.observationOrdinal ∨
    actual.frameOrdinal ≠ expected.frameOrdinal ∨ actual.frameOffset ≠ expected.frameOffset ∨
    actual.frameLength ≠ expected.frameLength) .invalidSegment
  pure actual

structure SegmentHeader where
  sealed : SealedGeneration
  count : SegmentCounts
  layout : SegmentLayout
  artifactChecksum : U32
  deriving DecidableEq

def parseSegmentHeader (bytes : Bytes) (expectedStoreId : StoreId) :
    Except SegmentV1Error SegmentHeader := do
  refuse (maxSegmentV1Bytes < bytes.length) .bounds
  refuse (bytes.length < segmentV1HeaderLen + segmentV1CrcLen) .invalidSegment
  refuse (slice bytes 0 8 ≠ segmentV1Magic ∨ u16At bytes 8 ≠ segmentV1Version ∨
    u16At bytes 10 ≠ segmentV1HeaderLen ∨ (u32At bytes 12).val ≠ segmentFlagsNone ∨
    slice bytes 168 24 ≠ zeros 24) .invalidSegment
  let storeId ← (Identity.fromBytes (slice bytes 16 16)).mapError
    fun _ => SegmentV1Error.invalidSegment
  refuse (storeId ≠ expectedStoreId) .storeMismatch
  let sealed : SealedGeneration := ⟨u64At bytes 32, u64At bytes 40, u64At bytes 48,
    u64At bytes 64, u64At bytes 56, u64At bytes 72, u32At bytes 80⟩
  let frameCount ← readCount bytes 84 maxActiveJournalRecords
  let seriesCount ← readCount bytes 88 maxSegmentV1Series
  let observationCount ← readCount bytes 92 maxSegmentV1Observations
  refuse (sealed.journalGeneration = 0 ∨ sealed.registryGeneration = 0 ∨
    sealed.sequenceCutoff ≤ sealed.sequenceFloor ∨ sealed.endOffset ≠ sealed.artifactLength ∨
    sealed.endOffset.val ≤ journalV1HeaderLen ∨
    maxActiveJournalBytes < sealed.artifactLength.val ∨ frameCount = 0 ∨ seriesCount = 0 ∨
    frameCount < seriesCount ∨
    sealed.sequenceCutoff.val - sealed.sequenceFloor.val ≠ frameCount) .invalidSegment
  let count : SegmentCounts := ⟨frameCount, seriesCount, observationCount⟩
  let layout ← SegmentLayout.new count (u64At bytes 120)
  refuse ((u64At bytes 96).val ≠ layout.seriesOffset ∨
    (u64At bytes 104).val ≠ layout.seriesLength ∨ (u64At bytes 112).val ≠ layout.blocksOffset ∨
    (u64At bytes 120).val ≠ layout.blocksLength ∨ (u64At bytes 128).val ≠ layout.appendOffset ∨
    (u64At bytes 136).val ≠ layout.appendLength ∨ (u64At bytes 144).val ≠ layout.recentOffset ∨
    (u64At bytes 152).val ≠ layout.recentLength ∨
    (u64At bytes 160).val ≠ layout.artifactLength) .invalidSegment
  refuse (bytes.length ≠ layout.artifactLength) .invalidSegment
  let checksumOffset := bytes.length - segmentV1CrcLen
  refuse (crc32c (slice bytes 0 checksumOffset) ≠ u32At bytes checksumOffset) .invalidSegment
  pure ⟨sealed, count, layout, u32At bytes checksumOffset⟩

/-- What the entries of the series directory must continue and add up to. -/
structure SeriesCursor where
  blockOffset : Nat
  recentOffset : Nat
  frames : Nat
  observations : Nat
  deriving DecidableEq

def parseSeriesDirectory (bytes : Bytes) (layout : SegmentLayout) (checksumOffset : Nat) :
    Nat → Nat → Option SegmentSeriesEntryV1 → SeriesCursor →
      Except SegmentV1Error (List SegmentSeriesEntryV1 × SeriesCursor)
  | 0, _, _, cursor => pure ([], cursor)
  | count + 1, offset, prior, cursor => do
    let entry ← decodeSeriesEntry (slice bytes offset segmentV1SeriesEntryLen)
    refuse ((∃ before ∈ prior, ¬before.seriesId.lt entry.seriesId) ∨ entry.frameCount = 0 ∨
      entry.blockOffset ≠ cursor.blockOffset ∨ entry.recentOffset ≠ cursor.recentOffset ∨
      entry.recentLength ≠ entry.observationCount * segmentV1ObservationEntryLen) .invalidSegment
    let blockOffset ← usizeAdd cursor.blockOffset entry.blockLength
    let recentOffset ← usizeAdd cursor.recentOffset entry.recentLength
    refuse (layout.appendOffset < blockOffset ∨ checksumOffset < recentOffset) .invalidSegment
    let frames ← usizeAdd cursor.frames entry.frameCount
    let observations ← usizeAdd cursor.observations entry.observationCount
    let (entries, last) ← parseSeriesDirectory bytes layout checksumOffset count
      (offset + segmentV1SeriesEntryLen) (some entry)
      ⟨blockOffset, recentOffset, frames, observations⟩
    pure (entry :: entries, last)

/-- What a walk over frames proves about them. -/
structure BlockWalk where
  proofs : List FrameLocation
  observations : List ObservationLocation
  frameOffset : Nat
  deriving DecidableEq

/-- The frames of one block, each whole inside the block. -/
def walkFrames (bytes : Bytes) (storeId : StoreId) (seriesId : SeriesId) (blockEnd : Nat) :
    Nat → Nat → Nat → Option U64 → Except SegmentV1Error BlockWalk
  | 0, _, frameOffset, _ => pure ⟨[], [], frameOffset⟩
  | remaining + 1, frameOrdinal, frameOffset, prior => do
    let prefixEnd := frameOffset + journalV1FramePrefixLen
    refuse (bytes.length < prefixEnd ∨ blockEnd < prefixEnd) .invalidSegment
    let frameLength ← (frameLenFromPrefixV1 (slice bytes frameOffset journalV1FramePrefixLen)
      .maximum).mapError fun _ => SegmentV1Error.invalidSegment
    let frameEnd := frameOffset + frameLength
    refuse (bytes.length < frameEnd ∨ blockEnd < frameEnd) .invalidSegment
    let frame := slice bytes frameOffset frameLength
    let decoded ← (decodeAdmissionFrameV1 frame .maximum none).mapError
      fun _ => SegmentV1Error.invalidSegment
    refuse (decoded.storeId ≠ storeId ∨ decoded.declaration.storeId ≠ storeId ∨
      decoded.declaration.seriesId ≠ seriesId ∨ decoded.envelope.series.seriesId ≠ seriesId ∨
      decoded.retry.seriesId ≠ seriesId ∨
      prior.any (decoded.appendSequence ≤ ·) = true) .invalidSegment
    let canonical ← (encodeDecodedAdmissionFrameV1 decoded).mapError
      fun _ => SegmentV1Error.invalidSegment
    refuse (canonical ≠ frame) .invalidSegment
    let proof : FrameLocation :=
      ⟨decoded.appendSequence, seriesId, frameOffset, frameLength, frameOrdinal⟩
    let walk ← walkFrames bytes storeId seriesId blockEnd remaining (frameOrdinal + 1) frameEnd
      (some decoded.appendSequence)
    pure ⟨proof :: walk.proofs,
      locateObservations (proof, ⟨frame, decoded⟩) ++ walk.observations, walk.frameOffset⟩

/-- All blocks in the order of the series directory. -/
def walkBlocks (bytes : Bytes) (storeId : StoreId) : List SegmentSeriesEntryV1 →
    Except SegmentV1Error (List FrameLocation × List ObservationLocation)
  | [] => pure ([], [])
  | entry :: rest => do
    let blockEnd := entry.blockOffset + entry.blockLength
    let walk ← walkFrames bytes storeId entry.seriesId blockEnd entry.frameCount 0
      entry.blockOffset none
    refuse (walk.frameOffset ≠ blockEnd ∨ entry.observationCount ≠ walk.observations.length)
      .invalidSegment
    let (proofs, observations) ← walkBlocks bytes storeId rest
    pure (walk.proofs ++ proofs, walk.observations ++ observations)

/-- What the append directory reconstructs of the source. -/
structure SourceProof where
  appends : List SegmentAppendEntryV1
  checksum : StreamingCrc32c
  length : Nat

/-- The append directory against the frames in the order of their sequences. -/
def proveAppends (bytes : Bytes) : List FrameLocation → Nat → Nat → StreamingCrc32c → Nat →
    Except SegmentV1Error SourceProof
  | [], _, _, checksum, length => pure ⟨[], checksum, length⟩
  | proof :: rest, offset, expectedSequence, checksum, length => do
    refuse (proof.appendSequence.val ≠ expectedSequence) .invalidSegment
    let entry ← decodeAppendEntry (slice bytes offset segmentV1AppendEntryLen)
    refuse (entry ≠ proof) .invalidSegment
    match checkedSlice bytes proof.frameOffset proof.frameLength with
    | none => .error .invalidSegment
    | some frame => do
      let behind ← usizeAdd length proof.frameLength
      let proved ← proveAppends bytes rest (offset + segmentV1AppendEntryLen)
        (min (expectedSequence + 1) (2 ^ 64 - 1)) (checksum.update frame) behind
      pure { proved with appends := entry :: proved.appends }

/-- The recent directory against the observations in their order. -/
def proveObservations (bytes : Bytes) : List ObservationLocation → Nat →
    Except SegmentV1Error (List SegmentObservationEntryV1)
  | [], _ => pure []
  | expected :: rest, offset => do
    let entry ← decodeObservationEntry (slice bytes offset segmentV1ObservationEntryLen) expected
    let entries ← proveObservations bytes rest (offset + segmentV1ObservationEntryLen)
    pure (entry :: entries)

/-- By series, and the most recent first in each. -/
def directoryOrder (left right : ObservationLocation) : Ordering :=
  (compare left.seriesId.bytes right.seriesId.bytes).then (recentOrder left right)

structure SegmentV1 where
  bytes : Bytes
  inspection : SegmentV1Inspection
  series : List SegmentSeriesEntryV1
  appends : List SegmentAppendEntryV1
  observations : List SegmentObservationEntryV1
  deriving DecidableEq

/-- The bytes of an indexed frame. -/
def SegmentV1.frameBytes (segment : SegmentV1) (entry : SegmentAppendEntryV1) :
    Except SegmentV1Error Bytes := do
  refuse (entry ∉ segment.appends) .invalidSegment
  match checkedSlice segment.bytes entry.frameOffset entry.frameLength with
  | none => .error .invalidSegment
  | some frame => pure frame

def SegmentV1.decodeFrame (segment : SegmentV1) (entry : SegmentAppendEntryV1) :
    Except SegmentV1Error DecodedAdmissionV1 := do
  let frame ← segment.frameBytes entry
  (decodeAdmissionFrameV1 frame .maximum none).mapError fun _ => SegmentV1Error.invalidSegment

def parseSegmentV1 (bytes : Bytes) (expectedStoreId : StoreId) :
    Except SegmentV1Error SegmentV1 := do
  let header ← parseSegmentHeader bytes expectedStoreId
  let layout := header.layout
  let checksumOffset := bytes.length - segmentV1CrcLen
  let (series, last) ← parseSeriesDirectory bytes layout checksumOffset header.count.series
    layout.seriesOffset none ⟨layout.blocksOffset, layout.recentOffset, 0, 0⟩
  refuse (last.blockOffset ≠ layout.appendOffset ∨ last.recentOffset ≠ checksumOffset ∨
    last.frames ≠ header.count.frames ∨ last.observations ≠ header.count.observations)
    .invalidSegment
  let (proofs, expectedObservations) ← walkBlocks bytes expectedStoreId series
  refuse (proofs.length ≠ header.count.frames ∨
    expectedObservations.length ≠ header.count.observations) .invalidSegment
  let proofs := sortAppends proofs
  let sourceHeader := encodeHeader expectedStoreId
  let proved ← proveAppends bytes proofs layout.appendOffset
    (header.sealed.sequenceFloor.val + 1) (StreamingCrc32c.new.update sourceHeader)
    journalV1HeaderLen
  refuse (proofs.getLast?.map (·.appendSequence) ≠ some header.sealed.sequenceCutoff ∨
    proved.length ≠ header.sealed.artifactLength.val ∨
    proved.checksum.finish ≠ header.sealed.artifactChecksum) .invalidSegment
  let observations ← proveObservations bytes
    (expectedObservations.insertionSort fun left right => (directoryOrder left right).isLE)
    layout.recentOffset
  pure ⟨bytes, inspection expectedStoreId header.sealed header.count layout
    header.artifactChecksum, series, proved.appends, observations⟩

end Historian
