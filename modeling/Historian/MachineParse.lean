import Historian.MachineFrame
import Historian.SegmentRoundTrip

namespace Historian.MachineSegment

open Wire Checks Machine MachineFrame

/-- An unsigned field at an offset that is checked. -/
def readField (error : SegmentV1Error) (bytes : Bytes) (offset len : Nat) :
    Run SegmentV1Error Bytes := do
  let stop ← addOr error offset len
  rangeOr error bytes offset stop

def readU16 (error : SegmentV1Error) (bytes : Bytes) (offset : Nat) : Run SegmentV1Error Nat := do
  let field ← readField error bytes offset 2
  pure (ofBE field)

def readU32 (error : SegmentV1Error) (bytes : Bytes) (offset : Nat) : Run SegmentV1Error U32 := do
  let field ← readField error bytes offset 4
  pure (Fin.ofNat _ (ofBE field))

def readU64 (error : SegmentV1Error) (bytes : Bytes) (offset : Nat) : Run SegmentV1Error U64 := do
  let field ← readField error bytes offset 8
  pure (Fin.ofNat _ (ofBE field))

def readCount (bytes : Bytes) (offset maximum : Nat) : Run SegmentV1Error Nat := do
  let count ← readU32 .invalidSegment bytes offset
  refuseIf (maximum < count) .bounds
  pure count

def readSeriesId (bytes : Bytes) (start stop : Nat) : Run SegmentV1Error SeriesId := do
  let field ← range bytes start stop
  lift ((Identity.fromBytes field).mapError fun _ => SegmentV1Error.invalidSegment)

def layoutNew (count : SegmentCounts) (blocksLength : Nat) :
    Run SegmentV1Error SegmentLayout := do
  refuseIf (count.frames = 0 ∨ maxActiveJournalRecords < count.frames ∨ count.series = 0 ∨
    maxSegmentV1Series < count.series ∨ count.frames < count.series ∨
    maxSegmentV1Observations < count.observations ∨ blocksLength = 0 ∨
    maxActiveJournalBytes - journalV1HeaderLen < blocksLength) .bounds
  let seriesLength ← mulOr .bounds count.series segmentV1SeriesEntryLen
  let blocksOffset ← addOr .bounds segmentV1HeaderLen seriesLength
  let appendOffset ← addOr .bounds blocksOffset blocksLength
  let appendLength ← mulOr .bounds count.frames segmentV1AppendEntryLen
  let recentOffset ← addOr .bounds appendOffset appendLength
  let recentLength ← mulOr .bounds count.observations segmentV1ObservationEntryLen
  let recentEnd ← addOr .bounds recentOffset recentLength
  let artifactLength ← addOr .bounds recentEnd segmentV1CrcLen
  refuseIf (maxSegmentV1Bytes < artifactLength) .bounds
  pure ⟨segmentV1HeaderLen, seriesLength, blocksOffset, blocksLength, appendOffset, appendLength,
    recentOffset, recentLength, artifactLength⟩

def decodeSeriesEntry (bytes : Bytes) : Run SegmentV1Error SegmentSeriesEntryV1 := do
  refuseIf (bytes.length ≠ segmentV1SeriesEntryLen) .invalidSegment
  let reserved ← range bytes 56 64
  refuseIf (reserved ≠ zeros 8) .invalidSegment
  let seriesId ← readSeriesId bytes 0 16
  let blockOffset ← readU64 .invalidSegment bytes 16
  let blockLength ← readU64 .invalidSegment bytes 24
  let frameCount ← readU32 .invalidSegment bytes 32
  let observationCount ← readU32 .invalidSegment bytes 36
  let recentOffset ← readU64 .invalidSegment bytes 40
  let recentLength ← readU64 .invalidSegment bytes 48
  pure ⟨seriesId, blockOffset, blockLength, frameCount, observationCount, recentOffset,
    recentLength⟩

def decodeAppendEntry (bytes : Bytes) : Run SegmentV1Error SegmentAppendEntryV1 := do
  refuseIf (bytes.length ≠ segmentV1AppendEntryLen) .invalidSegment
  let reserved ← range bytes 44 48
  refuseIf (reserved ≠ zeros 4) .invalidSegment
  let appendSequence ← readU64 .invalidSegment bytes 0
  let seriesId ← readSeriesId bytes 8 24
  let frameOffset ← readU64 .invalidSegment bytes 24
  let frameLength ← readU64 .invalidSegment bytes 32
  let frameOrdinal ← readU32 .invalidSegment bytes 40
  pure ⟨appendSequence, seriesId, frameOffset, frameLength, frameOrdinal⟩

def readTimestamp (bytes : Bytes) (offset : Nat) : Run SegmentV1Error Timestamp := do
  let seconds ← readU64 .invalidSegment bytes offset
  let nanosecond ← readU32 .invalidSegment bytes (offset + 8)
  lift ((Timestamp.new (Int64.ofBitVec (BitVec.ofFin seconds)) nanosecond).mapError
    fun _ => SegmentV1Error.invalidSegment)

def decodeObservationEntry (bytes : Bytes) (expected : ObservationLocation) :
    Run SegmentV1Error SegmentObservationEntryV1 := do
  refuseIf (bytes.length ≠ segmentV1ObservationEntryLen) .invalidSegment
  let reserved ← range bytes 88 96
  refuseIf (reserved ≠ zeros 8) .invalidSegment
  let seriesId ← readSeriesId bytes 0 16
  let effective ← readTimestamp bytes 16
  let receive ← readTimestamp bytes 28
  let idField ← range bytes 40 56
  let observationId ← lift ((Identity.fromBytes idField).mapError
    fun _ => SegmentV1Error.invalidSegment)
  let appendSequence ← readU64 .invalidSegment bytes 56
  let observationOrdinal ← readU32 .invalidSegment bytes 64
  let frameOrdinal ← readU32 .invalidSegment bytes 68
  let frameOffset ← readU64 .invalidSegment bytes 72
  let frameLength ← readU64 .invalidSegment bytes 80
  let actual : SegmentObservationEntryV1 := ⟨seriesId, expected.rawOrderKey, appendSequence,
    observationOrdinal, frameOrdinal, frameOffset, frameLength⟩
  refuseIf (effective ≠ expected.rawOrderKey.effective ∨ receive ≠ expected.rawOrderKey.receive ∨
    observationId ≠ expected.rawOrderKey.observationId ∨ actual.seriesId ≠ expected.seriesId ∨
    actual.appendSequence ≠ expected.appendSequence ∨
    actual.observationOrdinal ≠ expected.observationOrdinal ∨
    actual.frameOrdinal ≠ expected.frameOrdinal ∨ actual.frameOffset ≠ expected.frameOffset ∨
    actual.frameLength ≠ expected.frameLength) .invalidSegment
  pure actual

/-- The part of the parser in front of its loops. -/
def parseSegmentHeader (bytes : Bytes) (expectedStoreId : StoreId) :
    Run SegmentV1Error SegmentHeader := do
  refuseIf (maxSegmentV1Bytes < bytes.length) .bounds
  refuseIf (bytes.length < segmentV1HeaderLen + segmentV1CrcLen) .invalidSegment
  let magic ← range bytes 0 8
  let version ← readU16 .invalidSegment bytes 8
  let headerLen ← readU16 .invalidSegment bytes 10
  let flags ← readU32 .invalidSegment bytes 12
  let reserved ← range bytes 168 segmentV1HeaderLen
  refuseIf (magic ≠ segmentV1Magic ∨ version ≠ segmentV1Version ∨ headerLen ≠ segmentV1HeaderLen ∨
    flags.val ≠ segmentFlagsNone ∨ reserved ≠ zeros 24) .invalidSegment
  let idField ← range bytes 16 32
  let storeId ← lift ((Identity.fromBytes idField).mapError
    fun _ => SegmentV1Error.invalidSegment)
  refuseIf (storeId ≠ expectedStoreId) .storeMismatch
  let journalGeneration ← readU64 .invalidSegment bytes 32
  let sequenceFloor ← readU64 .invalidSegment bytes 40
  let sequenceCutoff ← readU64 .invalidSegment bytes 48
  let registryGeneration ← readU64 .invalidSegment bytes 56
  let endOffset ← readU64 .invalidSegment bytes 64
  let artifactLength ← readU64 .invalidSegment bytes 72
  let sourceChecksum ← readU32 .invalidSegment bytes 80
  let sealed : SealedGeneration := ⟨journalGeneration, sequenceFloor, sequenceCutoff, endOffset,
    registryGeneration, artifactLength, sourceChecksum⟩
  let frameCount ← readCount bytes 84 maxActiveJournalRecords
  let seriesCount ← readCount bytes 88 maxSegmentV1Series
  let observationCount ← readCount bytes 92 maxSegmentV1Observations
  refuseIf (sealed.journalGeneration = 0 ∨ sealed.registryGeneration = 0 ∨
    sealed.sequenceCutoff ≤ sealed.sequenceFloor ∨ sealed.endOffset ≠ sealed.artifactLength ∨
    sealed.endOffset.val ≤ journalV1HeaderLen ∨
    maxActiveJournalBytes < sealed.artifactLength.val ∨ frameCount = 0 ∨ seriesCount = 0 ∨
    frameCount < seriesCount ∨
    sealed.sequenceCutoff.val - sealed.sequenceFloor.val ≠ frameCount) .invalidSegment
  let count : SegmentCounts := ⟨frameCount, seriesCount, observationCount⟩
  let blocksLength ← readU64 .bounds bytes 120
  let layout ← layoutNew count blocksLength
  let seriesOffset ← readU64 .invalidSegment bytes 96
  let seriesLength ← readU64 .invalidSegment bytes 104
  let blocksOffset ← readU64 .invalidSegment bytes 112
  let blocksAgain ← readU64 .invalidSegment bytes 120
  let appendOffset ← readU64 .invalidSegment bytes 128
  let appendLength ← readU64 .invalidSegment bytes 136
  let recentOffset ← readU64 .invalidSegment bytes 144
  let recentLength ← readU64 .invalidSegment bytes 152
  let totalLength ← readU64 .invalidSegment bytes 160
  refuseIf (seriesOffset.val ≠ layout.seriesOffset ∨ seriesLength.val ≠ layout.seriesLength ∨
    blocksOffset.val ≠ layout.blocksOffset ∨ blocksAgain.val ≠ layout.blocksLength ∨
    appendOffset.val ≠ layout.appendOffset ∨ appendLength.val ≠ layout.appendLength ∨
    recentOffset.val ≠ layout.recentOffset ∨ recentLength.val ≠ layout.recentLength ∨
    totalLength.val ≠ layout.artifactLength) .invalidSegment
  refuseIf (bytes.length ≠ layout.artifactLength) .invalidSegment
  let checksumOffset ← sub bytes.length segmentV1CrcLen
  let artifactChecksum ← readU32 .invalidSegment bytes checksumOffset
  let body ← range bytes 0 checksumOffset
  refuseIf (crc32c body ≠ artifactChecksum) .invalidSegment
  pure ⟨sealed, count, layout, artifactChecksum⟩

/-- The entry at an index of a directory, which is sliced without a check. -/
def directoryEntry (bytes : Bytes) (offset entryLen index : Nat) : Run SegmentV1Error Bytes := do
  let step ← mul index entryLen
  let start ← add offset step
  let stop ← add start entryLen
  range bytes start stop

def parseSeriesDirectory (bytes : Bytes) (layout : SegmentLayout) (checksumOffset : Nat) :
    Nat → Nat → Option SegmentSeriesEntryV1 → SeriesCursor →
      Run SegmentV1Error (List SegmentSeriesEntryV1 × SeriesCursor)
  | 0, _, _, cursor => pure ([], cursor)
  | count + 1, index, prior, cursor => do
    let entryBytes ← directoryEntry bytes layout.seriesOffset segmentV1SeriesEntryLen index
    let entry ← decodeSeriesEntry entryBytes
    let recentLength ← mulOr .invalidSegment entry.observationCount segmentV1ObservationEntryLen
    refuseIf ((∃ before ∈ prior, ¬before.seriesId.lt entry.seriesId) ∨ entry.frameCount = 0 ∨
      entry.blockOffset ≠ cursor.blockOffset ∨ entry.recentOffset ≠ cursor.recentOffset ∨
      entry.recentLength ≠ recentLength) .invalidSegment
    let blockOffset ← addOr .bounds cursor.blockOffset entry.blockLength
    let recentOffset ← addOr .bounds cursor.recentOffset entry.recentLength
    refuseIf (layout.appendOffset < blockOffset ∨ checksumOffset < recentOffset) .invalidSegment
    let frames ← addOr .bounds cursor.frames entry.frameCount
    let observations ← addOr .bounds cursor.observations entry.observationCount
    let (entries, last) ← parseSeriesDirectory bytes layout checksumOffset count (index + 1)
      (some entry) ⟨blockOffset, recentOffset, frames, observations⟩
    pure (entry :: entries, last)

/-- The ordinals of the observations are 32-bit numbers. -/
def walkFrames (bytes : Bytes) (storeId : StoreId) (seriesId : SeriesId) (blockEnd : Nat) :
    Nat → Nat → Nat → Nat → Option U64 → Run SegmentV1Error BlockWalk
  | 0, _, _, frameOffset, _ => pure ⟨[], [], frameOffset⟩
  | remaining + 1, frameOrdinal, observed, frameOffset, prior => do
    let prefixEnd ← addOr .bounds frameOffset journalV1FramePrefixLen
    let head ← rangeOr .invalidSegment bytes frameOffset prefixEnd
    refuseIf (blockEnd < prefixEnd) .invalidSegment
    let frameLength ← mapRefusal (fun _ => SegmentV1Error.invalidSegment)
      (MachineFrame.frameLenFromPrefixV1 head .maximum)
    let frameEnd ← addOr .bounds frameOffset frameLength
    let frame ← rangeOr .invalidSegment bytes frameOffset frameEnd
    refuseIf (blockEnd < frameEnd) .invalidSegment
    let decoded ← mapRefusal (fun _ => SegmentV1Error.invalidSegment)
      (MachineFrame.decodeAdmissionFrameV1 frame .maximum none)
    refuseIf (decoded.storeId ≠ storeId ∨ decoded.declaration.storeId ≠ storeId ∨
      decoded.declaration.seriesId ≠ seriesId ∨ decoded.envelope.series.seriesId ≠ seriesId ∨
      decoded.retry.seriesId ≠ seriesId ∨
      prior.any (decoded.appendSequence ≤ ·) = true) .invalidSegment
    let canonical ← mapRefusal (fun _ => SegmentV1Error.invalidSegment)
      (MachineFrame.encodeDecodedAdmissionFrameV1 decoded)
    refuseIf (canonical ≠ frame) .invalidSegment
    let proof : FrameLocation :=
      ⟨decoded.appendSequence, seriesId, frameOffset, frameLength, frameOrdinal⟩
    let observed ← addOr .bounds observed decoded.envelope.observations.length
    refuseIf (2 ^ 32 < decoded.envelope.observations.length) .bounds
    let walk ← walkFrames bytes storeId seriesId blockEnd remaining (frameOrdinal + 1) observed
      frameEnd (some decoded.appendSequence)
    pure ⟨proof :: walk.proofs,
      locateObservations (proof, ⟨frame, decoded⟩) ++ walk.observations, walk.frameOffset⟩

def walkBlocks (bytes : Bytes) (storeId : StoreId) : List SegmentSeriesEntryV1 →
    Run SegmentV1Error (List FrameLocation × List ObservationLocation)
  | [] => pure ([], [])
  | entry :: rest => do
    let blockEnd ← addOr .bounds entry.blockOffset entry.blockLength
    let walk ← walkFrames bytes storeId entry.seriesId blockEnd entry.frameCount 0 0
      entry.blockOffset none
    refuseIf (walk.frameOffset ≠ blockEnd ∨ entry.observationCount ≠ walk.observations.length)
      .invalidSegment
    let (proofs, observations) ← walkBlocks bytes storeId rest
    pure (walk.proofs ++ proofs, walk.observations ++ observations)

def proveAppends (bytes : Bytes) (appendOffset : Nat) :
    List FrameLocation → Nat → Nat → StreamingCrc32c → Nat → Run SegmentV1Error SourceProof
  | [], _, _, checksum, length => pure ⟨[], checksum, length⟩
  | proof :: rest, index, expectedSequence, checksum, length => do
    refuseIf (proof.appendSequence.val ≠ expectedSequence) .invalidSegment
    let entryBytes ← directoryEntry bytes appendOffset segmentV1AppendEntryLen index
    let entry ← decodeAppendEntry entryBytes
    refuseIf (entry ≠ proof) .invalidSegment
    let frame ← readField .invalidSegment bytes proof.frameOffset proof.frameLength
    let behind ← addOr .bounds length proof.frameLength
    let proved ← proveAppends bytes appendOffset rest (index + 1)
      (min (expectedSequence + 1) (2 ^ 64 - 1)) (checksum.update frame) behind
    pure { proved with appends := entry :: proved.appends }

def proveObservations (bytes : Bytes) (recentOffset : Nat) : List ObservationLocation → Nat →
    Run SegmentV1Error (List SegmentObservationEntryV1)
  | [], _ => pure []
  | expected :: rest, index => do
    let entryBytes ← directoryEntry bytes recentOffset segmentV1ObservationEntryLen index
    let entry ← decodeObservationEntry entryBytes expected
    let entries ← proveObservations bytes recentOffset rest (index + 1)
    pure (entry :: entries)

def parseSegmentV1 (bytes : Bytes) (expectedStoreId : StoreId) : Run SegmentV1Error SegmentV1 := do
  let header ← parseSegmentHeader bytes expectedStoreId
  let layout := header.layout
  let checksumOffset ← sub bytes.length segmentV1CrcLen
  let (series, last) ← parseSeriesDirectory bytes layout checksumOffset header.count.series 0 none
    ⟨layout.blocksOffset, layout.recentOffset, 0, 0⟩
  refuseIf (last.blockOffset ≠ layout.appendOffset ∨ last.recentOffset ≠ checksumOffset ∨
    last.frames ≠ header.count.frames ∨ last.observations ≠ header.count.observations)
    .invalidSegment
  let (proofs, expectedObservations) ← walkBlocks bytes expectedStoreId series
  refuseIf (proofs.length ≠ header.count.frames ∨
    expectedObservations.length ≠ header.count.observations) .invalidSegment
  let proofs := sortAppends proofs
  let expectedSequence ← addOr .invalidSegment header.sealed.sequenceFloor.val 1
  let proved ← proveAppends bytes layout.appendOffset proofs 0 expectedSequence
    (StreamingCrc32c.new.update (encodeHeader expectedStoreId)) journalV1HeaderLen
  refuseIf (proofs.getLast?.map (·.appendSequence) ≠ some header.sealed.sequenceCutoff ∨
    proved.length ≠ header.sealed.artifactLength.val ∨
    proved.checksum.finish ≠ header.sealed.artifactChecksum) .invalidSegment
  let observations ← proveObservations bytes layout.recentOffset
    (expectedObservations.insertionSort fun left right => (directoryOrder left right).isLE) 0
  pure ⟨bytes, inspection expectedStoreId header.sealed header.count layout
    header.artifactChecksum, series, proved.appends, observations⟩

end Historian.MachineSegment
