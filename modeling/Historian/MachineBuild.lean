import Historian.MachineParse

namespace Historian.MachineSegment

open Wire Checks Machine MachineFrame

/-- A frame of the source by its place in it. -/
structure PlacedFrame where
  seriesId : SeriesId
  appendSequence : U64
  sourceOffset : Nat
  length : Nat
  observations : List SourceObservation
  deriving DecidableEq

/-- The loop over the frames of the source; it ends at the end of the source or refuses. -/
def scanSourceFrames (source : Bytes) (storeId : StoreId) :
    Nat → Nat → Option AppendSequenceV1 → Nat →
      Run SegmentV1Error (List PlacedFrame × Option AppendSequenceV1)
  | 0, _, previous, sourceOffset => do
    refuseIf (sourceOffset ≠ source.length) .invalidSource
    pure ([], previous)
  | expected + 1, observationCount, previous, sourceOffset =>
    if source.length ≤ sourceOffset then do
      refuseIf (sourceOffset ≠ source.length) .invalidSource
      pure ([], previous)
    else do
      let prefixEnd ← addOr .bounds sourceOffset journalV1FramePrefixLen
      let head ← rangeOr .invalidSource source sourceOffset prefixEnd
      let frameLength ← mapRefusal (fun _ => SegmentV1Error.invalidSource)
        (MachineFrame.frameLenFromPrefixV1 head .maximum)
      let frameEnd ← addOr .bounds sourceOffset frameLength
      let frame ← rangeOr .invalidSource source sourceOffset frameEnd
      let decoded ← mapRefusal (fun _ => SegmentV1Error.invalidSource)
        (MachineFrame.decodeAdmissionFrameV1 frame .maximum previous)
      refuseIf (decoded.storeId ≠ storeId ∨ decoded.declaration.storeId ≠ storeId) .storeMismatch
      refuseIf (decoded.envelope.series.seriesId ≠ decoded.declaration.seriesId ∨
        decoded.retry.seriesId ≠ decoded.declaration.seriesId) .invalidSource
      let canonical ← mapRefusal (fun _ => SegmentV1Error.invalidSource)
        (MachineFrame.encodeDecodedAdmissionFrameV1 decoded)
      refuseIf (canonical ≠ frame) .invalidSource
      let observations := (SourceFrame.mk frame decoded).observations
      -- the ordinals are 32-bit numbers
      refuseIf (2 ^ 32 < observations.length) .bounds
      let observationCount ← addOr .bounds observationCount observations.length
      refuseIf (maxSegmentV1Observations < observationCount) .bounds
      let sequence ← lift ((AppendSequenceV1.new decoded.appendSequence).mapError
        fun _ => SegmentV1Error.invalidSource)
      let (frames, last) ← scanSourceFrames source storeId expected observationCount
        (some sequence) frameEnd
      pure (⟨decoded.declaration.seriesId, decoded.appendSequence, sourceOffset, frameLength,
        observations⟩ :: frames, last)

def scanSource (storeId : StoreId) (sealed : SealedGeneration) (source : Bytes) :
    Run SegmentV1Error (List PlacedFrame) := do
  refuseIf (maxActiveJournalBytes < source.length) .bounds
  refuseIf (sealed.journalGeneration = 0 ∨ sealed.registryGeneration = 0 ∨
    sealed.sequenceCutoff ≤ sealed.sequenceFloor ∨ sealed.endOffset ≠ sealed.artifactLength ∨
    sealed.artifactLength.val ≠ source.length ∨ sealed.endOffset.val ≤ journalV1HeaderLen ∨
    crc32c source ≠ sealed.artifactChecksum) .invalidSource
  let expectedCount ← subOr .bounds sealed.sequenceCutoff.val sealed.sequenceFloor.val
  refuseIf (expectedCount = 0 ∨ maxActiveJournalRecords < expectedCount) .bounds
  let header ← rangeOr .invalidSource source 0 journalV1HeaderLen
  let decoded ← lift ((decodeHeader header).mapError fun _ => SegmentV1Error.invalidSource)
  refuseIf (decoded ≠ storeId) .storeMismatch
  let (frames, previous) ← scanSourceFrames source storeId expectedCount 0
    (floorSequence sealed.sequenceFloor) journalV1HeaderLen
  refuseIf (frames.length ≠ expectedCount ∨
    previous.map (·.value) ≠ some sealed.sequenceCutoff) .invalidSource
  pure frames

/-- An index joins the group of its series, behind the indices that are there. -/
def pushIndex (grouped : List (SeriesId × List Nat)) (entry : PlacedFrame × Nat) :
    List (SeriesId × List Nat) :=
  match SortedMap.get? entry.1.seriesId grouped with
  | some _ => SortedMap.modify entry.1.seriesId (· ++ [entry.2]) grouped
  | none => SortedMap.insert Identity.lt entry.1.seriesId [entry.2] grouped

def groupIndices (frames : List PlacedFrame) : List (SeriesId × List Nat) :=
  frames.zipIdx.foldl pushIndex []

/-- The buffer, the cursor of the blocks and what the block has shown so far. -/
structure BlockCursor where
  bytes : Bytes
  blockCursor : Nat
  appends : List FrameLocation
  recent : List ObservationLocation

/-- The frames of one block are copied one behind the other. -/
def copyFrames (source : Bytes) (frames : List PlacedFrame) (seriesId : SeriesId) :
    List Nat → Nat → BlockCursor → Run SegmentV1Error BlockCursor
  | [], _, cursor => pure cursor
  | sourceIndex :: rest, frameOrdinal, cursor => do
    let frame ← index frames sourceIndex
    let sourceEnd ← add frame.sourceOffset frame.length
    let sourceBytes ← range source frame.sourceOffset sourceEnd
    let frameEnd ← add cursor.blockCursor frame.length
    let bytes ← writeRange cursor.bytes cursor.blockCursor frameEnd sourceBytes
    refuseIf (2 ^ 32 ≤ frameOrdinal) .bounds
    let location : FrameLocation :=
      ⟨frame.appendSequence, seriesId, cursor.blockCursor, frame.length, frameOrdinal⟩
    let recent := frame.observations.map fun observation =>
      (⟨seriesId, observation.rawOrderKey, frame.appendSequence, observation.ordinal, frameOrdinal,
        cursor.blockCursor, frame.length⟩ : ObservationLocation)
    copyFrames source frames seriesId rest (frameOrdinal + 1)
      ⟨bytes, frameEnd, cursor.appends ++ [location], cursor.recent ++ recent⟩

def writeRecent : List ObservationLocation → Bytes → Nat → Run SegmentV1Error (Bytes × Nat)
  | [], bytes, recentCursor => pure (bytes, recentCursor)
  | location :: rest, bytes, recentCursor => do
    let stop ← add recentCursor segmentV1ObservationEntryLen
    let bytes ← writeRange bytes recentCursor stop (encodeObservationEntry location)
    let recentCursor ← add recentCursor segmentV1ObservationEntryLen
    writeRecent rest bytes recentCursor

structure SegmentCursor where
  bytes : Bytes
  blockCursor : Nat
  recentCursor : Nat
  appends : List FrameLocation

/-- The blocks in the order of their series, each with its run of the recent directory and its
entry of the series directory. -/
def writeBlocks (source : Bytes) (frames : List PlacedFrame) (layout : SegmentLayout) :
    List (SeriesId × List Nat) → Nat → SegmentCursor → Run SegmentV1Error SegmentCursor
  | [], _, cursor => pure cursor
  | (seriesId, frameIndices) :: rest, seriesIndex, cursor => do
    let step ← mul seriesIndex segmentV1SeriesEntryLen
    let directoryOffset ← add layout.seriesOffset step
    let block ← copyFrames source frames seriesId frameIndices 0
      ⟨cursor.bytes, cursor.blockCursor, cursor.appends, []⟩
    let recent := sortRecent block.recent
    let (bytes, recentCursor) ← writeRecent recent block.bytes cursor.recentCursor
    let blockLength ← sub block.blockCursor cursor.blockCursor
    refuseIf (2 ^ 32 ≤ frameIndices.length) .bounds
    refuseIf (2 ^ 32 ≤ recent.length) .bounds
    let recentLength ← sub recentCursor cursor.recentCursor
    let entry : SegmentSeriesEntryV1 := ⟨seriesId, cursor.blockCursor, blockLength,
      frameIndices.length, recent.length, cursor.recentCursor, recentLength⟩
    let directoryEnd ← add directoryOffset segmentV1SeriesEntryLen
    let bytes ← writeRange bytes directoryOffset directoryEnd (encodeSeriesEntry entry)
    writeBlocks source frames layout rest (seriesIndex + 1)
      ⟨bytes, block.blockCursor, recentCursor, block.appends⟩

def writeAppends (appendOffset : Nat) : List FrameLocation → Nat → Bytes →
    Run SegmentV1Error Bytes
  | [], _, bytes => pure bytes
  | entry :: rest, index, bytes => do
    let step ← mul index segmentV1AppendEntryLen
    let offset ← add appendOffset step
    let stop ← add offset segmentV1AppendEntryLen
    let bytes ← writeRange bytes offset stop (encodeAppendEntry entry)
    writeAppends appendOffset rest (index + 1) bytes

/-- The artifact is written in place, region by region. -/
def buildSegmentV1 (storeId : StoreId) (sealed : SealedGeneration) (source : Bytes) :
    Run SegmentV1Error PreparedSegmentV1 := do
  let frames ← scanSource storeId sealed source
  let grouped := groupIndices frames
  let blocksLength ← subOr .invalidSource source.length journalV1HeaderLen
  let count : SegmentCounts :=
    ⟨frames.length, grouped.length, (frames.map (·.observations.length)).sum⟩
  let layout ← layoutNew count blocksLength
  let bytes := zeros layout.artifactLength
  refuseIf (2 ^ 32 ≤ count.frames ∨ 2 ^ 32 ≤ count.series ∨ 2 ^ 32 ≤ count.observations) .bounds
  let bytes ← writeRange bytes 0 segmentV1HeaderLen
    (segmentHeaderFields storeId sealed count layout).flatten
  let cursor ← writeBlocks source frames layout grouped 0
    ⟨bytes, layout.blocksOffset, layout.recentOffset, []⟩
  let recentEnd ← add cursor.recentCursor segmentV1CrcLen
  refuseIf (cursor.blockCursor ≠ layout.appendOffset ∨ recentEnd ≠ cursor.bytes.length)
    .invalidSource
  let bytes ← writeAppends layout.appendOffset (sortAppends cursor.appends) 0 cursor.bytes
  let checksumOffset ← sub bytes.length segmentV1CrcLen
  let body ← range bytes 0 checksumOffset
  let bytes ← writeRange bytes checksumOffset bytes.length (toBE 4 (crc32c body))
  pure ⟨bytes, inspection storeId sealed count layout (crc32c body)⟩

end Historian.MachineSegment
