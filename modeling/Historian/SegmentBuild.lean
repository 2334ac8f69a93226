import Historian.SegmentTypes
import Historian.SortedMap

namespace Historian

open Wire Checks

/-- A frame of the source with the record that it holds. -/
structure SourceFrame where
  bytes : Bytes
  admission : DecodedAdmissionV1
  deriving DecidableEq

structure SourceObservation where
  rawOrderKey : RawObservationOrderKey
  ordinal : Nat
  deriving DecidableEq

namespace SourceFrame

def appendSequence (frame : SourceFrame) : U64 := frame.admission.appendSequence

def seriesId (frame : SourceFrame) : SeriesId := frame.admission.declaration.seriesId

def observations (frame : SourceFrame) : List SourceObservation :=
  frame.admission.envelope.observations.zipIdx.map fun pair => ⟨pair.1.rawOrderKey, pair.2⟩

end SourceFrame

/-- The frames of the source up to its end, at most `expected` of them. -/
def scanSourceFrames (storeId : StoreId) : Nat → Nat → Option AppendSequenceV1 → Bytes →
    Except SegmentV1Error (List SourceFrame × Option AppendSequenceV1)
  | 0, _, previous, source => do
    refuse (source ≠ []) .invalidSource
    pure ([], previous)
  | expected + 1, observationCount, previous, source =>
    if source = [] then pure ([], previous)
    else do
      refuse (source.length < journalV1FramePrefixLen) .invalidSource
      let frameLength ← (frameLenFromPrefixV1 (slice source 0 journalV1FramePrefixLen)
        .maximum).mapError fun _ => SegmentV1Error.invalidSource
      refuse (source.length < frameLength) .invalidSource
      let frame := slice source 0 frameLength
      let decoded ← (decodeAdmissionFrameV1 frame .maximum previous).mapError
        fun _ => SegmentV1Error.invalidSource
      refuse (decoded.storeId ≠ storeId ∨ decoded.declaration.storeId ≠ storeId) .storeMismatch
      refuse (decoded.envelope.series.seriesId ≠ decoded.declaration.seriesId ∨
        decoded.retry.seriesId ≠ decoded.declaration.seriesId) .invalidSource
      let canonical ← (encodeDecodedAdmissionFrameV1 decoded).mapError
        fun _ => SegmentV1Error.invalidSource
      refuse (canonical ≠ frame) .invalidSource
      let observationCount := observationCount + decoded.envelope.observations.length
      refuse (maxSegmentV1Observations < observationCount) .bounds
      let sequence ← (AppendSequenceV1.new decoded.appendSequence).mapError
        fun _ => SegmentV1Error.invalidSource
      let (frames, last) ← scanSourceFrames storeId expected observationCount (some sequence)
        (source.drop frameLength)
      pure (⟨frame, decoded⟩ :: frames, last)

/-- A frame joins the group of its series, behind the frames that are there. -/
def pushFrame (grouped : List (SeriesId × List SourceFrame)) (frame : SourceFrame) :
    List (SeriesId × List SourceFrame) :=
  match SortedMap.get? frame.seriesId grouped with
  | some _ => SortedMap.modify frame.seriesId (· ++ [frame]) grouped
  | none => SortedMap.insert Identity.lt frame.seriesId [frame] grouped

def groupFrames (frames : List SourceFrame) : List (SeriesId × List SourceFrame) :=
  frames.foldl pushFrame []

def framesLength (frames : List SourceFrame) : Nat := (frames.map (·.bytes.length)).sum

def observationTotal (frames : List SourceFrame) : Nat :=
  (frames.map (·.admission.envelope.observations.length)).sum

/-- The complete source, checked against the record of its sealed generation. -/
def scanSource (storeId : StoreId) (sealed : SealedGeneration) (source : Bytes) :
    Except SegmentV1Error (List SourceFrame) := do
  refuse (maxActiveJournalBytes < source.length) .bounds
  refuse (sealed.journalGeneration = 0 ∨ sealed.registryGeneration = 0 ∨
    sealed.sequenceCutoff ≤ sealed.sequenceFloor ∨ sealed.endOffset ≠ sealed.artifactLength ∨
    sealed.artifactLength.val ≠ source.length ∨ sealed.endOffset.val ≤ journalV1HeaderLen ∨
    crc32c source ≠ sealed.artifactChecksum) .invalidSource
  let expectedCount := sealed.sequenceCutoff.val - sealed.sequenceFloor.val
  refuse (expectedCount = 0 ∨ maxActiveJournalRecords < expectedCount) .bounds
  let decoded ← (decodeHeader (slice source 0 journalV1HeaderLen)).mapError
    fun _ => SegmentV1Error.invalidSource
  refuse (decoded ≠ storeId) .storeMismatch
  let (frames, previous) ← scanSourceFrames storeId expectedCount 0
    (floorSequence sealed.sequenceFloor) (source.drop journalV1HeaderLen)
  refuse (frames.length ≠ expectedCount ∨
    previous.map (·.value) ≠ some sealed.sequenceCutoff) .invalidSource
  pure frames

/-- The frames of one block with their locations, from the cursor on. -/
def locateFrames (seriesId : SeriesId) : Nat → Nat → List SourceFrame →
    List (FrameLocation × SourceFrame)
  | _, _, [] => []
  | cursor, ordinal, frame :: rest =>
    (⟨frame.appendSequence, seriesId, cursor, frame.bytes.length, ordinal⟩, frame) ::
      locateFrames seriesId (cursor + frame.bytes.length) (ordinal + 1) rest

/-- The observations of a located frame. -/
def locateObservations (located : FrameLocation × SourceFrame) : List ObservationLocation :=
  located.2.observations.map fun observation =>
    ⟨located.1.seriesId, observation.rawOrderKey, located.1.appendSequence, observation.ordinal,
      located.1.frameOrdinal, located.1.frameOffset, located.1.frameLength⟩

structure SegmentDirectories where
  series : List SegmentSeriesEntryV1
  appends : List SegmentAppendEntryV1
  observations : List SegmentObservationEntryV1
  deriving DecidableEq

/-- The blocks one behind the other, each with its run of the recent directory. -/
def blockDirectories : Nat → Nat → List (SeriesId × List SourceFrame) → SegmentDirectories
  | _, _, [] => ⟨[], [], []⟩
  | blockCursor, recentCursor, (seriesId, frames) :: rest =>
    let located := locateFrames seriesId blockCursor 0 frames
    let recent := sortRecent (located.flatMap locateObservations)
    let blockLength := framesLength frames
    let recentLength := recent.length * segmentV1ObservationEntryLen
    let behind := blockDirectories (blockCursor + blockLength) (recentCursor + recentLength) rest
    ⟨⟨seriesId, blockCursor, blockLength, frames.length, recent.length, recentCursor,
        recentLength⟩ :: behind.series,
      located.map (·.1) ++ behind.appends, recent ++ behind.observations⟩

def sortAppends (entries : List FrameLocation) : List FrameLocation :=
  entries.insertionSort fun left right => left.appendSequence ≤ right.appendSequence

def segmentDirectories (layout : SegmentLayout) (grouped : List (SeriesId × List SourceFrame)) :
    SegmentDirectories :=
  let directories := blockDirectories layout.blocksOffset layout.recentOffset grouped
  { directories with appends := sortAppends directories.appends }

/-- Everything before the checksum: header, series directory, blocks, append directory and
recent directory. -/
def segmentBody (storeId : StoreId) (sealed : SealedGeneration) (count : SegmentCounts)
    (layout : SegmentLayout) (grouped : List (SeriesId × List SourceFrame)) : Bytes :=
  let directories := segmentDirectories layout grouped
  (segmentHeaderFields storeId sealed count layout).flatten ++
    (directories.series.flatMap encodeSeriesEntry ++
      (grouped.flatMap (fun group => group.2.flatMap (·.bytes)) ++
        (directories.appends.flatMap encodeAppendEntry ++
          directories.observations.flatMap encodeObservationEntry)))

structure PreparedSegmentV1 where
  bytes : Bytes
  inspection : SegmentV1Inspection
  deriving DecidableEq

/-- The groups of the source and the layout of their segment. -/
def layOutSource (storeId : StoreId) (sealed : SealedGeneration) (source : Bytes) :
    Except SegmentV1Error (SegmentCounts × SegmentLayout × List (SeriesId × List SourceFrame)) := do
  let frames ← scanSource storeId sealed source
  let grouped := groupFrames frames
  let count : SegmentCounts := ⟨frames.length, grouped.length, observationTotal frames⟩
  let layout ← SegmentLayout.new count (source.length - journalV1HeaderLen)
  pure (count, layout, grouped)

def buildSegmentV1 (storeId : StoreId) (sealed : SealedGeneration) (source : Bytes) :
    Except SegmentV1Error PreparedSegmentV1 := do
  let (count, layout, grouped) ← layOutSource storeId sealed source
  let body := segmentBody storeId sealed count layout grouped
  refuse (layout.blocksOffset + (grouped.map fun group => framesLength group.2).sum ≠
      layout.appendOffset ∨
    layout.recentOffset + (segmentDirectories layout grouped).observations.length *
      segmentV1ObservationEntryLen + segmentV1CrcLen ≠ layout.artifactLength) .invalidSource
  pure ⟨withChecksum body, inspection storeId sealed count layout (crc32c body)⟩

end Historian
