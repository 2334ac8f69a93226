import Historian.GenerationCatalog
import Historian.JournalFrame
import Historian.ActiveJournal

namespace Historian

open Wire Checks

def segmentV1Magic : Bytes := [0x4f, 0x43, 0x48, 0x53, 0x45, 0x47, 0x30, 0x31]
def segmentV1Version : Nat := 1
def segmentV1HeaderLen : Nat := 192
def segmentV1SeriesEntryLen : Nat := 64
def segmentV1AppendEntryLen : Nat := 48
def segmentV1ObservationEntryLen : Nat := 96
def segmentV1CrcLen : Nat := 4
def segmentFlagsNone : Nat := 0
def maxSegmentV1Series : Nat := maxActiveJournalRecords
def maxSegmentV1Observations : Nat := maxActiveJournalRecords * maxSourceObservationContexts
def maxSegmentV1Bytes : Nat :=
  segmentV1HeaderLen + segmentV1SeriesEntryLen * maxSegmentV1Series +
    (maxActiveJournalBytes - journalV1HeaderLen) +
    segmentV1AppendEntryLen * maxActiveJournalRecords +
    segmentV1ObservationEntryLen * maxSegmentV1Observations + segmentV1CrcLen

inductive SegmentV1Error where
  | invalidSource | invalidSegment | storeMismatch | bounds
  deriving DecidableEq, Repr

def Timestamp.cmp (a b : Timestamp) : Ordering :=
  (compare a.unixSeconds b.unixSeconds).then (compare a.nanosecond b.nanosecond)

def TimeInterval.contains (interval : TimeInterval) (timestamp : Timestamp) : Bool :=
  (interval.start.cmp timestamp).isLE && timestamp.cmp interval.stop == .lt

/-- Ordered by effective time, then receive time, then observation id. -/
structure RawObservationOrderKey where
  effective : Timestamp
  receive : Timestamp
  observationId : ObservationId
  deriving DecidableEq

def RawObservationOrderKey.cmp (a b : RawObservationOrderKey) : Ordering :=
  (a.effective.cmp b.effective).then
    ((a.receive.cmp b.receive).then (compare a.observationId.bytes b.observationId.bytes))

def Observation.rawOrderKey (observation : Observation) : RawObservationOrderKey :=
  ⟨observation.times.effective, observation.times.receive, observation.observationId⟩

structure SegmentSeriesEntryV1 where
  seriesId : SeriesId
  blockOffset : Nat
  blockLength : Nat
  frameCount : Nat
  observationCount : Nat
  recentOffset : Nat
  recentLength : Nat
  deriving DecidableEq

/-- An entry of the append directory, and what the builder and the parser compute for it. -/
structure SegmentAppendEntryV1 where
  appendSequence : U64
  seriesId : SeriesId
  frameOffset : Nat
  frameLength : Nat
  frameOrdinal : Nat
  deriving DecidableEq

abbrev FrameLocation := SegmentAppendEntryV1

/-- An entry of the recent directory, and what the builder and the parser compute for it. -/
structure SegmentObservationEntryV1 where
  seriesId : SeriesId
  rawOrderKey : RawObservationOrderKey
  appendSequence : U64
  observationOrdinal : Nat
  frameOrdinal : Nat
  frameOffset : Nat
  frameLength : Nat
  deriving DecidableEq

abbrev ObservationLocation := SegmentObservationEntryV1

def recentOrder (left right : ObservationLocation) : Ordering :=
  (right.rawOrderKey.cmp left.rawOrderKey).then
    ((compare right.appendSequence left.appendSequence).then
      (compare left.observationOrdinal right.observationOrdinal))

def sortRecent (entries : List ObservationLocation) : List ObservationLocation :=
  entries.insertionSort fun left right => (recentOrder left right).isLE

structure SegmentCounts where
  frames : Nat
  series : Nat
  observations : Nat
  deriving DecidableEq

structure SegmentLayout where
  seriesOffset : Nat
  seriesLength : Nat
  blocksOffset : Nat
  blocksLength : Nat
  appendOffset : Nat
  appendLength : Nat
  recentOffset : Nat
  recentLength : Nat
  artifactLength : Nat
  deriving DecidableEq

/-- No sum below can leave the machine word once the first check has passed. -/
def SegmentLayout.new (count : SegmentCounts) (blocksLength : Nat) :
    Except SegmentV1Error SegmentLayout := do
  refuse (count.frames = 0 ∨ maxActiveJournalRecords < count.frames ∨ count.series = 0 ∨
    maxSegmentV1Series < count.series ∨ count.frames < count.series ∨
    maxSegmentV1Observations < count.observations ∨ blocksLength = 0 ∨
    maxActiveJournalBytes - journalV1HeaderLen < blocksLength) .bounds
  let seriesLength := count.series * segmentV1SeriesEntryLen
  let blocksOffset := segmentV1HeaderLen + seriesLength
  let appendOffset := blocksOffset + blocksLength
  let appendLength := count.frames * segmentV1AppendEntryLen
  let recentOffset := appendOffset + appendLength
  let recentLength := count.observations * segmentV1ObservationEntryLen
  let artifactLength := recentOffset + recentLength + segmentV1CrcLen
  refuse (maxSegmentV1Bytes < artifactLength) .bounds
  pure ⟨segmentV1HeaderLen, seriesLength, blocksOffset, blocksLength, appendOffset, appendLength,
    recentOffset, recentLength, artifactLength⟩

structure SegmentV1Inspection where
  storeId : StoreId
  sourceJournalGeneration : U64
  sequenceFloor : U64
  sequenceCutoff : U64
  sourceRegistryGeneration : U64
  sourceEndOffset : U64
  sourceArtifactLength : U64
  sourceArtifactChecksum : U32
  frameCount : Nat
  seriesCount : Nat
  observationCount : Nat
  seriesDirectoryOffset : Nat
  seriesDirectoryLength : Nat
  blockRegionOffset : Nat
  blockRegionLength : Nat
  appendDirectoryOffset : Nat
  appendDirectoryLength : Nat
  recentDirectoryOffset : Nat
  recentDirectoryLength : Nat
  artifactLength : Nat
  artifactChecksum : U32
  deriving DecidableEq

def inspection (storeId : StoreId) (sealed : SealedGeneration) (count : SegmentCounts)
    (layout : SegmentLayout) (artifactChecksum : U32) : SegmentV1Inspection :=
  ⟨storeId, sealed.journalGeneration, sealed.sequenceFloor,
    sealed.sequenceCutoff, sealed.registryGeneration, sealed.endOffset,
    sealed.artifactLength, sealed.artifactChecksum, count.frames, count.series,
    count.observations, layout.seriesOffset, layout.seriesLength, layout.blocksOffset,
    layout.blocksLength, layout.appendOffset, layout.appendLength, layout.recentOffset,
    layout.recentLength, layout.artifactLength, artifactChecksum⟩

/-- The sealed record that a header states. -/
def SegmentV1Inspection.sealedGeneration (inspection : SegmentV1Inspection) : SealedGeneration :=
  ⟨inspection.sourceJournalGeneration, inspection.sequenceFloor, inspection.sequenceCutoff,
    inspection.sourceEndOffset, inspection.sourceRegistryGeneration,
    inspection.sourceArtifactLength, inspection.sourceArtifactChecksum⟩

/-- The fields of the header, in order of their offsets. -/
def segmentHeaderFields (storeId : StoreId) (sealed : SealedGeneration) (count : SegmentCounts)
    (layout : SegmentLayout) : List Bytes :=
  [segmentV1Magic, toBE 2 segmentV1Version, toBE 2 segmentV1HeaderLen, toBE 4 segmentFlagsNone,
    storeId.bytes, toBE 8 sealed.journalGeneration, toBE 8 sealed.sequenceFloor,
    toBE 8 sealed.sequenceCutoff, toBE 8 sealed.registryGeneration,
    toBE 8 sealed.endOffset, toBE 8 sealed.artifactLength,
    toBE 4 sealed.artifactChecksum, toBE 4 count.frames, toBE 4 count.series,
    toBE 4 count.observations, toBE 8 layout.seriesOffset, toBE 8 layout.seriesLength,
    toBE 8 layout.blocksOffset, toBE 8 layout.blocksLength, toBE 8 layout.appendOffset,
    toBE 8 layout.appendLength, toBE 8 layout.recentOffset, toBE 8 layout.recentLength,
    toBE 8 layout.artifactLength, zeros 24]

def seriesEntryFields (entry : SegmentSeriesEntryV1) : List Bytes :=
  [entry.seriesId.bytes, toBE 8 entry.blockOffset, toBE 8 entry.blockLength,
    toBE 4 entry.frameCount, toBE 4 entry.observationCount, toBE 8 entry.recentOffset,
    toBE 8 entry.recentLength, zeros 8]

def encodeSeriesEntry (entry : SegmentSeriesEntryV1) : Bytes := (seriesEntryFields entry).flatten

def appendEntryFields (entry : FrameLocation) : List Bytes :=
  [toBE 8 entry.appendSequence, entry.seriesId.bytes, toBE 8 entry.frameOffset,
    toBE 8 entry.frameLength, toBE 4 entry.frameOrdinal, zeros 4]

def encodeAppendEntry (entry : FrameLocation) : Bytes := (appendEntryFields entry).flatten

/-- The bits of a signed word. -/
def secondBits (seconds : Int64) : U64 := seconds.toBitVec.toFin

def observationEntryFields (entry : ObservationLocation) : List Bytes :=
  [entry.seriesId.bytes, toBE 8 (secondBits entry.rawOrderKey.effective.unixSeconds),
    toBE 4 entry.rawOrderKey.effective.nanosecond,
    toBE 8 (secondBits entry.rawOrderKey.receive.unixSeconds),
    toBE 4 entry.rawOrderKey.receive.nanosecond, entry.rawOrderKey.observationId.bytes,
    toBE 8 entry.appendSequence, toBE 4 entry.observationOrdinal, toBE 4 entry.frameOrdinal,
    toBE 8 entry.frameOffset, toBE 8 entry.frameLength, zeros 8]

def encodeObservationEntry (entry : ObservationLocation) : Bytes :=
  (observationEntryFields entry).flatten

end Historian
