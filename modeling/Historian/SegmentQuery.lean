import Historian.SegmentParse
import Historian.BinarySearch

namespace Historian

open Wire Checks

def maxSegmentQueryResultsV1 : Nat := 16

inductive SegmentObservationQueryV1Error where
  | invalidLimit | inconsistentSegment
  deriving DecidableEq, Repr

structure SegmentObservationQueryV1 where
  seriesId : SeriesId
  interval : Option TimeInterval
  limit : Nat
  bounded : limit ≠ 0 ∧ limit ≤ maxSegmentQueryResultsV1
  deriving DecidableEq

def SegmentObservationQueryV1.new (seriesId : SeriesId) (interval : Option TimeInterval)
    (limit : Nat) : Except SegmentObservationQueryV1Error SegmentObservationQueryV1 :=
  if h : limit ≠ 0 ∧ limit ≤ maxSegmentQueryResultsV1 then .ok ⟨seriesId, interval, limit, h⟩
  else .error .invalidLimit

/-- Whether an effective time passes the filter of a query. -/
def SegmentObservationQueryV1.admits (query : SegmentObservationQueryV1)
    (effective : Timestamp) : Bool :=
  query.interval.all (·.contains effective)

structure SegmentObservationQueryItemV1 where
  entry : SegmentObservationEntryV1
  admission : DecodedAdmissionV1
  observationIndex : Nat
  deriving DecidableEq

namespace SegmentObservationQueryItemV1

def observation (item : SegmentObservationQueryItemV1) : Option Observation :=
  item.admission.envelope.observations[item.observationIndex]?

def lineage (item : SegmentObservationQueryItemV1) : Option DecodedObservationLineageV1 :=
  item.admission.observations[item.observationIndex]?

end SegmentObservationQueryItemV1

structure SegmentObservationQueryResultV1 where
  seriesId : SeriesId
  interval : Option TimeInterval
  requestedLimit : Nat
  items : List SegmentObservationQueryItemV1
  isTruncated : Bool
  deriving DecidableEq

abbrev DecodedFrames := List (U64 × DecodedAdmissionV1)

abbrev QueryM := Except SegmentObservationQueryV1Error

/-- The record of an indexed frame, decoded unless it has been before. -/
def SegmentV1.openFrame (segment : SegmentV1) (decodedFrames : DecodedFrames)
    (append : SegmentAppendEntryV1) : QueryM (DecodedAdmissionV1 × DecodedFrames) :=
  match decodedFrames.find? (·.1 = append.appendSequence) with
  | some (_, decoded) => pure (decoded, decodedFrames)
  | none =>
    match checkedSlice segment.bytes append.frameOffset append.frameLength with
    | none => .error .inconsistentSegment
    | some frame => do
      let decoded ← (decodeAdmissionFrameV1 frame .maximum none).mapError
        fun _ => SegmentObservationQueryV1Error.inconsistentSegment
      pure (decoded, decodedFrames ++ [(append.appendSequence, decoded)])

/-- One entry of the recent directory against the frame that it names. -/
def SegmentV1.openEntry (segment : SegmentV1) (query : SegmentObservationQueryV1)
    (decodedFrames : DecodedFrames) (entry : SegmentObservationEntryV1) :
    QueryM (SegmentObservationQueryItemV1 × DecodedFrames) :=
  match BinarySearch.find (fun append : SegmentAppendEntryV1 =>
    compare append.appendSequence entry.appendSequence) segment.appends with
  | none => .error .inconsistentSegment
  | some append => do
    refuse (append.appendSequence ≠ entry.appendSequence ∨ append.seriesId ≠ entry.seriesId ∨
      append.frameOffset ≠ entry.frameOffset ∨ append.frameLength ≠ entry.frameLength ∨
      append.frameOrdinal ≠ entry.frameOrdinal) .inconsistentSegment
    let (admission, decodedFrames) ← segment.openFrame decodedFrames append
    refuse (admission.appendSequence ≠ append.appendSequence ∨
      admission.storeId ≠ segment.inspection.storeId ∨
      admission.declaration.storeId ≠ segment.inspection.storeId ∨
      admission.declaration.seriesId ≠ query.seriesId ∨
      admission.envelope.series.seriesId ≠ query.seriesId ∨
      admission.retry.seriesId ≠ query.seriesId) .inconsistentSegment
    refuse (256 ≤ entry.observationOrdinal) .inconsistentSegment
    match admission.envelope.observations[entry.observationOrdinal]?,
      admission.observations[entry.observationOrdinal]? with
    | some observation, some lineage => do
      refuse (observation.rawOrderKey ≠ entry.rawOrderKey ∨
        observation.observationId ≠ entry.rawOrderKey.observationId ∨
        lineage.canonicalObservationId ≠ observation.observationId ∨
        lineage.raw.snapshotId ≠ admission.lifecycle.snapshot.evidenceId ∨
        lineage.normalized.rawRecordId ≠ lineage.raw.evidenceId ∨
        lineage.normalized.observationEvidenceId ≠ lineage.observation.evidenceId)
        .inconsistentSegment
      pure (⟨entry, admission, entry.observationOrdinal⟩, decodedFrames)
    | _, _ => .error .inconsistentSegment

/-- The walk over the entries of a series, until one more than the limit would be selected. -/
def SegmentV1.walkEntries (segment : SegmentV1) (query : SegmentObservationQueryV1) :
    List SegmentObservationEntryV1 → List SegmentObservationQueryItemV1 → DecodedFrames →
      QueryM (List SegmentObservationQueryItemV1 × Bool)
  | [], items, _ => pure (items, false)
  | entry :: rest, items, decodedFrames => do
    refuse (entry.seriesId ≠ query.seriesId) .inconsistentSegment
    if query.admits entry.rawOrderKey.effective = false then
      segment.walkEntries query rest items decodedFrames
    else if items.length = query.limit then pure (items, true)
    else do
      let (item, decodedFrames) ← segment.openEntry query decodedFrames entry
      segment.walkEntries query rest (items ++ [item]) decodedFrames

def SegmentV1.queryObservationsV1 (segment : SegmentV1) (query : SegmentObservationQueryV1) :
    QueryM SegmentObservationQueryResultV1 :=
  let result (items : List SegmentObservationQueryItemV1) (isTruncated : Bool) :
      SegmentObservationQueryResultV1 :=
    ⟨query.seriesId, query.interval, query.limit, items, isTruncated⟩
  match BinarySearch.find (fun entry : SegmentSeriesEntryV1 =>
    compare entry.seriesId.bytes query.seriesId.bytes) segment.series with
  | none => pure (result [] false)
  | some series => do
    refuse (series.recentOffset < segment.inspection.recentDirectoryOffset) .inconsistentSegment
    let relativeOffset := series.recentOffset - segment.inspection.recentDirectoryOffset
    refuse (relativeOffset % segmentV1ObservationEntryLen ≠ 0) .inconsistentSegment
    let start := relativeOffset / segmentV1ObservationEntryLen
    let count := series.observationCount
    refuse (series.recentLength ≠ count * segmentV1ObservationEntryLen) .inconsistentSegment
    refuse (segment.observations.length < start + count) .inconsistentSegment
    let entries := (segment.observations.drop start).take count
    if entries = [] then pure (result [] false)
    else do
      let (items, isTruncated) ← segment.walkEntries query entries [] []
      pure (result items isTruncated)

end Historian
