import Historian.Registry

namespace Historian

open Checks

def maxSourceObservationContexts : Nat := maxObservations
def maxSourceGapContexts : Nat := maxGaps

inductive RetryClassification where
  | equivalent | conflict | distinct
  deriving DecidableEq, Repr

structure RetryQualification where
  seriesId : SeriesId
  producerId : ProducerId
  key : RetryKey
  content : ContentIdentity
  deriving DecidableEq

def RetryQualification.classify (self other : RetryQualification) : RetryClassification :=
  if self.seriesId ≠ other.seriesId ∨ self.producerId ≠ other.producerId ∨ self.key ≠ other.key then
    .distinct
  else if self.content = other.content then .equivalent
  else .conflict

structure SourceSchemaVersion where
  value : U128
  positive : 0 < value.val

instance : DecidableEq SourceSchemaVersion := fun left right =>
  decidable_of_iff (left.value = right.value) (by cases left; cases right; simp)

def SourceSchemaVersion.new (value : U128) : Except ModelError SourceSchemaVersion :=
  if h : 0 < value.val then .ok ⟨value, h⟩ else .error .invalidSourceSchemaVersion

inductive SourceIntervalKind where
  | observed | noChange
  deriving DecidableEq, Repr

structure SourceBatchMetadata where
  schema : SourceSchemaIdentity
  version : SourceSchemaVersion
  interval : SourceIntervalKind
  deriving DecidableEq

structure SourceSystemEvidence where
  evidenceId : EvidenceId
  provider : DeclarationReference
  projection : SourceProjection
  deriving DecidableEq

structure SourceEndpointEvidence where
  evidenceId : EvidenceId
  systemId : EvidenceId
  locator : DeclarationReference
  deriving DecidableEq

structure CaptureRunEvidence where
  evidenceId : EvidenceId
  endpointId : EvidenceId
  startedAt : Timestamp
  completedAt : Option Timestamp
  ordered : ∀ completed ∈ completedAt, completed.lt startedAt = false
  deriving DecidableEq

def CaptureRunEvidence.new (evidenceId endpointId : EvidenceId) (startedAt : Timestamp)
    (completedAt : Option Timestamp) : Except ModelError CaptureRunEvidence :=
  if h : ∀ completed ∈ completedAt, completed.lt startedAt = false then
    .ok ⟨evidenceId, endpointId, startedAt, completedAt, h⟩
  else .error .captureRunTimeOrder

structure SourceSnapshotEvidence where
  evidenceId : EvidenceId
  runId : EvidenceId
  artifact : ArtifactReference
  deriving DecidableEq

/-- System, endpoint, run and snapshot, each linked to the one before it. -/
structure CaptureLifecycle where
  system : SourceSystemEvidence
  endpoint : SourceEndpointEvidence
  run : CaptureRunEvidence
  snapshot : SourceSnapshotEvidence
  endpointLinked : endpoint.systemId = system.evidenceId
  runLinked : run.endpointId = endpoint.evidenceId
  snapshotLinked : snapshot.runId = run.evidenceId
  deriving DecidableEq

def CaptureLifecycle.new (system : SourceSystemEvidence) (endpoint : SourceEndpointEvidence)
    (run : CaptureRunEvidence) (snapshot : SourceSnapshotEvidence) :
    Except ModelError CaptureLifecycle :=
  if hs : endpoint.systemId = system.evidenceId then
    if he : run.endpointId = endpoint.evidenceId then
      if hr : snapshot.runId = run.evidenceId then
        .ok ⟨system, endpoint, run, snapshot, hs, he, hr⟩
      else .error .sourceSnapshotRunMismatch
    else .error .captureRunEndpointMismatch
  else .error .sourceEndpointSystemMismatch

structure SourceIdempotency where
  key : RetryKey
  content : ContentIdentity
  deriving DecidableEq

inductive SourceTransport where
  | new | redelivered
  deriving DecidableEq, Repr

structure SourceInterpretation where
  source : SourceReference
  application : Option DeclarationReference
  quantity : QuantityEvidence
  unit : UnitEvidence
  deriving DecidableEq

structure SourceObservationEvidence where
  evidenceId : EvidenceId
  provenanceArtifact : Option ArtifactReference
  transport : SourceTransport
  idempotency : Option SourceIdempotency
  deriving DecidableEq

structure RawRecordEvidence where
  evidenceId : EvidenceId
  snapshotId : EvidenceId
  artifact : ArtifactReference
  idempotency : Option SourceIdempotency
  deriving DecidableEq

structure NormalizedRecordEvidence where
  evidenceId : EvidenceId
  rawRecordId : EvidenceId
  content : ContentIdentity
  observationEvidenceId : EvidenceId
  deriving DecidableEq

/-- What is retained of an observation's source evidence once it is admitted. -/
structure SourceObservationLineage where
  ordinal : UInt8
  canonicalObservationId : ObservationId
  observation : SourceObservationEvidence
  raw : RawRecordEvidence
  normalized : NormalizedRecordEvidence
  deriving DecidableEq

structure SourceObservationContext where
  ordinal : UInt8
  canonicalObservationId : ObservationId
  interpretation : SourceInterpretation
  observation : SourceObservationEvidence
  raw : RawRecordEvidence
  normalized : NormalizedRecordEvidence
  deriving DecidableEq

inductive SourceGapReason where
  | communicationFailure | sourceUnavailable | producerReset | filtered | unknown
  deriving DecidableEq, Repr

structure SourceGapEvidence where
  epoch : U128
  start : U128
  stop : U128
  reason : SourceGapReason
  nonempty : start < stop

instance : DecidableEq SourceGapEvidence := fun left right =>
  decidable_of_iff (left.epoch = right.epoch ∧ left.start = right.start ∧
    left.stop = right.stop ∧ left.reason = right.reason) (by cases left; cases right; simp)

def SourceGapEvidence.new (epoch start stop : U128) (reason : SourceGapReason) :
    Except ModelError SourceGapEvidence :=
  if h : start < stop then .ok ⟨epoch, start, stop, reason, h⟩ else .error .emptyGap

theorem SourceSchemaVersion.new_ok {value : U128} {version : SourceSchemaVersion} :
    SourceSchemaVersion.new value = .ok version ↔ value = version.value := by
  unfold SourceSchemaVersion.new
  rw [dite_ok]
  constructor
  · rintro ⟨h, rfl⟩
    rfl
  · rintro rfl
    exact ⟨version.positive, rfl⟩

theorem CaptureRunEvidence.new_ok {evidenceId endpointId : EvidenceId} {startedAt : Timestamp}
    {completedAt : Option Timestamp} {run : CaptureRunEvidence} :
    CaptureRunEvidence.new evidenceId endpointId startedAt completedAt = .ok run ↔
      evidenceId = run.evidenceId ∧ endpointId = run.endpointId ∧ startedAt = run.startedAt ∧
        completedAt = run.completedAt := by
  unfold CaptureRunEvidence.new
  rw [dite_ok]
  constructor
  · rintro ⟨h, rfl⟩
    exact ⟨rfl, rfl, rfl, rfl⟩
  · rintro ⟨rfl, rfl, rfl, rfl⟩
    exact ⟨run.ordered, rfl⟩

theorem CaptureLifecycle.new_ok {system : SourceSystemEvidence} {endpoint : SourceEndpointEvidence}
    {run : CaptureRunEvidence} {snapshot : SourceSnapshotEvidence} {lifecycle : CaptureLifecycle} :
    CaptureLifecycle.new system endpoint run snapshot = .ok lifecycle ↔
      system = lifecycle.system ∧ endpoint = lifecycle.endpoint ∧ run = lifecycle.run ∧
        snapshot = lifecycle.snapshot := by
  unfold CaptureLifecycle.new
  constructor
  · intro h
    split at h
    next hs =>
      split at h
      next he =>
        split at h
        next hr => cases Except.ok.inj h; exact ⟨rfl, rfl, rfl, rfl⟩
        next => cases h
      next => cases h
    next => cases h
  · rintro ⟨rfl, rfl, rfl, rfl⟩
    rw [dif_pos lifecycle.endpointLinked, dif_pos lifecycle.runLinked,
      dif_pos lifecycle.snapshotLinked]

theorem SourceGapEvidence.new_ok {epoch start stop : U128} {reason : SourceGapReason}
    {gap : SourceGapEvidence} :
    SourceGapEvidence.new epoch start stop reason = .ok gap ↔
      epoch = gap.epoch ∧ start = gap.start ∧ stop = gap.stop ∧ reason = gap.reason := by
  unfold SourceGapEvidence.new
  rw [dite_ok]
  constructor
  · rintro ⟨h, rfl⟩
    exact ⟨rfl, rfl, rfl, rfl⟩
  · rintro ⟨rfl, rfl, rfl, rfl⟩
    exact ⟨gap.nonempty, rfl⟩

end Historian
