import Historian.SourceEvidence

namespace Historian

open Checks

inductive AdmissionEvidence where
  | observed (observations : List SourceObservationLineage) (gaps : List SourceGapEvidence)
  | noChange
  deriving DecidableEq

structure CanonicalAdmission where
  storeId : StoreId
  declaration : SeriesDeclaration
  envelope : CollectionEnvelope
  retry : RetryQualification
  batch : SourceBatchMetadata
  lifecycle : CaptureLifecycle
  evidence : AdmissionEvidence
  deriving DecidableEq

def EvidenceKind.interval : EvidenceKind → SourceIntervalKind
  | .observed => .observed
  | .noChange => .noChange

def validateCommon (declared : DeclaredCollectionEnvelope) (retry : RetryQualification)
    (batch : SourceBatchMetadata) (lifecycle : CaptureLifecycle)
    (expectedInterval : SourceIntervalKind) : Except ModelError Unit := do
  let envelope := declared.envelope
  refuse (retry.seriesId ≠ envelope.series.seriesId ∨ retry.producerId ≠ envelope.series.producerId)
    .admissionRetryScopeMismatch
  refuse (batch.interval ≠ expectedInterval ∨ envelope.evidenceKind.interval ≠ expectedInterval)
    .sourceIntervalMismatch
  let source := declared.declaration.binding.source
  match source.projection with
  | none => .error .sourceProjectionRequired
  | some projection =>
    refuse (lifecycle.system.provider ≠ source.provider ∨
      lifecycle.system.projection ≠ projection ∨ lifecycle.endpoint.locator ≠ source.locator)
      .sourceLifecycleBindingMismatch

instance lawfulBEq_evidenceId : LawfulBEq EvidenceId := inferInstance

/-- Add identities to the set of those already used; the first reuse is refused. -/
def insertEvidenceIds : List EvidenceId → List EvidenceId → Except ModelError (List EvidenceId)
  | used, [] => .ok used
  | used, evidenceId :: rest => do
    refuse (evidenceId ∈ used) .duplicateSourceEvidenceId
    insertEvidenceIds (evidenceId :: used) rest

def CaptureLifecycle.evidenceIds (lifecycle : CaptureLifecycle) : List EvidenceId :=
  [lifecycle.system.evidenceId, lifecycle.endpoint.evidenceId, lifecycle.run.evidenceId,
    lifecycle.snapshot.evidenceId]

def lifecycleEvidenceIds (lifecycle : CaptureLifecycle) : Except ModelError (List EvidenceId) :=
  insertEvidenceIds [] lifecycle.evidenceIds

/-- One pass over the contexts paired with the canonical observations. -/
def validateObservations (declaration : SeriesDeclaration) (lifecycle : CaptureLifecycle) :
    List EvidenceId → Option UInt8 → List SourceObservationContext → List Observation →
      Except ModelError Unit
  | _, _, [], _ => .ok ()
  | _, _, _ :: _, [] => .ok ()
  | used, previousOrdinal, context :: contexts, canonical :: observations => do
    refuse (context.canonicalObservationId ≠ canonical.observationId)
      .sourceObservationAssociationMismatch
    refuse (∃ previous ∈ previousOrdinal, context.ordinal ≤ previous)
      .misorderedSourceRecordOrdinals
    refuse (context.interpretation.source ≠ declaration.binding.source ∨
      context.interpretation.application ≠ declaration.payload.application ∨
      context.interpretation.quantity ≠ declaration.payload.quantity ∨
      context.interpretation.unit ≠ declaration.payload.unit) .sourceInterpretationMismatch
    let used ← insertEvidenceIds used
      [context.observation.evidenceId, context.raw.evidenceId, context.normalized.evidenceId]
    refuse (context.raw.snapshotId ≠ lifecycle.snapshot.evidenceId) .sourceRawSnapshotMismatch
    refuse (context.normalized.rawRecordId ≠ context.raw.evidenceId) .sourceNormalizedRawMismatch
    refuse (context.normalized.observationEvidenceId ≠ context.observation.evidenceId)
      .sourceNormalizedObservationMismatch
    refuse (∃ idempotency ∈ context.raw.idempotency,
      idempotency.content ≠ context.raw.artifact.content) .sourceRawIdempotencyMismatch
    validateObservations declaration lifecycle used (some context.ordinal) contexts observations

def Gap.sameRange (canonical : Gap) (source : SourceGapEvidence) : Bool :=
  canonical.epoch == source.epoch && canonical.start == source.start &&
    canonical.stop == source.stop

def validateGaps (envelope : CollectionEnvelope) (gaps : List SourceGapEvidence) :
    Except ModelError Unit :=
  refuse ((envelope.gaps.zip gaps).any (fun pair => !pair.1.sameRange pair.2) = true)
    .sourceGapMismatch

def SourceObservationContext.retained (context : SourceObservationContext) :
    SourceObservationLineage :=
  ⟨context.ordinal, context.canonicalObservationId, context.observation, context.raw,
    context.normalized⟩

def CanonicalAdmission.observed (declared : DeclaredCollectionEnvelope)
    (retry : RetryQualification) (batch : SourceBatchMetadata) (lifecycle : CaptureLifecycle)
    (observations : List SourceObservationContext) (gaps : List SourceGapEvidence) :
    Except ModelError CanonicalAdmission := do
  validateCommon declared retry batch lifecycle .observed
  let envelope := declared.envelope
  refuse (maxSourceObservationContexts < observations.length) .tooManySourceObservationContexts
  refuse (observations.length ≠ envelope.observations.length) .sourceObservationCountMismatch
  refuse (maxSourceGapContexts < gaps.length) .tooManySourceGapContexts
  refuse (gaps.length ≠ envelope.gaps.length) .sourceGapCountMismatch
  let used ← lifecycleEvidenceIds lifecycle
  validateObservations declared.declaration lifecycle used none observations envelope.observations
  validateGaps envelope gaps
  pure ⟨declared.storeId, declared.declaration, envelope, retry, batch, lifecycle,
    .observed (observations.map (·.retained)) gaps⟩

def CanonicalAdmission.noChange (declared : DeclaredCollectionEnvelope)
    (retry : RetryQualification) (batch : SourceBatchMetadata) (lifecycle : CaptureLifecycle) :
    Except ModelError CanonicalAdmission := do
  validateCommon declared retry batch lifecycle .noChange
  let _used ← lifecycleEvidenceIds lifecycle
  pure ⟨declared.storeId, declared.declaration, declared.envelope, retry, batch, lifecycle,
    .noChange⟩

namespace CanonicalAdmission

def evidenceKind (admission : CanonicalAdmission) : SourceIntervalKind :=
  match admission.evidence with
  | .observed _ _ => .observed
  | .noChange => .noChange

def observations (admission : CanonicalAdmission) : List SourceObservationLineage :=
  match admission.evidence with
  | .observed observations _ => observations
  | .noChange => []

def gaps (admission : CanonicalAdmission) : List SourceGapEvidence :=
  match admission.evidence with
  | .observed _ gaps => gaps
  | .noChange => []

end CanonicalAdmission

end Historian
