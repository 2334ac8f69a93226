import Historian.Admission

namespace Historian

structure DecodedDeclarationV1 where
  storeId : StoreId
  seriesId : SeriesId
  revision : DeclarationRevision
  previousRevision : Option DeclarationRevision
  binding : SeriesBinding
  payload : SeriesDeclarationPayload
  evidence : DeclarationEvidence
  deriving DecidableEq

structure DecodedObservationLineageV1 where
  ordinal : UInt8
  canonicalObservationId : ObservationId
  observation : SourceObservationEvidence
  raw : RawRecordEvidence
  normalized : NormalizedRecordEvidence
  deriving DecidableEq

inductive DecodedEvidenceV1 where
  | observed (observations : List DecodedObservationLineageV1) (gaps : List SourceGapEvidence)
  | noChange
  deriving DecidableEq

/-- A journal record as its bytes say it, before any registry authorises it. -/
structure DecodedAdmissionV1 where
  appendSequence : U64
  storeId : StoreId
  declaration : DecodedDeclarationV1
  envelope : CollectionEnvelope
  retry : RetryQualification
  batch : SourceBatchMetadata
  lifecycle : CaptureLifecycle
  evidence : DecodedEvidenceV1
  deriving DecidableEq

namespace DecodedAdmissionV1

def evidenceKind (admission : DecodedAdmissionV1) : SourceIntervalKind :=
  match admission.evidence with
  | .observed _ _ => .observed
  | .noChange => .noChange

def observations (admission : DecodedAdmissionV1) : List DecodedObservationLineageV1 :=
  match admission.evidence with
  | .observed observations _ => observations
  | .noChange => []

def gaps (admission : DecodedAdmissionV1) : List SourceGapEvidence :=
  match admission.evidence with
  | .observed _ gaps => gaps
  | .noChange => []

end DecodedAdmissionV1

def DecodedObservationLineageV1.evidenceIds (lineage : DecodedObservationLineageV1) :
    List EvidenceId :=
  [lineage.observation.evidenceId, lineage.raw.evidenceId, lineage.normalized.evidenceId]

def allEvidenceIds (admission : DecodedAdmissionV1) : List EvidenceId :=
  admission.lifecycle.evidenceIds ++ admission.observations.flatMap (·.evidenceIds)

/-- The decoded record of an admission: the same data, field for field. -/
def SeriesDeclaration.mirror (declaration : SeriesDeclaration) : DecodedDeclarationV1 :=
  ⟨declaration.storeId, declaration.seriesId, declaration.revision, declaration.previousRevision,
    declaration.binding, declaration.payload, declaration.evidence⟩

def SourceObservationLineage.mirror (lineage : SourceObservationLineage) :
    DecodedObservationLineageV1 :=
  ⟨lineage.ordinal, lineage.canonicalObservationId, lineage.observation, lineage.raw,
    lineage.normalized⟩

def AdmissionEvidence.mirror : AdmissionEvidence → DecodedEvidenceV1
  | .observed observations gaps => .observed (observations.map (·.mirror)) gaps
  | .noChange => .noChange

def CanonicalAdmission.mirror (admission : CanonicalAdmission) (appendSequence : U64) :
    DecodedAdmissionV1 :=
  ⟨appendSequence, admission.storeId, admission.declaration.mirror, admission.envelope,
    admission.retry, admission.batch, admission.lifecycle, admission.evidence.mirror⟩

end Historian
