import Historian.JournalWire
import Historian.Decoded

namespace Historian

open Wire

def encodeIdentity {family : IdentityFamily} (id : Identity family) : Enc Unit := put id.bytes

def encodeStoreId : StoreId → Enc Unit := encodeIdentity
def encodeSeriesId : SeriesId → Enc Unit := encodeIdentity
def encodeProducerId : ProducerId → Enc Unit := encodeIdentity
def encodeObservationId : ObservationId → Enc Unit := encodeIdentity
def encodeArtifactId : ArtifactId → Enc Unit := encodeIdentity
def encodeEvidenceId : EvidenceId → Enc Unit := encodeIdentity

/-- Every optional field is a presence flag, then the value. -/
def encodeOptional {α : Type} (enc : α → Enc Unit) : Option α → Enc Unit :=
  encodeOption encodeFlag enc

def encodeReference (reference : DeclarationReference) : Enc Unit := encodeString reference.value

def CollectionMode.tag : CollectionMode → UInt8
  | .sampled => 1 | .changeOnly => 2 | .cumulative => 3 | .interval => 4 | .event => 5

def ValueFamily.tag : ValueFamily → UInt8
  | .real => 1 | .signed => 2 | .unsigned => 3 | .boolean => 4 | .state => 5 | .text => 6
  | .artifact => 7

def SourceIntervalKind.tag : SourceIntervalKind → UInt8
  | .observed => 1 | .noChange => 2

def QualityLevel.tag : QualityLevel → UInt8
  | .unknown => 1 | .good => 2 | .uncertain => 3 | .bad => 4 | .notEvaluated => 5

def GapReason.tag : GapReason → UInt8
  | .unknown => 1 | .producerRestart => 2 | .bufferOverflow => 3 | .communicationFailure => 4
  | .sourceDataLoss => 5 | .administrativeExclusion => 6

def SourceGapReason.tag : SourceGapReason → UInt8
  | .communicationFailure => 1 | .sourceUnavailable => 2 | .producerReset => 3 | .filtered => 4
  | .unknown => 5

def SourceTransport.tag : SourceTransport → UInt8
  | .new => 1 | .redelivered => 2

def encodeCollectionMode (mode : CollectionMode) : Enc Unit := encodeU8 mode.tag
def encodeValueFamily (family : ValueFamily) : Enc Unit := encodeU8 family.tag
def encodeSourceIntervalKind (kind : SourceIntervalKind) : Enc Unit := encodeU8 kind.tag

def encodeTimestamp (timestamp : Timestamp) : Enc Unit := do
  encodeI64 timestamp.unixSeconds
  encodeU32 timestamp.nanosecond

def encodeTimeInterval (interval : TimeInterval) : Enc Unit := do
  encodeTimestamp interval.start
  encodeTimestamp interval.stop

def encodeOptionalTimestamp : Option Timestamp → Enc Unit := encodeOptional encodeTimestamp
def encodeOptionalInterval : Option TimeInterval → Enc Unit := encodeOptional encodeTimeInterval

def encodeOptionalPosition : Option ProducerPosition → Enc Unit :=
  encodeOptional fun position => do
    encodeU128 position.epoch
    encodeU128 position.sequence

def encodeContent (content : ContentIdentity) : Enc Unit := do
  encodeString content.format.value
  encodeU128 content.version
  put content.sha256

def encodeArtifact (artifact : ArtifactReference) : Enc Unit := do
  encodeArtifactId artifact.artifactId
  encodeContent artifact.content

def encodeOptionalArtifact : Option ArtifactReference → Enc Unit := encodeOptional encodeArtifact

def encodeOptionalIdempotency : Option SourceIdempotency → Enc Unit :=
  encodeOptional fun evidence => do
    encodeString evidence.key.value
    encodeContent evidence.content

def encodeOptionalRevision : Option DeclarationRevision → Enc Unit :=
  encodeOptional fun revision => encodeU128 revision.value

def encodeOptionalDeclarationReference : Option DeclarationReference → Enc Unit :=
  encodeOptional encodeReference

def encodeSourceReference (source : SourceReference) : Enc Unit := do
  encodeString source.provider.value
  encodeOptional encodeReference source.projection
  encodeString source.locator.value

def encodeBinding (binding : SeriesBinding) : Enc Unit := encodeSourceReference binding.source

def encodeQuantity : QuantityEvidence → Enc Unit
  | .absent => encodeU8 0
  | .resolved reference => do
    encodeU8 1
    encodeString reference.value
  | .unresolved reference => do
    encodeU8 2
    encodeString reference.value

def encodeUnit : UnitEvidence → Enc Unit
  | .absent => encodeU8 0
  | .resolved reference => do
    encodeU8 1
    encodeString reference.value
  | .unresolved reference => do
    encodeU8 2
    encodeString reference.value

def encodeDeclarationPayload (payload : SeriesDeclarationPayload) : Enc Unit := do
  encodeProducerId payload.producerId
  encodeCollectionMode payload.collectionMode
  encodeValueFamily payload.valueFamily
  encodeQuantity payload.quantity
  encodeUnit payload.unit
  encodeOptionalDeclarationReference payload.application

def encodeDeclarationEvidence (evidence : DeclarationEvidence) : Enc Unit := do
  encodeTimestamp evidence.effectiveAt
  encodeOptionalArtifact evidence.artifact

def encodeDeclaration (declaration : SeriesDeclaration) : Enc Unit := do
  encodeStoreId declaration.storeId
  encodeSeriesId declaration.seriesId
  encodeU128 declaration.revision.value
  encodeOptionalRevision declaration.previousRevision
  encodeBinding declaration.binding
  encodeDeclarationPayload declaration.payload
  encodeDeclarationEvidence declaration.evidence

def encodeDecodedDeclaration (declaration : DecodedDeclarationV1) : Enc Unit := do
  encodeStoreId declaration.storeId
  encodeSeriesId declaration.seriesId
  encodeU128 declaration.revision.value
  encodeOptionalRevision declaration.previousRevision
  encodeBinding declaration.binding
  encodeDeclarationPayload declaration.payload
  encodeDeclarationEvidence declaration.evidence

def encodeSeriesMetadata (metadata : SeriesMetadata) : Enc Unit := do
  encodeSeriesId metadata.seriesId
  encodeProducerId metadata.producerId
  encodeCollectionMode metadata.collectionMode

def encodeExactValue : ExactValue → Enc Unit
  | .real value => do
    encodeU8 1
    encodeU64 value.bits
  | .signed value => do
    encodeU8 2
    encodeI64 value
  | .unsigned value => do
    encodeU8 3
    encodeU64 value
  | .boolean value => do
    encodeU8 4
    encodeU8 (if value then 1 else 0)
  | .state value => do
    encodeU8 5
    encodeString value.stateClass.value
    encodeString value.member.value
  | .text value => do
    encodeU8 6
    encodeString value.value
  | .artifact value => do
    encodeU8 7
    encodeArtifact value
  | .unavailable reason => do
    encodeU8 8
    encodeOptional (fun r : UnavailableReason => encodeString r.value) reason

def encodeObservationTimes (times : ObservationTimes) : Enc Unit := do
  encodeOptionalTimestamp times.source
  encodeTimestamp times.receive
  encodeTimestamp times.effective

def flagBit (enabled : Bool) (position : Nat) : BitVec 8 :=
  (if enabled then 1#8 else 0#8) <<< position

def QualityFlags.wire (flags : QualityFlags) : UInt8 :=
  UInt8.ofBitVec (flagBit flags.stale 0 ||| flagBit flags.invalid 1 |||
    flagBit flags.substituted 2 ||| flagBit flags.overridden 3 ||| flagBit flags.outOfService 4 |||
    flagBit flags.communicationFailure 5)

def encodeQuality (quality : Quality) : Enc Unit := do
  encodeU8 quality.level.tag
  encodeU8 quality.flags.wire

def encodeNativeStatus (status : NativeStatus) : Enc Unit := do
  encodeCount status.tokens.length
  status.tokens.forM fun token => encodeString token.value

def encodeObservation (observation : Observation) : Enc Unit := do
  encodeObservationId observation.observationId
  encodeExactValue observation.value
  encodeObservationTimes observation.times
  encodeQuality observation.quality
  encodeNativeStatus observation.nativeStatus
  encodeOptionalPosition observation.producerPosition
  encodeOptionalInterval observation.interval

def encodeGap (gap : Gap) : Enc Unit := do
  encodeU128 gap.epoch
  encodeU128 gap.start
  encodeU128 gap.stop
  encodeU8 gap.reason.tag

/-- A count, then the items. -/
def encodeCounted {α : Type} (enc : α → Enc Unit) (items : List α) : Enc Unit := do
  encodeCount items.length
  items.forM enc

def encodeEnvelope (envelope : CollectionEnvelope) : Enc Unit := do
  encodeSeriesMetadata envelope.series
  match envelope.evidenceKind with
  | .observed => do
    encodeU8 1
    encodeCounted encodeObservation envelope.observations
    encodeCounted encodeGap envelope.gaps
  | .noChange => do
    encodeU8 2
    match envelope.noChangeEvidence with
    | some interval => encodeTimeInterval interval
    | none => throw .invalidCanonicalData

def encodeRetry (retry : RetryQualification) : Enc Unit := do
  encodeSeriesId retry.seriesId
  encodeProducerId retry.producerId
  encodeString retry.key.value
  encodeContent retry.content

def encodeBatch (batch : SourceBatchMetadata) : Enc Unit := do
  encodeString batch.schema.value
  encodeU128 batch.version.value
  encodeSourceIntervalKind batch.interval

def encodeSystem (system : SourceSystemEvidence) : Enc Unit := do
  encodeEvidenceId system.evidenceId
  encodeString system.provider.value
  encodeString system.projection.value

def encodeEndpoint (endpoint : SourceEndpointEvidence) : Enc Unit := do
  encodeEvidenceId endpoint.evidenceId
  encodeEvidenceId endpoint.systemId
  encodeString endpoint.locator.value

def encodeRun (run : CaptureRunEvidence) : Enc Unit := do
  encodeEvidenceId run.evidenceId
  encodeEvidenceId run.endpointId
  encodeTimestamp run.startedAt
  encodeOptionalTimestamp run.completedAt

def encodeSnapshot (snapshot : SourceSnapshotEvidence) : Enc Unit := do
  encodeEvidenceId snapshot.evidenceId
  encodeEvidenceId snapshot.runId
  encodeArtifact snapshot.artifact

/-- The four stages one after another, as the source writes them inline. -/
def encodeLifecycle (lifecycle : CaptureLifecycle) : Enc Unit := do
  encodeSystem lifecycle.system
  encodeEndpoint lifecycle.endpoint
  encodeRun lifecycle.run
  encodeSnapshot lifecycle.snapshot

def encodeSourceObservation (evidence : SourceObservationEvidence) : Enc Unit := do
  encodeEvidenceId evidence.evidenceId
  encodeOptionalArtifact evidence.provenanceArtifact
  encodeU8 evidence.transport.tag
  encodeOptionalIdempotency evidence.idempotency

def encodeRawRecord (evidence : RawRecordEvidence) : Enc Unit := do
  encodeEvidenceId evidence.evidenceId
  encodeEvidenceId evidence.snapshotId
  encodeArtifact evidence.artifact
  encodeOptionalIdempotency evidence.idempotency

def encodeNormalizedRecord (evidence : NormalizedRecordEvidence) : Enc Unit := do
  encodeEvidenceId evidence.evidenceId
  encodeEvidenceId evidence.rawRecordId
  encodeContent evidence.content
  encodeEvidenceId evidence.observationEvidenceId

def encodeLineage (lineage : SourceObservationLineage) : Enc Unit := do
  encodeU8 lineage.ordinal
  encodeObservationId lineage.canonicalObservationId
  encodeSourceObservation lineage.observation
  encodeRawRecord lineage.raw
  encodeNormalizedRecord lineage.normalized

def encodeDecodedLineage (lineage : DecodedObservationLineageV1) : Enc Unit := do
  encodeU8 lineage.ordinal
  encodeObservationId lineage.canonicalObservationId
  encodeSourceObservation lineage.observation
  encodeRawRecord lineage.raw
  encodeNormalizedRecord lineage.normalized

def encodeSourceGap (gap : SourceGapEvidence) : Enc Unit := do
  encodeU128 gap.epoch
  encodeU128 gap.start
  encodeU128 gap.stop
  encodeU8 gap.reason.tag

def encodeCanonicalPayload (admission : CanonicalAdmission) : Enc Unit := do
  encodeStoreId admission.storeId
  encodeDeclaration admission.declaration
  encodeEnvelope admission.envelope
  encodeRetry admission.retry
  encodeBatch admission.batch
  encodeLifecycle admission.lifecycle
  encodeSourceIntervalKind admission.evidenceKind
  match admission.evidenceKind with
  | .observed => do
    encodeCounted encodeLineage admission.observations
    encodeCounted encodeSourceGap admission.gaps
  | .noChange => pure ()

def encodeDecodedPayload (admission : DecodedAdmissionV1) : Enc Unit := do
  encodeStoreId admission.storeId
  encodeDecodedDeclaration admission.declaration
  encodeEnvelope admission.envelope
  encodeRetry admission.retry
  encodeBatch admission.batch
  encodeLifecycle admission.lifecycle
  encodeSourceIntervalKind admission.evidenceKind
  match admission.evidence with
  | .observed observations gaps => do
    encodeCounted encodeDecodedLineage observations
    encodeCounted encodeSourceGap gaps
  | .noChange => pure ()

end Historian
