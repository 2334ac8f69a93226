import Historian.JournalEncode

namespace Historian

open Wire Checks

-- The decoder has its own copies of the bounds; they agree with those of the model types.
def maxDeclarationReferenceBytes : Nat := 4 * 1024
def maxExactTextBytes : Nat := 4 * 4096

def decodeIdentity {family : IdentityFamily} : Cursor (Identity family) := do
  let bytes ← take .truncated 16
  fromExcept ((Identity.fromBytes bytes).mapError fun _ => .invalidIdentity)

def decodeStoreId : Cursor StoreId := decodeIdentity
def decodeSeriesId : Cursor SeriesId := decodeIdentity
def decodeProducerId : Cursor ProducerId := decodeIdentity
def decodeObservationId : Cursor ObservationId := decodeIdentity
def decodeArtifactId : Cursor ArtifactId := decodeIdentity
def decodeEvidenceId : Cursor EvidenceId := decodeIdentity

def decodeOptional {α : Type} (dec : Cursor α) : Cursor (Option α) :=
  decodeOption Cursor.option dec

def decodeDeclarationReference : Cursor DeclarationReference := do
  let value ← Cursor.string maxDeclarationReferenceBytes
  invalidModel (DeclarationReference.new value)

def decodeSourceProjection : Cursor SourceProjection := do
  let value ← Cursor.string maxDeclarationReferenceBytes
  invalidModel (SourceProjection.new value)

def CollectionMode.ofTag : UInt8 → Except JournalV1Error CollectionMode
  | 1 => .ok .sampled | 2 => .ok .changeOnly | 3 => .ok .cumulative | 4 => .ok .interval
  | 5 => .ok .event | _ => .error .unknownTag

def ValueFamily.ofTag : UInt8 → Except JournalV1Error ValueFamily
  | 1 => .ok .real | 2 => .ok .signed | 3 => .ok .unsigned | 4 => .ok .boolean | 5 => .ok .state
  | 6 => .ok .text | 7 => .ok .artifact | _ => .error .unknownTag

def SourceIntervalKind.ofTag : UInt8 → Except JournalV1Error SourceIntervalKind
  | 1 => .ok .observed | 2 => .ok .noChange | _ => .error .unknownTag

def QualityLevel.ofTag : UInt8 → Except JournalV1Error QualityLevel
  | 1 => .ok .unknown | 2 => .ok .good | 3 => .ok .uncertain | 4 => .ok .bad
  | 5 => .ok .notEvaluated | _ => .error .unknownTag

def GapReason.ofTag : UInt8 → Except JournalV1Error GapReason
  | 1 => .ok .unknown | 2 => .ok .producerRestart | 3 => .ok .bufferOverflow
  | 4 => .ok .communicationFailure | 5 => .ok .sourceDataLoss | 6 => .ok .administrativeExclusion
  | _ => .error .unknownTag

def SourceGapReason.ofTag : UInt8 → Except JournalV1Error SourceGapReason
  | 1 => .ok .communicationFailure | 2 => .ok .sourceUnavailable | 3 => .ok .producerReset
  | 4 => .ok .filtered | 5 => .ok .unknown | _ => .error .unknownTag

def SourceTransport.ofTag : UInt8 → Except JournalV1Error SourceTransport
  | 1 => .ok .new | 2 => .ok .redelivered | _ => .error .unknownTag

def decodeTag {α : Type} (ofTag : UInt8 → Except JournalV1Error α) : Cursor α := do
  let tag ← Cursor.u8
  fromExcept (ofTag tag)

def decodeCollectionMode : Cursor CollectionMode := decodeTag CollectionMode.ofTag
def decodeValueFamily : Cursor ValueFamily := decodeTag ValueFamily.ofTag
def decodeSourceIntervalKind : Cursor SourceIntervalKind := decodeTag SourceIntervalKind.ofTag

def decodeTimestamp : Cursor Timestamp := do
  let unixSeconds ← Cursor.i64
  let nanosecond ← Cursor.u32
  invalidModel (Timestamp.new unixSeconds nanosecond)

def decodeTimeInterval : Cursor TimeInterval := do
  let start ← decodeTimestamp
  let stop ← decodeTimestamp
  invalidModel (TimeInterval.new start stop)

def decodeOptionalTimestamp : Cursor (Option Timestamp) := decodeOptional decodeTimestamp
def decodeOptionalInterval : Cursor (Option TimeInterval) := decodeOptional decodeTimeInterval

def decodePosition : Cursor ProducerPosition := do
  let epoch ← Cursor.u128
  let sequence ← Cursor.u128
  pure ⟨epoch, sequence⟩

def decodeOptionalPosition : Cursor (Option ProducerPosition) := decodeOptional decodePosition

def ContentIdentity.ofDigest (format : ContentFormat) (version : U128) (sha256 : Bytes) :
    Except JournalV1Error ContentIdentity :=
  if h : sha256.length = 32 then .ok ⟨format, version, sha256, h⟩ else .error .truncated

def decodeContentFormat : Cursor ContentFormat := do
  let value ← Cursor.string maxContentFormatBytes
  invalidModel (ContentFormat.new value)

def decodeContent : Cursor ContentIdentity := do
  let format ← decodeContentFormat
  let version ← Cursor.u128
  let sha256 ← take .truncated 32
  fromExcept (ContentIdentity.ofDigest format version sha256)

def decodeArtifact : Cursor ArtifactReference := do
  let artifactId ← decodeArtifactId
  let content ← decodeContent
  pure ⟨artifactId, content⟩

def decodeOptionalArtifact : Cursor (Option ArtifactReference) := decodeOptional decodeArtifact

def decodeRetryKey : Cursor RetryKey := do
  let value ← Cursor.string maxRetryKeyBytes
  invalidModel (RetryKey.new value)

def decodeIdempotency : Cursor SourceIdempotency := do
  let key ← decodeRetryKey
  let content ← decodeContent
  pure ⟨key, content⟩

def decodeOptionalIdempotency : Cursor (Option SourceIdempotency) :=
  decodeOptional decodeIdempotency

def decodeRevision : Cursor DeclarationRevision := do
  let value ← Cursor.u128
  invalidModel (DeclarationRevision.new value)

def decodeSourceReference : Cursor SourceReference := do
  let provider ← decodeDeclarationReference
  let projection ← decodeOptional decodeSourceProjection
  let locator ← decodeDeclarationReference
  pure ⟨provider, projection, locator⟩

def decodeBinding : Cursor SeriesBinding := do
  let source ← decodeSourceReference
  pure ⟨source⟩

def decodeQuantity : Cursor QuantityEvidence := do
  let tag ← Cursor.u8
  match tag with
  | 0 => pure .absent
  | 1 => do
    let reference ← decodeDeclarationReference
    pure (.resolved reference)
  | 2 => do
    let reference ← decodeDeclarationReference
    pure (.unresolved reference)
  | _ => throw .unknownTag

def decodeUnit : Cursor UnitEvidence := do
  let tag ← Cursor.u8
  match tag with
  | 0 => pure .absent
  | 1 => do
    let reference ← decodeDeclarationReference
    pure (.resolved reference)
  | 2 => do
    let reference ← decodeDeclarationReference
    pure (.unresolved reference)
  | _ => throw .unknownTag

def decodeDeclarationPayload : Cursor SeriesDeclarationPayload := do
  let producerId ← decodeProducerId
  let collectionMode ← decodeCollectionMode
  let valueFamily ← decodeValueFamily
  let quantity ← decodeQuantity
  let unit ← decodeUnit
  let application ← decodeOptional decodeDeclarationReference
  pure ⟨producerId, collectionMode, valueFamily, quantity, unit, application⟩

def decodeDeclarationEvidence : Cursor DeclarationEvidence := do
  let effectiveAt ← decodeTimestamp
  let artifact ← decodeOptionalArtifact
  pure ⟨effectiveAt, artifact⟩

def decodeDeclaration : Cursor DecodedDeclarationV1 := do
  let storeId ← decodeStoreId
  let seriesId ← decodeSeriesId
  let revision ← decodeRevision
  let previousRevision ← decodeOptional decodeRevision
  let binding ← decodeBinding
  let payload ← decodeDeclarationPayload
  let evidence ← decodeDeclarationEvidence
  pure ⟨storeId, seriesId, revision, previousRevision, binding, payload, evidence⟩

def decodeSeriesMetadata : Cursor SeriesMetadata := do
  let seriesId ← decodeSeriesId
  let producerId ← decodeProducerId
  let collectionMode ← decodeCollectionMode
  pure ⟨seriesId, producerId, collectionMode⟩

def decodeToken : Cursor PortableToken := do
  let value ← Cursor.string maxPortableTokenBytes
  invalidModel (PortableToken.new value)

def decodeExactText : Cursor ExactText := do
  let value ← Cursor.string maxExactTextBytes
  invalidModel (ExactText.new value)

def decodeStateValue : Cursor StateValue := do
  let stateClass ← decodeToken
  let member ← decodeToken
  pure ⟨stateClass, member⟩

def decodeExactValue : Cursor ExactValue := do
  let tag ← Cursor.u8
  match tag with
  | 1 => do
    let bits ← Cursor.u64
    pure (.real ⟨bits⟩)
  | 2 => do
    let value ← Cursor.i64
    pure (.signed value)
  | 3 => do
    let value ← Cursor.u64
    pure (.unsigned value)
  | 4 => do
    let value ← decodeTag flagOfTag
    pure (.boolean value)
  | 5 => do
    let value ← decodeStateValue
    pure (.state value)
  | 6 => do
    let value ← decodeExactText
    pure (.text value)
  | 7 => do
    let value ← decodeArtifact
    pure (.artifact value)
  | 8 => do
    let reason ← decodeOptional decodeToken
    pure (.unavailable reason)
  | _ => throw .unknownTag

def decodeObservationTimes : Cursor ObservationTimes := do
  let source ← decodeOptionalTimestamp
  let receive ← decodeTimestamp
  let effective ← decodeTimestamp
  pure ⟨source, receive, effective⟩

def QualityFlags.ofBits (bits : BitVec 8) : QualityFlags :=
  QualityFlags.none
    |>.withStale (bits &&& 1#8 != 0#8)
    |>.withInvalid (bits &&& 2#8 != 0#8)
    |>.withSubstituted (bits &&& 4#8 != 0#8)
    |>.withOverridden (bits &&& 8#8 != 0#8)
    |>.withOutOfService (bits &&& 16#8 != 0#8)
    |>.withCommunicationFailure (bits &&& 32#8 != 0#8)

def QualityFlags.ofWire (byte : UInt8) : Except JournalV1Error QualityFlags :=
  let bits := byte.toBitVec
  if bits &&& ~~~0x3f#8 ≠ 0#8 then .error .unknownTag else .ok (QualityFlags.ofBits bits)

def decodeQuality : Cursor Quality := do
  let level ← decodeTag QualityLevel.ofTag
  let bits ← Cursor.u8
  let flags ← fromExcept (QualityFlags.ofWire bits)
  pure ⟨level, flags⟩

/-- A bounded count, then that many items. -/
def decodeCounted {α : Type} (maximum : Nat) (dec : Cursor α) : Cursor (List α) := do
  let count ← Cursor.count maximum
  times dec count

def decodeNativeStatus : Cursor NativeStatus := do
  let tokens ← decodeCounted maxNativeStatusTokens decodeToken
  invalidModel (NativeStatus.new tokens)

def decodeObservation : Cursor Observation := do
  let observationId ← decodeObservationId
  let value ← decodeExactValue
  let times ← decodeObservationTimes
  let quality ← decodeQuality
  let nativeStatus ← decodeNativeStatus
  let producerPosition ← decodeOptionalPosition
  let interval ← decodeOptionalInterval
  pure ⟨observationId, value, times, quality, nativeStatus, producerPosition, interval⟩

def decodeGap : Cursor Gap := do
  let epoch ← Cursor.u128
  let start ← Cursor.u128
  let stop ← Cursor.u128
  let reason ← decodeTag GapReason.ofTag
  invalidModel (Gap.new epoch start stop reason)

def decodeEnvelope : Cursor CollectionEnvelope := do
  let metadata ← decodeSeriesMetadata
  let tag ← Cursor.u8
  match tag with
  | 1 => do
    let observations ← decodeCounted maxObservations decodeObservation
    let gaps ← decodeCounted maxGaps decodeGap
    invalidModel (CollectionEnvelope.observed metadata observations gaps)
  | 2 => do
    let interval ← decodeTimeInterval
    invalidModel (CollectionEnvelope.noChange metadata interval)
  | _ => throw .unknownTag

def decodeRetry : Cursor RetryQualification := do
  let seriesId ← decodeSeriesId
  let producerId ← decodeProducerId
  let key ← decodeRetryKey
  let content ← decodeContent
  pure ⟨seriesId, producerId, key, content⟩

def decodeSchemaVersion : Cursor SourceSchemaVersion := do
  let value ← Cursor.u128
  invalidModel (SourceSchemaVersion.new value)

def decodeBatch : Cursor SourceBatchMetadata := do
  let schema ← decodeDeclarationReference
  let version ← decodeSchemaVersion
  let interval ← decodeSourceIntervalKind
  pure ⟨schema, version, interval⟩

def decodeSystem : Cursor SourceSystemEvidence := do
  let evidenceId ← decodeEvidenceId
  let provider ← decodeDeclarationReference
  let projection ← decodeSourceProjection
  pure ⟨evidenceId, provider, projection⟩

def decodeEndpoint : Cursor SourceEndpointEvidence := do
  let evidenceId ← decodeEvidenceId
  let systemId ← decodeEvidenceId
  let locator ← decodeDeclarationReference
  pure ⟨evidenceId, systemId, locator⟩

def decodeRun : Cursor CaptureRunEvidence := do
  let evidenceId ← decodeEvidenceId
  let endpointId ← decodeEvidenceId
  let startedAt ← decodeTimestamp
  let completedAt ← decodeOptionalTimestamp
  invalidModel (CaptureRunEvidence.new evidenceId endpointId startedAt completedAt)

def decodeSnapshot : Cursor SourceSnapshotEvidence := do
  let evidenceId ← decodeEvidenceId
  let runId ← decodeEvidenceId
  let artifact ← decodeArtifact
  pure ⟨evidenceId, runId, artifact⟩

def decodeLifecycle : Cursor CaptureLifecycle := do
  let system ← decodeSystem
  let endpoint ← decodeEndpoint
  let run ← decodeRun
  let snapshot ← decodeSnapshot
  invalidModel (CaptureLifecycle.new system endpoint run snapshot)

def decodeSourceObservation : Cursor SourceObservationEvidence := do
  let evidenceId ← decodeEvidenceId
  let provenanceArtifact ← decodeOptionalArtifact
  let transport ← decodeTag SourceTransport.ofTag
  let idempotency ← decodeOptionalIdempotency
  pure ⟨evidenceId, provenanceArtifact, transport, idempotency⟩

def decodeRawRecord : Cursor RawRecordEvidence := do
  let evidenceId ← decodeEvidenceId
  let snapshotId ← decodeEvidenceId
  let artifact ← decodeArtifact
  let idempotency ← decodeOptionalIdempotency
  pure ⟨evidenceId, snapshotId, artifact, idempotency⟩

def decodeNormalizedRecord : Cursor NormalizedRecordEvidence := do
  let evidenceId ← decodeEvidenceId
  let rawRecordId ← decodeEvidenceId
  let content ← decodeContent
  let observationEvidenceId ← decodeEvidenceId
  pure ⟨evidenceId, rawRecordId, content, observationEvidenceId⟩

def decodeLineage : Cursor DecodedObservationLineageV1 := do
  let ordinal ← Cursor.u8
  let canonicalObservationId ← decodeObservationId
  let observation ← decodeSourceObservation
  let raw ← decodeRawRecord
  let normalized ← decodeNormalizedRecord
  pure ⟨ordinal, canonicalObservationId, observation, raw, normalized⟩

def decodeSourceGap : Cursor SourceGapEvidence := do
  let epoch ← Cursor.u128
  let start ← Cursor.u128
  let stop ← Cursor.u128
  let reason ← decodeTag SourceGapReason.ofTag
  invalidModel (SourceGapEvidence.new epoch start stop reason)

def decodeEvidence : Cursor DecodedEvidenceV1 := do
  let kind ← decodeSourceIntervalKind
  match kind with
  | .observed => do
    let observations ← decodeCounted maxObservations decodeLineage
    let gaps ← decodeCounted maxGaps decodeSourceGap
    pure (.observed observations gaps)
  | .noChange => pure .noChange

def decodePayload (appendSequence : U64) : Cursor DecodedAdmissionV1 := do
  let storeId ← decodeStoreId
  let declaration ← decodeDeclaration
  let envelope ← decodeEnvelope
  let retry ← decodeRetry
  let batch ← decodeBatch
  let lifecycle ← decodeLifecycle
  let evidence ← decodeEvidence
  pure ⟨appendSequence, storeId, declaration, envelope, retry, batch, lifecycle, evidence⟩

end Historian
