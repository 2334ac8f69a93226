import Historian.JournalPayload

namespace Historian

open Wire Checks

def EvidenceKind.tag : EvidenceKind → UInt8
  | .observed => 1 | .noChange => 2

theorem CollectionEnvelope.evidence_observed {envelope : CollectionEnvelope}
    (h : envelope.evidenceKind = .observed) :
    envelope.evidence = .observed envelope.observations envelope.gaps := by
  obtain ⟨_, evidence, _⟩ := envelope
  cases evidence with
  | observed observations gaps => rfl
  | noChange interval => cases h

/-- The observed half of an envelope, once its series and its kind are known. -/
theorem codec_observedEnvelope (series : SeriesMetadata) :
    Codec (fun x : CollectionEnvelope => series = x.series ∧ x.evidenceKind = .observed)
      (fun x => do
        encodeCounted encodeObservation x.observations
        encodeCounted encodeGap x.gaps)
      (do
        let observations ← decodeCounted maxObservations decodeObservation
        let gaps ← decodeCounted maxGaps decodeGap
        invalidModel (CollectionEnvelope.observed series observations gaps)) := by
  apply Codec.field CollectionEnvelope.observations
    (codec_counted (show maxObservations < 2 ^ 32 by decide) codec_observation)
    (fun x _ => ⟨x.lengths_le.1, fun _ _ => trivial⟩)
  intro observations _
  apply Codec.checked CollectionEnvelope.gaps
    (codec_counted (show maxGaps < 2 ^ 32 by decide) codec_gap)
    (fun x _ => ⟨x.lengths_le.2, fun _ _ => trivial⟩)
  intro gaps _ envelope
  rw [mapError_ok, CollectionEnvelope.observed_ok]
  constructor
  · rintro ⟨hs, he⟩
    simp [hs, CollectionEnvelope.evidenceKind, CollectionEnvelope.observations,
      CollectionEnvelope.gaps, he]
  · rintro ⟨⟨⟨hs, hk⟩, rfl⟩, rfl⟩
    exact ⟨hs, CollectionEnvelope.evidence_observed hk⟩

theorem codec_noChangeEnvelope (series : SeriesMetadata) :
    Codec (fun x : CollectionEnvelope => series = x.series ∧ x.evidenceKind = .noChange)
      (fun x => match x.noChangeEvidence with
        | some interval => encodeTimeInterval interval
        | none => throw .invalidCanonicalData)
      (do
        let interval ← decodeTimeInterval
        invalidModel (CollectionEnvelope.noChange series interval)) := by
  constructor
  · rintro ⟨s, evidence, hv⟩ ⟨rfl, hk⟩
    cases evidence with
    | observed observations gaps => cases hk
    | noChange interval => exact codec_timeInterval.writes interval trivial
  · intro bs x rest
    simp only [decode_bind_ok, invalidModel, fromExcept_ok, mapError_ok,
      CollectionEnvelope.noChange_ok, codec_timeInterval.reads]
    constructor
    · rintro ⟨interval, _, ⟨-, b, hb, rfl⟩, ⟨hs, he⟩, rfl⟩
      refine ⟨⟨hs, by simp [CollectionEnvelope.evidenceKind, he]⟩, b, ?_, rfl⟩
      simpa [CollectionEnvelope.noChangeEvidence, he] using hb
    · rintro ⟨⟨hs, hk⟩, b, hb, rfl⟩
      obtain ⟨s, evidence, hv⟩ := x
      cases evidence with
      | observed observations gaps => cases hk
      | noChange interval => exact ⟨interval, rest, ⟨trivial, b, hb, rfl⟩, ⟨hs, rfl⟩, rfl⟩

theorem codec_taggedEnvelope (series : SeriesMetadata) :
    Codec (fun x : CollectionEnvelope => True ∧ series = x.series)
      (fun x => do
        encodeU8 x.evidenceKind.tag
        match x.evidenceKind with
        | .observed => do
          encodeCounted encodeObservation x.observations
          encodeCounted encodeGap x.gaps
        | .noChange =>
          match x.noChangeEvidence with
          | some interval => encodeTimeInterval interval
          | none => throw .invalidCanonicalData)
      (do
        let tag ← Cursor.u8
        match tag with
        | 1 => do
          let observations ← decodeCounted maxObservations decodeObservation
          let gaps ← decodeCounted maxGaps decodeGap
          invalidModel (CollectionEnvelope.observed series observations gaps)
        | 2 => do
          let interval ← decodeTimeInterval
          invalidModel (CollectionEnvelope.noChange series interval)
        | _ => throw .unknownTag) := by
  apply Codec.field (fun x : CollectionEnvelope => x.evidenceKind.tag) codec_u8
    (fun _ _ => trivial)
  intro tag _
  split
  next =>
    refine (codec_observedEnvelope series).congr ?_ ?_
    · intro x
      cases x.evidenceKind <;> simp [EvidenceKind.tag]
    · rintro x ⟨-, hk⟩
      simp only [hk]
  next =>
    refine (codec_noChangeEnvelope series).congr ?_ ?_
    · intro x
      cases x.evidenceKind <;> simp [EvidenceKind.tag]
    · rintro x ⟨-, hk⟩
      simp only [hk]
  next h1 h2 =>
    apply Codec.refused
    rintro x ⟨-, ht⟩
    cases h : x.evidenceKind with
    | observed => exact h1 (by simpa [h, EvidenceKind.tag] using ht)
    | noChange => exact h2 (by simpa [h, EvidenceKind.tag] using ht)

theorem codec_envelope : Codec (fun _ => True) encodeEnvelope decodeEnvelope := by
  apply Codec.field CollectionEnvelope.series codec_seriesMetadata (fun _ _ => trivial)
  intro series _
  refine (codec_taggedEnvelope series).congr (fun _ => Iff.rfl) ?_
  intro x _
  cases h : x.evidenceKind <;> rfl

theorem codec_system : Codec (fun _ => True) encodeSystem decodeSystem := by
  apply Codec.field SourceSystemEvidence.evidenceId codec_identity (fun _ _ => trivial)
  intro evidenceId _
  apply Codec.field SourceSystemEvidence.provider codec_declarationReference (fun _ _ => trivial)
  intro provider _
  apply Codec.map SourceSystemEvidence.projection codec_sourceProjection (fun _ _ => trivial)
  rintro projection _ ⟨_, _, _⟩
  simp [and_assoc]

theorem codec_endpoint : Codec (fun _ => True) encodeEndpoint decodeEndpoint := by
  apply Codec.field SourceEndpointEvidence.evidenceId codec_identity (fun _ _ => trivial)
  intro evidenceId _
  apply Codec.field SourceEndpointEvidence.systemId codec_identity (fun _ _ => trivial)
  intro systemId _
  apply Codec.map SourceEndpointEvidence.locator codec_declarationReference (fun _ _ => trivial)
  rintro locator _ ⟨_, _, _⟩
  simp [and_assoc]

theorem codec_run : Codec (fun _ => True) encodeRun decodeRun := by
  apply Codec.field CaptureRunEvidence.evidenceId codec_identity (fun _ _ => trivial)
  intro evidenceId _
  apply Codec.field CaptureRunEvidence.endpointId codec_identity (fun _ _ => trivial)
  intro endpointId _
  apply Codec.field CaptureRunEvidence.startedAt codec_timestamp (fun _ _ => trivial)
  intro startedAt _
  apply Codec.checked CaptureRunEvidence.completedAt codec_optionalTimestamp (fun _ _ => trivial)
  intro completedAt _ run
  rw [mapError_ok, CaptureRunEvidence.new_ok]
  simp [and_assoc]

theorem codec_snapshot : Codec (fun _ => True) encodeSnapshot decodeSnapshot := by
  apply Codec.field SourceSnapshotEvidence.evidenceId codec_identity (fun _ _ => trivial)
  intro evidenceId _
  apply Codec.field SourceSnapshotEvidence.runId codec_identity (fun _ _ => trivial)
  intro runId _
  apply Codec.map SourceSnapshotEvidence.artifact codec_artifact (fun _ _ => trivial)
  rintro artifact _ ⟨_, _, _⟩
  simp [and_assoc]

theorem codec_lifecycle : Codec (fun _ => True) encodeLifecycle decodeLifecycle := by
  apply Codec.field CaptureLifecycle.system codec_system (fun _ _ => trivial)
  intro system _
  apply Codec.field CaptureLifecycle.endpoint codec_endpoint (fun _ _ => trivial)
  intro endpoint _
  apply Codec.field CaptureLifecycle.run codec_run (fun _ _ => trivial)
  intro run _
  apply Codec.checked CaptureLifecycle.snapshot codec_snapshot (fun _ _ => trivial)
  intro snapshot _ lifecycle
  rw [mapError_ok, CaptureLifecycle.new_ok]
  simp [and_assoc]

theorem codec_sourceObservation :
    Codec (fun _ => True) encodeSourceObservation decodeSourceObservation := by
  apply Codec.field SourceObservationEvidence.evidenceId codec_identity (fun _ _ => trivial)
  intro evidenceId _
  apply Codec.field SourceObservationEvidence.provenanceArtifact codec_optionalArtifact
    (fun _ _ => trivial)
  intro provenanceArtifact _
  apply Codec.field SourceObservationEvidence.transport (codec_tag SourceTransport.ofTag_ok)
    (fun _ _ => trivial)
  intro transport _
  apply Codec.map SourceObservationEvidence.idempotency codec_optionalIdempotency
    (fun _ _ => trivial)
  rintro idempotency _ ⟨_, _, _, _⟩
  simp [and_assoc]

theorem codec_rawRecord : Codec (fun _ => True) encodeRawRecord decodeRawRecord := by
  apply Codec.field RawRecordEvidence.evidenceId codec_identity (fun _ _ => trivial)
  intro evidenceId _
  apply Codec.field RawRecordEvidence.snapshotId codec_identity (fun _ _ => trivial)
  intro snapshotId _
  apply Codec.field RawRecordEvidence.artifact codec_artifact (fun _ _ => trivial)
  intro artifact _
  apply Codec.map RawRecordEvidence.idempotency codec_optionalIdempotency (fun _ _ => trivial)
  rintro idempotency _ ⟨_, _, _, _⟩
  simp [and_assoc]

theorem codec_normalizedRecord :
    Codec (fun _ => True) encodeNormalizedRecord decodeNormalizedRecord := by
  apply Codec.field NormalizedRecordEvidence.evidenceId codec_identity (fun _ _ => trivial)
  intro evidenceId _
  apply Codec.field NormalizedRecordEvidence.rawRecordId codec_identity (fun _ _ => trivial)
  intro rawRecordId _
  apply Codec.field NormalizedRecordEvidence.content codec_content (fun _ _ => trivial)
  intro content _
  apply Codec.map NormalizedRecordEvidence.observationEvidenceId codec_identity (fun _ _ => trivial)
  rintro observationEvidenceId _ ⟨_, _, _, _⟩
  simp [and_assoc]

theorem codec_lineage : Codec (fun _ => True) encodeDecodedLineage decodeLineage := by
  apply Codec.field DecodedObservationLineageV1.ordinal codec_u8 (fun _ _ => trivial)
  intro ordinal _
  apply Codec.field DecodedObservationLineageV1.canonicalObservationId codec_identity
    (fun _ _ => trivial)
  intro canonicalObservationId _
  apply Codec.field DecodedObservationLineageV1.observation codec_sourceObservation
    (fun _ _ => trivial)
  intro observation _
  apply Codec.field DecodedObservationLineageV1.raw codec_rawRecord (fun _ _ => trivial)
  intro raw _
  apply Codec.map DecodedObservationLineageV1.normalized codec_normalizedRecord
    (fun _ _ => trivial)
  rintro normalized _ ⟨_, _, _, _, _⟩
  simp [and_assoc]

def DecodedEvidenceV1.kind : DecodedEvidenceV1 → SourceIntervalKind
  | .observed _ _ => .observed
  | .noChange => .noChange

/-- The counts that the payload grammar allows for the source evidence. -/
def DecodedEvidenceV1.Bounded : DecodedEvidenceV1 → Prop
  | .observed observations gaps => observations.length ≤ maxObservations ∧ gaps.length ≤ maxGaps
  | .noChange => True

def encodeDecodedEvidence (evidence : DecodedEvidenceV1) : Enc Unit := do
  encodeSourceIntervalKind evidence.kind
  match evidence with
  | .observed observations gaps => do
    encodeCounted encodeDecodedLineage observations
    encodeCounted encodeSourceGap gaps
  | .noChange => pure ()

def DecodedEvidenceV1.observations : DecodedEvidenceV1 → List DecodedObservationLineageV1
  | .observed observations _ => observations
  | .noChange => []

def DecodedEvidenceV1.gaps : DecodedEvidenceV1 → List SourceGapEvidence
  | .observed _ gaps => gaps
  | .noChange => []

theorem DecodedEvidenceV1.Bounded.lengths_le {evidence : DecodedEvidenceV1}
    (h : evidence.Bounded) :
    evidence.observations.length ≤ maxObservations ∧ evidence.gaps.length ≤ maxGaps := by
  cases evidence with
  | observed observations gaps => exact h
  | noChange => exact ⟨Nat.zero_le _, Nat.zero_le _⟩

theorem codec_observedEvidence :
    Codec (fun x : DecodedEvidenceV1 => x.Bounded ∧ .observed = x.kind)
      (fun x => do
        encodeCounted encodeDecodedLineage x.observations
        encodeCounted encodeSourceGap x.gaps)
      (do
        let observations ← decodeCounted maxObservations decodeLineage
        let gaps ← decodeCounted maxGaps decodeSourceGap
        pure (DecodedEvidenceV1.observed observations gaps)) := by
  apply Codec.field DecodedEvidenceV1.observations
    (codec_counted (show maxObservations < 2 ^ 32 by decide) codec_lineage)
    (fun _ hx => ⟨hx.1.lengths_le.1, fun _ _ => trivial⟩)
  intro observations ho
  apply Codec.map DecodedEvidenceV1.gaps
    (codec_counted (show maxGaps < 2 ^ 32 by decide) codec_sourceGap)
    (fun _ hx => ⟨hx.1.1.lengths_le.2, fun _ _ => trivial⟩)
  intro gaps hg x
  constructor
  · rintro rfl
    exact ⟨⟨⟨⟨ho.1, hg.1⟩, rfl⟩, rfl⟩, rfl⟩
  · rintro ⟨⟨⟨-, hk⟩, rfl⟩, rfl⟩
    cases x with
    | observed observations gaps => rfl
    | noChange => cases hk

theorem codec_evidence :
    Codec DecodedEvidenceV1.Bounded encodeDecodedEvidence decodeEvidence := by
  apply Codec.field DecodedEvidenceV1.kind codec_sourceIntervalKind (fun _ _ => trivial)
  intro kind _
  cases kind with
  | observed =>
    refine codec_observedEvidence.congr (fun _ => Iff.rfl) ?_
    rintro x ⟨-, hk⟩
    cases x with
    | observed observations gaps => rfl
    | noChange => cases hk
  | noChange =>
    refine (Codec.pure (y := DecodedEvidenceV1.noChange) ?_).congr (fun _ => Iff.rfl) ?_
    · rintro (_ | _) <;> simp [DecodedEvidenceV1.kind, DecodedEvidenceV1.Bounded]
    · rintro (_ | _) <;> simp [DecodedEvidenceV1.kind]

/-- The whole payload grammar. -/
theorem codec_payload (appendSequence : U64) :
    Codec (fun x : DecodedAdmissionV1 => appendSequence = x.appendSequence ∧ x.evidence.Bounded)
      encodeDecodedPayload (decodePayload appendSequence) := by
  apply Codec.field DecodedAdmissionV1.storeId codec_identity (fun _ _ => trivial)
  intro storeId _
  apply Codec.field DecodedAdmissionV1.declaration codec_declaration (fun _ _ => trivial)
  intro declaration _
  apply Codec.field DecodedAdmissionV1.envelope codec_envelope (fun _ _ => trivial)
  intro envelope _
  apply Codec.field DecodedAdmissionV1.retry codec_retry (fun _ _ => trivial)
  intro retry _
  apply Codec.field DecodedAdmissionV1.batch codec_batch (fun _ _ => trivial)
  intro batch _
  apply Codec.field DecodedAdmissionV1.lifecycle codec_lifecycle (fun _ _ => trivial)
  intro lifecycle _
  refine (Codec.map DecodedAdmissionV1.evidence codec_evidence ?_ ?_).congr (fun _ => Iff.rfl) ?_
  · intro x hx
    exact hx.1.1.1.1.1.1.2
  · rintro evidence he ⟨_, _, _, _, _, _, _, _⟩
    constructor
    · rintro ⟨⟩
      simp [he]
    · rintro ⟨⟨⟨⟨⟨⟨⟨⟨rfl, -⟩, rfl⟩, rfl⟩, rfl⟩, rfl⟩, rfl⟩, rfl⟩, rfl⟩
      rfl
  · intro x _
    rfl

end Historian
