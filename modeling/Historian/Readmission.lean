import Historian.JournalValidate
import Historian.RegistryRun

namespace Historian

open Wire Checks

/-- The interpretation that a declaration prescribes for every source record. -/
def DecodedDeclarationV1.interpretation (declaration : DecodedDeclarationV1) :
    SourceInterpretation :=
  ⟨declaration.binding.source, declaration.payload.application, declaration.payload.quantity,
    declaration.payload.unit⟩

/-- The source context that a journal record is evidence of, under its own declaration. -/
def DecodedObservationLineageV1.context (declaration : DecodedDeclarationV1)
    (lineage : DecodedObservationLineageV1) : SourceObservationContext :=
  ⟨lineage.ordinal, lineage.canonicalObservationId, declaration.interpretation,
    lineage.observation, lineage.raw, lineage.normalized⟩

/-- Admit a decoded record once more, through the registry and the core constructors. -/
def DecodedAdmissionV1.readmit (registry : SeriesRegistry) (decoded : DecodedAdmissionV1) :
    Except ModelError CanonicalAdmission := do
  let declared ← registry.bind decoded.envelope
  match decoded.evidence with
  | .observed lineages gaps =>
    CanonicalAdmission.observed declared decoded.retry decoded.batch decoded.lifecycle
      (lineages.map (·.context decoded.declaration)) gaps
  | .noChange =>
    CanonicalAdmission.noChange declared decoded.retry decoded.batch decoded.lifecycle

/-- The conditions on an envelope and its declaration that `bind` and the wire check share. -/
structure Declares (payload : SeriesDeclarationPayload) (envelope : CollectionEnvelope) : Prop where
  producer : payload.producerId = envelope.series.producerId
  mode : payload.collectionMode = envelope.series.collectionMode
  family : envelope.observations.any (fun observation =>
    !payload.valueFamily.admits observation.value) = false

theorem SeriesRegistry.bind_ok {registry : SeriesRegistry} {envelope : CollectionEnvelope}
    {declared : DeclaredCollectionEnvelope} :
    registry.bind envelope = .ok declared ↔
      ∃ history declaration, registry.history envelope.series.seriesId = some history ∧
        history.retirement = none ∧ history.latestDeclaration = some declaration ∧
        Declares declaration.payload envelope ∧
        declared = ⟨registry.storeId, declaration, envelope⟩ := by
  unfold SeriesRegistry.bind
  split
  next hnone => simp [hnone]
  next history hh =>
    simp only [then_ok, refuse_ok, ne_eq, not_not, hh, Option.some.injEq, exists_and_left,
      exists_eq_left']
    refine and_congr_right fun _ => ?_
    split
    next hl => simp [hl]
    next declaration hl =>
      simp only [then_ok, refuse_ok, pure_ok, not_not, Bool.not_eq_true, hl, Option.some.injEq,
        exists_eq_left']
      constructor
      · rintro ⟨hmeta, hfamily, rfl⟩
        refine ⟨⟨?_, ?_, hfamily⟩, rfl⟩
        · rw [hmeta]
          rfl
        · rw [hmeta]
          rfl
      · rintro ⟨⟨hproducer, hmode, hfamily⟩, rfl⟩
        refine ⟨?_, hfamily, rfl⟩
        rw [SeriesDeclarationPayload.seriesMetadata, hproducer, hmode]

/-- The conditions that both validators put on a record's retry scope, interval and lifecycle. -/
structure Qualified (binding : SeriesBinding) (envelope : CollectionEnvelope)
    (retry : RetryQualification) (batch : SourceBatchMetadata) (lifecycle : CaptureLifecycle)
    (kind : SourceIntervalKind) : Prop where
  series : retry.seriesId = envelope.series.seriesId
  producer : retry.producerId = envelope.series.producerId
  batchInterval : batch.interval = kind
  envelopeInterval : envelope.evidenceKind.interval = kind
  projection : binding.source.projection = some lifecycle.system.projection
  provider : lifecycle.system.provider = binding.source.provider
  locator : lifecycle.endpoint.locator = binding.source.locator

theorem validateCommon_ok {declared : DeclaredCollectionEnvelope} {retry : RetryQualification}
    {batch : SourceBatchMetadata} {lifecycle : CaptureLifecycle} {kind : SourceIntervalKind} :
    validateCommon declared retry batch lifecycle kind = .ok () ↔
      Qualified declared.declaration.binding declared.envelope retry batch lifecycle kind := by
  unfold validateCommon
  simp only [then_ok, refuse_ok, not_or, not_not]
  constructor
  · rintro ⟨⟨hseries, hproducer⟩, ⟨hbatch, hkind⟩, h⟩
    split at h
    next => cases h
    next projection hp =>
      simp only [refuse_ok, not_or, not_not] at h
      obtain ⟨hprovider, rfl, hlocator⟩ := h
      exact ⟨hseries, hproducer, hbatch, hkind, hp, hprovider, hlocator⟩
  · rintro ⟨hseries, hproducer, hbatch, hkind, hp, hprovider, hlocator⟩
    refine ⟨⟨hseries, hproducer⟩, ⟨hbatch, hkind⟩, ?_⟩
    rw [hp]
    simp [refuse, hprovider, hlocator]

/-- Identities without a repetition, none of them used before. -/
def Fresh (used ids : List EvidenceId) : Prop := ids.Nodup ∧ ∀ id ∈ ids, id ∉ used

theorem fresh_append {used ids more : List EvidenceId} :
    Fresh used (ids ++ more) ↔ Fresh used ids ∧ Fresh (ids.reverse ++ used) more := by
  unfold Fresh
  simp only [List.nodup_append, List.mem_append, List.mem_reverse, not_or, ne_eq]
  constructor
  · rintro ⟨⟨hids, hmore, hdisjoint⟩, hused⟩
    refine ⟨⟨hids, fun id h => hused id (Or.inl h)⟩, hmore, ?_⟩
    intro id h
    exact ⟨fun hid => hdisjoint id hid id h rfl, hused id (Or.inr h)⟩
  · rintro ⟨⟨hids, hused⟩, hmore, hfresh⟩
    refine ⟨⟨hids, hmore, ?_⟩, ?_⟩
    · rintro id hid _ hmem rfl
      exact (hfresh id hmem).1 hid
    · rintro id (h | h)
      · exact hused id h
      · exact (hfresh id h).2

theorem insertEvidenceIds_ok {used ids result : List EvidenceId} :
    insertEvidenceIds used ids = .ok result ↔ Fresh used ids ∧ result = ids.reverse ++ used := by
  induction ids generalizing used with
  | nil => simp [insertEvidenceIds, Fresh, eq_comm]
  | cons id rest ih =>
    have hid : Fresh used [id] ↔ id ∉ used := by simp [Fresh]
    rw [← List.singleton_append, fresh_append, hid]
    simp [insertEvidenceIds, then_ok, ih, and_assoc]

def SourceObservationContext.lineage (context : SourceObservationContext) :
    DecodedObservationLineageV1 :=
  context.retained.mirror

/-- The core's single pass over the contexts accepts exactly when the wire's pass accepts their
lineages, every interpretation is the declaration's, and the identities are all fresh. -/
theorem validateObservations_ok {declaration : SeriesDeclaration} {lifecycle : CaptureLifecycle}
    {used : List EvidenceId} {previous : Option UInt8} {contexts : List SourceObservationContext}
    {observations : List Observation} (hlen : contexts.length = observations.length) :
    validateObservations declaration lifecycle used previous contexts observations = .ok () ↔
      validateLineages lifecycle previous (contexts.map (·.lineage)) observations = .ok () ∧
      (∀ context ∈ contexts, context.interpretation = declaration.mirror.interpretation) ∧
      Fresh used (contexts.flatMap (·.lineage.evidenceIds)) := by
  induction contexts generalizing used previous observations with
  | nil => simp [validateObservations, validateLineages, Fresh]
  | cons context rest ih =>
    cases observations with
    | nil => simp at hlen
    | cons canonical observations =>
      have hinterpretation : context.interpretation = declaration.mirror.interpretation ↔
          context.interpretation.source = declaration.binding.source ∧
          context.interpretation.application = declaration.payload.application ∧
          context.interpretation.quantity = declaration.payload.quantity ∧
          context.interpretation.unit = declaration.payload.unit := by
        obtain ⟨_, _, ⟨_, _, _, _⟩, _, _, _⟩ := context
        simp [DecodedDeclarationV1.interpretation, SeriesDeclaration.mirror]
      have hrest : rest.length = observations.length := by simpa using hlen
      simp only [validateObservations, validateLineages, bind_ok, exists_unit, refuse_ok, not_or,
        not_not, insertEvidenceIds_ok, ih hrest, List.map_cons, List.forall_mem_cons,
        hinterpretation, List.flatMap_cons, fresh_append]
      constructor
      · rintro ⟨hid, hordinal, hsame, _, ⟨hfresh, rfl⟩, hraw, hnormalized, hobserved, hcontent,
          hlineages, hall, hmore⟩
        exact ⟨⟨⟨hid, hordinal, hraw, hnormalized, hobserved, hcontent⟩, hlineages⟩,
          ⟨hsame, hall⟩, hfresh, hmore⟩
      · rintro ⟨⟨⟨hid, hordinal, hraw, hnormalized, hobserved, hcontent⟩, hlineages⟩,
          ⟨hsame, hall⟩, hfresh, hmore⟩
        exact ⟨hid, hordinal, hsame, _, ⟨hfresh, rfl⟩, hraw, hnormalized, hobserved, hcontent,
          hlineages, hall, hmore⟩

theorem allEvidenceIds_nodup {decoded : DecodedAdmissionV1} :
    (allEvidenceIds decoded).Nodup ↔ Fresh [] decoded.lifecycle.evidenceIds ∧
      Fresh (decoded.lifecycle.evidenceIds.reverse ++ [])
        (decoded.observations.flatMap (·.evidenceIds)) := by
  rw [← fresh_append]
  simp [Fresh, allEvidenceIds]

theorem validateGaps_ok {envelope : CollectionEnvelope} {gaps : List SourceGapEvidence} :
    validateGaps envelope gaps = .ok () ↔
      ¬(gaps.zip envelope.gaps).any (fun pair => !pair.2.sameRange pair.1) = true := by
  unfold validateGaps
  rw [refuse_ok, ← List.zip_swap envelope.gaps gaps, List.any_map]
  rfl

/-- The admission that the core constructor builds when every check passes. -/
def admitted (declared : DeclaredCollectionEnvelope) (retry : RetryQualification)
    (batch : SourceBatchMetadata) (lifecycle : CaptureLifecycle) (evidence : AdmissionEvidence) :
    CanonicalAdmission :=
  ⟨declared.storeId, declared.declaration, declared.envelope, retry, batch, lifecycle, evidence⟩

def observedEvidence (contexts : List SourceObservationContext) (gaps : List SourceGapEvidence) :
    AdmissionEvidence :=
  .observed (contexts.map (·.retained)) gaps

/-- The core constructor for observed evidence, in the terms of the wire's checks. -/
theorem CanonicalAdmission.observed_ok {declared : DeclaredCollectionEnvelope}
    {retry : RetryQualification} {batch : SourceBatchMetadata} {lifecycle : CaptureLifecycle}
    {contexts : List SourceObservationContext} {gaps : List SourceGapEvidence}
    {admission : CanonicalAdmission} (appendSequence : U64) :
    CanonicalAdmission.observed declared retry batch lifecycle contexts gaps = .ok admission ↔
      Qualified declared.declaration.binding declared.envelope retry batch lifecycle .observed ∧
      (∀ context ∈ contexts,
        context.interpretation = declared.declaration.mirror.interpretation) ∧
      admission = admitted declared retry batch lifecycle (observedEvidence contexts gaps) ∧
      validateDecodedEvidence (admission.mirror appendSequence) = .ok () ∧
      (allEvidenceIds (admission.mirror appendSequence)).Nodup := by
  have hbounds := declared.envelope.lengths_le
  unfold CanonicalAdmission.observed lifecycleEvidenceIds
  simp only [bind_ok, exists_unit, refuse_ok, pure_ok, validateCommon_ok, insertEvidenceIds_ok,
    validateGaps_ok, not_not, Nat.not_lt, ne_eq]
  constructor
  · rintro ⟨hqualified, -, hlen, -, hgaps, used, ⟨hlifecycle, rfl⟩, hobservations, hsame, rfl⟩
    obtain ⟨hlineages, hinterpretation, hfresh⟩ := (validateObservations_ok hlen).mp hobservations
    refine ⟨hqualified, hinterpretation, rfl, ?_, ?_⟩
    · simp only [validateDecodedEvidence, CanonicalAdmission.mirror, AdmissionEvidence.mirror,
        then_ok, refuse_ok, not_or, not_not, List.length_map, List.map_map]
      exact ⟨⟨hlen, hgaps⟩, hlineages, hsame⟩
    · rw [allEvidenceIds_nodup]
      refine ⟨hlifecycle, ?_⟩
      simpa [CanonicalAdmission.mirror, AdmissionEvidence.mirror, DecodedAdmissionV1.observations,
        SourceObservationContext.lineage, List.flatMap_map] using hfresh
  · rintro ⟨hqualified, hinterpretation, rfl, hevidence, hids⟩
    simp only [validateDecodedEvidence, CanonicalAdmission.mirror, AdmissionEvidence.mirror,
      admitted, observedEvidence, then_ok, refuse_ok, not_or, not_not, List.length_map,
      List.map_map] at hevidence
    obtain ⟨⟨hlen, hgaps⟩, hlineages, hsame⟩ := hevidence
    obtain ⟨hlifecycle, hfresh⟩ := allEvidenceIds_nodup.mp hids
    refine ⟨hqualified, ?_, hlen, ?_, hgaps, _, ⟨hlifecycle, rfl⟩, ?_, hsame, rfl⟩
    · simp only [maxSourceObservationContexts]
      omega
    · simp only [maxSourceGapContexts]
      omega
    · rw [validateObservations_ok hlen]
      refine ⟨hlineages, hinterpretation, ?_⟩
      simpa [CanonicalAdmission.mirror, AdmissionEvidence.mirror, DecodedAdmissionV1.observations,
        admitted, observedEvidence, SourceObservationContext.lineage, List.flatMap_map] using hfresh

theorem CanonicalAdmission.noChange_ok {declared : DeclaredCollectionEnvelope}
    {retry : RetryQualification} {batch : SourceBatchMetadata} {lifecycle : CaptureLifecycle}
    {admission : CanonicalAdmission} (appendSequence : U64) :
    CanonicalAdmission.noChange declared retry batch lifecycle = .ok admission ↔
      Qualified declared.declaration.binding declared.envelope retry batch lifecycle .noChange ∧
      admission = admitted declared retry batch lifecycle .noChange ∧
      (allEvidenceIds (admission.mirror appendSequence)).Nodup := by
  unfold CanonicalAdmission.noChange lifecycleEvidenceIds
  simp only [bind_ok, exists_unit, pure_ok, validateCommon_ok, insertEvidenceIds_ok]
  constructor
  · rintro ⟨hqualified, used, ⟨hlifecycle, rfl⟩, rfl⟩
    refine ⟨hqualified, rfl, ?_⟩
    rw [allEvidenceIds_nodup]
    exact ⟨hlifecycle, List.nodup_nil, by simp [CanonicalAdmission.mirror,
      AdmissionEvidence.mirror, DecodedAdmissionV1.observations]⟩
  · rintro ⟨hqualified, rfl, hids⟩
    exact ⟨hqualified, _, ⟨(allEvidenceIds_nodup.mp hids).1, rfl⟩, rfl⟩

/-- The wire's validator as one conjunction. -/
theorem validateDecoded_ok {decoded : DecodedAdmissionV1} :
    validateDecoded decoded = .ok () ↔
      decoded.storeId = decoded.declaration.storeId ∧
      decoded.declaration.seriesId = decoded.envelope.series.seriesId ∧
      decoded.declaration.previousRevision = decoded.declaration.revision.previous? ∧
      Declares decoded.declaration.payload decoded.envelope ∧
      Qualified decoded.declaration.binding decoded.envelope decoded.retry decoded.batch
        decoded.lifecycle decoded.evidenceKind ∧
      validateDecodedEvidence decoded = .ok () ∧ (allEvidenceIds decoded).Nodup := by
  unfold validateDecoded
  cases hp : decoded.declaration.binding.source.projection with
  | none =>
    simp only [hp, bind_ok, exists_unit, reduceCtorEq, false_and, and_false, exists_false,
      false_iff]
    rintro ⟨-, -, -, -, hqualified, -⟩
    rw [hqualified.projection] at hp
    cases hp
  | some projection =>
    simp only [hp, bind_ok, exists_unit, refuse_ok, not_or, not_not, expectedPrevious_eq,
      Except.ok.injEq, exists_eq_left', validateEvidenceIds_ok, Bool.not_eq_true, ne_eq]
    constructor
    · rintro ⟨⟨hstore, hseries, hproducer, hmode, hretrySeries, hretryProducer⟩, hprevious,
        ⟨hbatch, hkind⟩, ⟨hprovider, rfl, hlocator⟩, hfamily, hevidence, hids⟩
      exact ⟨hstore, hseries, hprevious, ⟨hproducer, hmode, hfamily⟩, ⟨hretrySeries,
        hretryProducer, hbatch.trans hkind.symm, hkind.symm, hp, hprovider, hlocator⟩, hevidence,
        hids⟩
    · rintro ⟨hstore, hseries, hprevious, ⟨hproducer, hmode, hfamily⟩, ⟨hretrySeries,
        hretryProducer, hbatch, hkind, hprojection, hprovider, hlocator⟩, hevidence, hids⟩
      cases hp.symm.trans hprojection
      exact ⟨⟨hstore, hseries, hproducer, hmode, hretrySeries, hretryProducer⟩, hprevious,
        ⟨hbatch.trans hkind.symm, hkind.symm⟩, ⟨hprovider, rfl, hlocator⟩, hfamily, hevidence,
        hids⟩

/-- The admissions that the core constructors produce under a registry a caller can hold. -/
inductive CanonicalAdmission.Constructible (registry : SeriesRegistry) :
    CanonicalAdmission → Prop where
  | observed {envelope : CollectionEnvelope} {declared : DeclaredCollectionEnvelope}
      {retry : RetryQualification} {batch : SourceBatchMetadata} {lifecycle : CaptureLifecycle}
      {contexts : List SourceObservationContext} {gaps : List SourceGapEvidence}
      {admission : CanonicalAdmission} (bound : registry.bind envelope = .ok declared)
      (made : CanonicalAdmission.observed declared retry batch lifecycle contexts gaps =
        .ok admission) : Constructible registry admission
  | noChange {envelope : CollectionEnvelope} {declared : DeclaredCollectionEnvelope}
      {retry : RetryQualification} {batch : SourceBatchMetadata} {lifecycle : CaptureLifecycle}
      {admission : CanonicalAdmission} (bound : registry.bind envelope = .ok declared)
      (made : CanonicalAdmission.noChange declared retry batch lifecycle = .ok admission) :
      Constructible registry admission

/-- What binding an envelope under a coherent registry says about its declaration. -/
theorem SeriesRegistry.Coherent.bind {registry : SeriesRegistry} (hc : registry.Coherent)
    {envelope : CollectionEnvelope} {declared : DeclaredCollectionEnvelope}
    (h : registry.bind envelope = .ok declared) :
    declared.storeId = declared.declaration.storeId ∧
      declared.declaration.seriesId = declared.envelope.series.seriesId ∧
      declared.declaration.previousRevision = declared.declaration.revision.previous? ∧
      Declares declared.declaration.payload declared.envelope := by
  obtain ⟨history, declaration, hh, -, hl, hdeclares, rfl⟩ := SeriesRegistry.bind_ok.mp h
  obtain ⟨hkey, hhistory⟩ := hc.histories _ _ hh
  have hat := hhistory.latest hl
  exact ⟨hat.storeId.symm, hat.seriesId.trans hkey, hat.previous, hdeclares⟩

/-- Whatever the core constructors produce, the wire's validator accepts. -/
theorem CanonicalAdmission.Constructible.validateDecoded_mirror {registry : SeriesRegistry}
    (hc : registry.Coherent) {admission : CanonicalAdmission}
    (h : admission.Constructible registry) (appendSequence : U64) :
    validateDecoded (admission.mirror appendSequence) = .ok () := by
  rw [validateDecoded_ok]
  cases h with
  | observed bound made =>
    obtain ⟨hqualified, -, rfl, hevidence, hids⟩ :=
      (CanonicalAdmission.observed_ok appendSequence).mp made
    obtain ⟨hstore, hseries, hprevious, hdeclares⟩ := hc.bind bound
    exact ⟨hstore, hseries, hprevious, hdeclares, hqualified, hevidence, hids⟩
  | noChange bound made =>
    obtain ⟨hqualified, rfl, hids⟩ := (CanonicalAdmission.noChange_ok appendSequence).mp made
    obtain ⟨hstore, hseries, hprevious, hdeclares⟩ := hc.bind bound
    exact ⟨hstore, hseries, hprevious, hdeclares, hqualified, rfl, hids⟩

theorem readmit_constructible {registry : SeriesRegistry} {decoded : DecodedAdmissionV1}
    {admission : CanonicalAdmission} (h : decoded.readmit registry = .ok admission) :
    admission.Constructible registry := by
  unfold DecodedAdmissionV1.readmit at h
  obtain ⟨declared, hbound, h⟩ := bind_ok.mp h
  split at h
  next => exact .observed hbound h
  next => exact .noChange hbound h

/-- The registry holds the record's own declaration as the series' current one. -/
structure SeriesRegistry.Current (registry : SeriesRegistry) (history : SeriesHistory)
    (declaration : SeriesDeclaration) (decoded : DecodedDeclarationV1) : Prop where
  found : registry.history decoded.seriesId = some history
  unretired : history.retirement = none
  latest : history.latestDeclaration = some declaration
  same : declaration.mirror = decoded

/-- Admitting a canonical record once more gives the record back. -/
theorem readmit_of_validateDecoded {registry : SeriesRegistry} (hc : registry.Coherent)
    {history : SeriesHistory} {declaration : SeriesDeclaration} {decoded : DecodedAdmissionV1}
    (hcurrent : registry.Current history declaration decoded.declaration)
    (h : validateDecoded decoded = .ok ()) :
    ∃ admission, decoded.readmit registry = .ok admission ∧
      admission.mirror decoded.appendSequence = decoded := by
  obtain ⟨hfound, hunretired, hlatest, hsame⟩ := hcurrent
  obtain ⟨hstore, hseries, -, hdeclares, hqualified, hevidence, hids⟩ := validateDecoded_ok.mp h
  obtain ⟨-, hhistory⟩ := hc.histories _ _ hfound
  have hregistry : registry.storeId = declaration.storeId := (hhistory.latest hlatest).storeId.symm
  have hbound : registry.bind decoded.envelope =
      .ok ⟨registry.storeId, declaration, decoded.envelope⟩ := by
    rw [SeriesRegistry.bind_ok]
    rw [← hsame] at hdeclares
    exact ⟨history, declaration, hseries ▸ hfound, hunretired, hlatest, hdeclares, rfl⟩
  -- the registry's declaration stands where the record's own was checked
  obtain ⟨appendSequence, storeId, _, envelope, retry, batch, lifecycle, evidence⟩ := decoded
  subst hsame
  obtain rfl : storeId = registry.storeId := hstore.trans hregistry.symm
  unfold DecodedAdmissionV1.readmit
  simp only [hbound]
  cases evidence with
  | observed lineages gaps =>
    have hmirror : (admitted ⟨registry.storeId, declaration, envelope⟩ retry batch lifecycle
        (observedEvidence (lineages.map (·.context declaration.mirror)) gaps)).mirror
          appendSequence =
        ⟨appendSequence, registry.storeId, declaration.mirror, envelope, retry, batch, lifecycle,
          .observed lineages gaps⟩ := by
      simp [admitted, observedEvidence, CanonicalAdmission.mirror, AdmissionEvidence.mirror,
        SourceObservationContext.retained, DecodedObservationLineageV1.context,
        SourceObservationLineage.mirror, Function.comp_def]
    refine ⟨_, (CanonicalAdmission.observed_ok appendSequence).mpr
      ⟨hqualified, ?_, rfl, ?_, ?_⟩, hmirror⟩
    · simp [DecodedObservationLineageV1.context]
    · rw [hmirror]
      exact hevidence
    · rw [hmirror]
      exact hids
  | noChange =>
    exact ⟨_, (CanonicalAdmission.noChange_ok appendSequence).mpr ⟨hqualified, rfl, hids⟩, rfl⟩

/-- Against a registry that holds a record's declaration as the current one, the wire's
validator and the core constructors accept the same records. -/
theorem validateDecoded_iff_readmitted (registry : SeriesRegistry) (hreachable : registry.Reachable)
    (history : SeriesHistory) (declaration : SeriesDeclaration) (decoded : DecodedAdmissionV1)
    (hcurrent : registry.Current history declaration decoded.declaration) :
    validateDecoded decoded = .ok () ↔
      ∃ admission, decoded.readmit registry = .ok admission ∧
        admission.mirror decoded.appendSequence = decoded := by
  constructor
  · exact readmit_of_validateDecoded hreachable.coherent hcurrent
  · rintro ⟨admission, hadmit, hmirror⟩
    rw [← hmirror]
    exact (readmit_constructible hadmit).validateDecoded_mirror hreachable.coherent _

/-- A small series with one observation, for the runs on concrete records. -/
def sampleReference : DeclarationReference := ⟨['a'], by decide⟩

def sampleContent : ContentIdentity := ⟨⟨['c'], by decide⟩, 1, List.replicate 32 0, by decide⟩

def sampleArtifact : ArtifactReference := ⟨sampleIdentity 1, sampleContent⟩

def sampleBinding : SeriesBinding := ⟨⟨sampleReference, some sampleReference, sampleReference⟩⟩

def sampleDeclarationPayload : SeriesDeclarationPayload :=
  ⟨sampleIdentity 1, .sampled, .signed, .absent, .resolved sampleReference, none⟩

def sampleTime : Timestamp := ⟨0, 0, by decide⟩

def sampleDeclaration : SeriesDeclaration :=
  ⟨sampleIdentity 1, sampleIdentity 1, .first, none, sampleBinding, sampleDeclarationPayload,
    ⟨sampleTime, none⟩⟩

def sampleHistory : SeriesHistory :=
  ⟨sampleIdentity 1, sampleBinding, [sampleDeclaration], none⟩

def sampleLimits : SeriesRegistryLimits := ⟨8, 8⟩

def sampleRegistry : SeriesRegistry :=
  ⟨sampleIdentity 1, sampleLimits, 1, [(sampleIdentity 1, sampleHistory)]⟩

def sampleObservation : Observation :=
  ⟨sampleIdentity 1, .signed 7, ⟨none, sampleTime, sampleTime⟩, ⟨.good, .none⟩, ⟨[], by decide⟩,
    none, none⟩

def sampleEnvelope : CollectionEnvelope :=
  ⟨⟨sampleIdentity 1, sampleIdentity 1, .sampled⟩, .observed [sampleObservation] [], by
    change validateObserved .sampled [sampleObservation] [] = .ok ()
    decide +kernel⟩

def sampleLifecycle : CaptureLifecycle :=
  ⟨⟨sampleIdentity 1, sampleReference, sampleReference⟩,
    ⟨sampleIdentity 2, sampleIdentity 1, sampleReference⟩,
    ⟨sampleIdentity 3, sampleIdentity 2, sampleTime, none, by decide⟩,
    ⟨sampleIdentity 4, sampleIdentity 3, sampleArtifact⟩, rfl, rfl, rfl⟩

/-- One record of the sample series under the retry key that is the letter `key`. -/
def sampleRetry (key : Char) (h : validatePrintableAscii maxRetryKeyBytes [key] = true) :
    RetryQualification :=
  ⟨sampleIdentity 1, sampleIdentity 1, ⟨[key], h⟩, sampleContent⟩

def sampleLineage : DecodedObservationLineageV1 :=
  ⟨0, sampleIdentity 1, ⟨sampleIdentity 5, none, .new, none⟩,
    ⟨sampleIdentity 6, sampleIdentity 4, sampleArtifact, none⟩,
    ⟨sampleIdentity 7, sampleIdentity 6, sampleContent, sampleIdentity 5⟩⟩

/-- A value that takes effect at a whole second. -/
def sampleObservationAt (observationId : UInt8) (second : Int64) : Observation :=
  { sampleObservation with
    observationId := sampleIdentity observationId
    times := ⟨none, sampleTime, ⟨second, 0, sampleTime.isNormal⟩⟩ }

/-- Each observation has three evidence identities of its own. -/
def sampleLineages (observations : List Observation) : List DecodedObservationLineageV1 :=
  observations.zipIdx.map fun (observation, index) =>
    let evidence := 5 + 3 * UInt8.ofNat index
    ⟨UInt8.ofNat index, observation.observationId, ⟨sampleIdentity evidence, none, .new, none⟩,
      ⟨sampleIdentity (evidence + 1), sampleIdentity 4, sampleArtifact, none⟩,
      ⟨sampleIdentity (evidence + 2), sampleIdentity (evidence + 1), sampleContent,
        sampleIdentity evidence⟩⟩

theorem sampleKey_printable : validatePrintableAscii maxRetryKeyBytes ['k'] = true := by decide

theorem firstKey_printable : validatePrintableAscii maxRetryKeyBytes ['a'] = true := by decide

theorem secondKey_printable : validatePrintableAscii maxRetryKeyBytes ['b'] = true := by decide

theorem thirdKey_printable : validatePrintableAscii maxRetryKeyBytes ['c'] = true := by decide

def sampleDecoded : DecodedAdmissionV1 :=
  ⟨1, sampleIdentity 1, sampleDeclaration.mirror, sampleEnvelope,
    sampleRetry 'k' sampleKey_printable,
    ⟨sampleReference, ⟨1, DeclarationRevision.first.positive⟩, .observed⟩, sampleLifecycle,
    .observed [sampleLineage] []⟩

theorem sampleRegistry_reachable : sampleRegistry.Reachable := by
  have h : (SeriesRegistry.new (sampleIdentity 1) sampleLimits).register (sampleIdentity 1)
      sampleBinding sampleDeclarationPayload ⟨sampleTime, none⟩ =
      .ok (sampleDeclaration, sampleRegistry) := by decide +kernel
  exact .register (.new _ _) h

theorem sampleRegistry_current :
    sampleRegistry.Current sampleHistory sampleDeclaration sampleDecoded.declaration :=
  ⟨by decide +kernel, rfl, rfl, rfl⟩

theorem validateDecoded_iff_readmitted_sample :
    validateDecoded sampleDecoded = .ok () ∧
      ∃ admission, sampleDecoded.readmit sampleRegistry = .ok admission ∧
        admission.mirror 1 = sampleDecoded := by
  have h : validateDecoded sampleDecoded = .ok () := by decide +kernel
  exact ⟨h, (validateDecoded_iff_readmitted sampleRegistry sampleRegistry_reachable sampleHistory
    sampleDeclaration sampleDecoded sampleRegistry_current).mp h⟩

end Historian
