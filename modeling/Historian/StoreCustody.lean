import Historian.ManifestPrepared
import Historian.StoreFaults

namespace Historian

open Wire Checks Files

/-- An error that no terminal record of the store takes for a request to open it again. -/
structure ManifestStoreError.Plain (error : ManifestStoreError) : Prop where
  store : error ≠ .reopenRequired
  journal : error ≠ .active .reopenRequired

section Plain

theorem plain_invalidManifest : ManifestStoreError.invalidManifest.Plain := ⟨by simp, by simp⟩

theorem plain_invalidRegistry : ManifestStoreError.invalidRegistry.Plain := ⟨by simp, by simp⟩

theorem plain_invalidRetry : ManifestStoreError.invalidRetry.Plain := ⟨by simp, by simp⟩

theorem plain_invalidGeneration : ManifestStoreError.invalidGeneration.Plain := ⟨by simp, by simp⟩

theorem plain_invalidInventory : ManifestStoreError.invalidInventory.Plain := ⟨by simp, by simp⟩

theorem plain_invalidOptions : ManifestStoreError.invalidOptions.Plain := ⟨by simp, by simp⟩

theorem plain_interruptedPublication : ManifestStoreError.interruptedPublication.Plain :=
  ⟨by simp, by simp⟩

theorem plain_storeMismatch : ManifestStoreError.storeMismatch.Plain := ⟨by simp, by simp⟩

theorem plain_generationExhausted : ManifestStoreError.generationExhausted.Plain :=
  ⟨by simp, by simp⟩

theorem plain_io (operation : ManifestIoOperation) (kind : IoErrorKind) :
    (ManifestStoreError.io operation kind).Plain := ⟨by simp, by simp⟩

theorem plain_alreadyExists : (ManifestStoreError.active .alreadyExists).Plain :=
  ⟨by simp, by simp⟩

theorem plain_mapRetryCodec (error : RetryStateCodecError) : (mapRetryCodec error).Plain := by
  cases error with
  | invalid => exact plain_invalidRetry
  | optionsMismatch => exact plain_invalidRetry
  | storeMismatch => exact plain_storeMismatch

theorem plain_mapRecoveryCodec (error : RecoveryCodecError) : (mapRecoveryCodec error).Plain := by
  cases error with
  | invalid => exact plain_invalidManifest
  | storeMismatch => exact plain_storeMismatch

theorem plain_mapGenerationCodec (error : GenerationCodecError) :
    (mapGenerationCodec error).Plain := by
  cases error with
  | invalid => exact plain_invalidGeneration
  | storeMismatch => exact plain_storeMismatch

end Plain

section Decoders

theorem decodeManifest_fails (bytes : Bytes) (storeId : StoreId) :
    Fails (decodeManifest bytes storeId) ManifestStoreError.Plain := by
  have hrecovery : Fails (decodeRecoveryReference bytes) ManifestStoreError.Plain := by
    unfold decodeRecoveryReference
    split
    next => exact fails_ok _
    next =>
      split
      next => exact fails_ok _
      next => exact fails_error plain_invalidManifest
  have hcatalog : Fails (decodeCatalogReference bytes) ManifestStoreError.Plain := by
    unfold decodeCatalogReference
    split
    next => exact fails_ok _
    next => exact fails_bind (fails_refuse plain_invalidManifest) fun _ => fails_ok _
  unfold decodeManifest
  refine fails_bind (fails_refuse plain_invalidManifest) fun _ => ?_
  refine fails_bind hrecovery fun _ => ?_
  refine fails_bind (fails_refuse plain_invalidManifest) fun _ => ?_
  refine fails_bind hcatalog fun _ => ?_
  refine fails_bind (fails_mapError fun _ => plain_invalidManifest) fun _ => ?_
  refine fails_bind (fails_refuse plain_storeMismatch) fun _ => ?_
  exact fails_bind (fails_refuse plain_invalidManifest) fun _ => fails_ok _

theorem encodeRegistrySnapshot_fails (generation : U64) (snapshot : SeriesRegistrySnapshot) :
    Fails (encodeRegistrySnapshot generation snapshot) ManifestStoreError.Plain := by
  unfold encodeRegistrySnapshot encodeRegistrySnapshotWithLimit validateSnapshotBounds
  refine fails_bind (fails_refuse plain_invalidRegistry) fun _ => ?_
  refine fails_bind (fails_refuse plain_generationExhausted) fun _ => ?_
  refine fails_bind (fails_mapError fun _ => plain_invalidRegistry) fun _ => ?_
  refine fails_bind (fails_refuse plain_invalidRegistry) fun _ => ?_
  refine fails_bind (fails_mapError fun _ => plain_invalidRegistry) fun _ => ?_
  exact fails_bind (fails_refuse plain_invalidRegistry) fun _ => fails_ok _

theorem decodeRegistrySnapshotAtSlot_fails (bytes : Bytes) (slot : UInt8) :
    Fails (decodeRegistrySnapshotAtSlot bytes slot) ManifestStoreError.Plain := by
  unfold decodeRegistrySnapshotAtSlot decodeRegistrySnapshot
  refine fails_bind (fails_refuse plain_invalidRegistry) fun _ => ?_
  refine fails_bind ?_ fun _ => fails_ok _
  refine fails_bind (fails_refuse plain_invalidRegistry) fun _ => ?_
  refine fails_bind (fails_refuse plain_invalidRegistry) fun _ => ?_
  refine fails_bind (fails_mapError fun _ => plain_invalidRegistry) fun _ => ?_
  refine fails_bind (fails_refuse plain_invalidRegistry) fun _ => ?_
  refine fails_bind (fails_mapError fun _ => plain_invalidRegistry) fun _ => ?_
  refine fails_bind (fails_refuse plain_invalidRegistry) fun _ => ?_
  refine fails_bind (fails_refuse plain_invalidRegistry) fun _ => ?_
  refine fails_bind (encodeRegistrySnapshot_fails _ _) fun _ => ?_
  exact fails_bind (fails_refuse plain_invalidRegistry) fun _ => fails_ok _

theorem readRequiredBounded_fails (d : StoreDirectory) (name : Artifact) (maximum : Nat) :
    Fails (readRequiredBounded d name maximum) ManifestStoreError.Plain := by
  unfold readRequiredBounded
  split
  next => exact fails_error (plain_io _ _)
  next => exact fails_bind (fails_refuse plain_invalidInventory) fun _ => fails_ok _

theorem readOptionalBounded_fails (d : StoreDirectory) (name : Artifact) (maximum : Nat) :
    Fails (readOptionalBounded d name maximum) ManifestStoreError.Plain := by
  intro error h
  unfold readOptionalBounded at h
  split at h
  next => cases h
  next => cases h
  next error' _ hread =>
    cases h
    exact readRequiredBounded_fails d name maximum _ hread

theorem checksumFileBounded_fails (d : StoreDirectory) (name : Artifact) (expectedLength : U64) :
    Fails (checksumFileBounded d name expectedLength) ManifestStoreError.Plain := by
  unfold checksumFileBounded
  refine fails_bind (fails_refuse plain_invalidGeneration) fun _ => ?_
  split
  next => exact fails_error (plain_io _ _)
  next => exact fails_bind (fails_refuse plain_invalidGeneration) fun _ => fails_ok _

end Decoders

section Parts

variable {store : ManifestStore}

theorem raises_publishReusableSlot {staging target : Artifact} {bytes : Bytes} {maximum : Nat}
    {verify : Bytes → Except ManifestStoreError Unit}
    (h : ∀ candidate, Fails (verify candidate) ManifestStoreError.Plain) :
    (publishReusableSlot staging target bytes maximum verify).Raises ManifestStoreError.Plain := by
  unfold publishReusableSlot
  refine raises_bind (raises_ensure (fails_refuse plain_invalidOptions)) fun _ => ?_
  refine raises_bind (raises_look fun _ => fails_refuse plain_interruptedPublication) fun _ => ?_
  refine raises_bind (raises_emit _) fun _ => ?_
  refine raises_bind (raises_look fun _ => readRequiredBounded_fails _ _ _) fun candidate => ?_
  exact raises_bind (raises_ensure (h candidate)) fun _ => raises_emit _

theorem raises_publishPreparedManifest (prepared : PreparedManifestPublication) :
    (store.publishPreparedManifest prepared).Raises ManifestStoreError.Plain := by
  unfold ManifestStore.publishPreparedManifest
  refine raises_bind (raises_publishReusableSlot fun candidate => ?_) fun _ => raises_pure _
  exact fails_bind (decodeManifest_fails _ _) fun _ => fails_refuse plain_invalidManifest

theorem raises_removeRecoverySlots (storeId : StoreId) (latest : Option U64) (slots : List UInt8) :
    (removeRecoverySlots storeId latest slots).Raises ManifestStoreError.Plain := by
  induction slots with
  | nil => exact raises_pure ()
  | cons slot rest ih =>
    unfold removeRecoverySlots
    refine raises_bind (raises_look fun _ => readOptionalBounded_fails _ _ _) fun found => ?_
    cases found with
    | none => exact ih
    | some bytes =>
      refine raises_bind (raises_ensure (fails_mapError plain_mapRecoveryCodec)) fun _ => ?_
      refine raises_bind (raises_ensure (fails_refuse plain_invalidManifest)) fun _ => ?_
      exact raises_bind (raises_emit _) fun _ => ih

theorem readReportGeneration_fails (d : StoreDirectory) (storeId : StoreId)
    (reference : RecoveryReference) :
    Fails (readReportGeneration d storeId reference) ManifestStoreError.Plain := by
  unfold readReportGeneration
  refine fails_bind (readRequiredBounded_fails _ _ _) fun _ => ?_
  refine fails_bind (fails_refuse plain_invalidManifest) fun _ => ?_
  exact fails_bind (fails_mapError plain_mapRecoveryCodec) fun _ => fails_ok _

theorem raises_removeUnreferencedRecoverySlots (slots : ManifestSlots) (storeId : StoreId) :
    (removeUnreferencedRecoverySlots slots storeId).Raises ManifestStoreError.Plain := by
  have hmap : ∀ (d : StoreDirectory) (references : List RecoveryReference),
      Fails (references.mapM (readReportGeneration d storeId)) ManifestStoreError.Plain := by
    intro d references
    induction references with
    | nil => exact fails_ok _
    | cons reference rest ih =>
      rw [List.mapM_cons]
      refine fails_bind (readReportGeneration_fails _ _ _) fun _ => ?_
      exact fails_bind ih fun _ => fails_ok _
  unfold removeUnreferencedRecoverySlots
  exact raises_bind (raises_look fun d => hmap d _) fun _ => raises_removeRecoverySlots _ _ _

theorem raises_publishAndAdopt (prepared : PreparedManifestPublication) :
    (store.publishAndAdoptPreparedManifest prepared).Raises ManifestStoreError.Plain := by
  unfold ManifestStore.publishAndAdoptPreparedManifest
  refine raises_bind (raises_publishPreparedManifest _) fun _ => ?_
  refine raises_bind (raises_removeEach _) fun _ => raises_bind (raises_removeEach _) fun _ => ?_
  exact raises_bind (raises_removeUnreferencedRecoverySlots _ _) fun _ => raises_pure _

theorem raises_publishRegistry (candidate : SeriesRegistry) (registry : PreparedRegistryPublication)
    (manifest : PreparedManifestPublication) :
    (store.publishRegistry candidate registry manifest).Raises ManifestStoreError.Plain := by
  unfold ManifestStore.publishRegistry ManifestStore.publishPreparedRegistrySnapshot
  refine raises_bind (raises_publishReusableSlot fun _ => ?_) fun _ => ?_
  · exact fails_bind (decodeRegistrySnapshotAtSlot_fails _ _) fun _ =>
      fails_refuse plain_invalidRegistry
  · exact raises_bind (raises_publishAndAdopt _) fun _ => raises_pure _

theorem raises_commitSyncedPending (plan : PendingCommitPlan) :
    (store.commitSyncedPending plan).Raises ManifestStoreError.Plain := by
  unfold ManifestStore.commitSyncedPending ManifestStore.publishPreparedRetrySnapshot
  refine raises_bind (raises_publishReusableSlot fun _ => ?_) fun _ => ?_
  · exact fails_bind (fails_mapError plain_mapRetryCodec) fun _ => fails_refuse plain_invalidRetry
  · exact raises_bind (raises_publishAndAdopt _) fun _ => raises_pure _

theorem raises_publishPreparedCatalogSnapshot (prepared : PreparedCatalogPublication) :
    (ManifestStore.publishPreparedCatalogSnapshot prepared).Raises ManifestStoreError.Plain := by
  unfold ManifestStore.publishPreparedCatalogSnapshot
  refine raises_bind (raises_ensure ?_) fun _ => raises_publishReusableSlot fun _ => ?_
  · split
    next => exact fails_ok _
    next => exact fails_error plain_invalidGeneration
  · exact fails_bind (fails_mapError plain_mapGenerationCodec) fun _ =>
      fails_refuse plain_invalidGeneration

theorem raises_publishRotationIntent (intent : RotationIntent) :
    (publishRotationIntent intent).Raises ManifestStoreError.Plain := by
  unfold publishRotationIntent
  refine raises_bind (raises_look fun _ => fails_refuse plain_interruptedPublication) fun _ => ?_
  refine raises_bind (raises_emit _) fun _ => ?_
  refine raises_bind (raises_look fun _ => readRequiredBounded_fails _ _ _) fun _ => ?_
  refine raises_bind (raises_ensure (fails_mapError plain_mapGenerationCodec)) fun _ => ?_
  exact raises_ensure (fails_refuse plain_invalidGeneration)

theorem raises_publishSealedGeneration (intent : RotationIntent) (expected : SealedGeneration) :
    (publishSealedGeneration intent expected).Raises ManifestStoreError.Plain := by
  unfold publishSealedGeneration
  refine raises_bind (raises_look fun _ => fails_refuse plain_invalidGeneration) fun _ => ?_
  refine raises_bind (raises_look fun d => ?_) fun _ => ?_
  · split
    next => exact fails_ok _
    next => exact fails_error (plain_io _ _)
  refine raises_bind (raises_ensure (fails_refuse plain_invalidGeneration)) fun _ => ?_
  refine raises_bind (raises_look fun _ => fails_refuse plain_interruptedPublication) fun _ => ?_
  refine raises_bind (raises_emit _) fun _ => ?_
  refine raises_bind (raises_ensure (fails_refuse plain_invalidGeneration)) fun _ => ?_
  refine raises_bind (raises_look fun _ => checksumFileBounded_fails _ _ _) fun _ => ?_
  refine raises_bind (raises_ensure (fails_refuse plain_invalidGeneration)) fun _ => ?_
  refine raises_bind (raises_emit _) fun _ => ?_
  refine raises_bind (raises_look fun _ => checksumFileBounded_fails _ _ _) fun _ => ?_
  exact raises_ensure (fails_refuse plain_invalidGeneration)

/-- The successor of a rotation is created, never opened. -/
theorem ManifestStore.RotationCommitPlan.createsSuccessor {d : StoreDirectory} {plan : RotationPlan}
    (h : store.RotationCommitPlan d plan) : plan.successorConfig.mode = .createNew := by
  have hconfig := h.config
  unfold ActiveJournalConfig.manifestGeneration at hconfig
  rw [then_ok, pure_ok] at hconfig
  rw [← hconfig.2]
  rfl

theorem raises_openSuccessor {config : ActiveJournalConfig} (h : config.mode = .createNew) :
    ((ActiveJournal.open config).mapError .active).Raises ManifestStoreError.Plain := by
  unfold ActiveJournal.open
  dsimp only
  rw [h]
  refine raises_mapError ?_
  have hpresent : ∀ (d : StoreDirectory) (name : Artifact), Fails
      (refuse (present d name = true) ActiveJournalError.alreadyExists)
      fun error => (ManifestStoreError.active error).Plain :=
    fun _ _ => fails_refuse plain_alreadyExists
  unfold ActiveJournal.createNew
  refine raises_bind (raises_look fun d => hpresent d _) fun _ => ?_
  refine raises_bind (raises_emit _) fun _ => ?_
  refine raises_bind (raises_look fun d => hpresent d _) fun _ => ?_
  exact raises_bind (raises_emit _) fun _ => raises_pure _

theorem raises_publishRotation {plan : RotationPlan} (h : plan.successorConfig.mode = .createNew) :
    (store.publishRotation plan).Raises ManifestStoreError.Plain := by
  unfold ManifestStore.publishRotation
  refine raises_bind (raises_publishRotationIntent _) fun _ => ?_
  refine raises_bind (raises_publishSealedGeneration _ _) fun _ => ?_
  refine raises_bind (raises_openSuccessor h) fun _ => ?_
  refine raises_bind (raises_ensure (fails_refuse plain_invalidGeneration)) fun _ => ?_
  refine raises_bind (raises_publishPreparedCatalogSnapshot _) fun _ => ?_
  exact raises_bind (raises_publishPreparedManifest _) fun _ => raises_pure _

theorem raises_finishRotation (sourceGeneration : U64) :
    (store.finishRotation sourceGeneration).Raises ManifestStoreError.Plain := by
  unfold ManifestStore.finishRotation
  refine raises_bind (raises_removeEach _) fun _ => raises_bind (raises_removeEach _) fun _ => ?_
  exact raises_bind (raises_removeEach _) fun _ => raises_removeUnreferencedRecoverySlots _ _

end Parts

section Starts

/-- A part that creates a file first: where it has changed nothing, the file was there. -/
def CreatesFirst {α : Type} (part : StoreAction α) : Prop :=
  ∀ d r, part d = (r, []) → r = .error .interruptedPublication

variable {store : ManifestStore}

theorem createsFirst_bind {α β : Type} {part : StoreAction α} {next : α → StoreAction β}
    (h : CreatesFirst part) : CreatesFirst (part >>= next) := by
  intro d r hr
  rw [run_bind] at hr
  rcases hpart : part d with ⟨first, effects⟩
  rw [hpart] at hr
  cases first with
  | error error =>
    obtain ⟨rfl, rfl⟩ := Prod.mk.inj hr
    cases h d _ hpart
    rfl
  | ok x =>
    have hnone : effects = [] := List.append_eq_nil_iff.mp (Prod.mk.inj hr).2 |>.1
    subst hnone
    cases h d _ hpart

theorem createsFirst_publishReusableSlot {staging target : Artifact} {bytes : Bytes} {maximum : Nat}
    {verify : Bytes → Except ManifestStoreError Unit} (h : 0 < bytes.length)
    (hmax : bytes.length ≤ maximum) :
    CreatesFirst (publishReusableSlot staging target bytes maximum verify) := by
  have hlen : refuse (bytes = [] ∨ maximum < bytes.length) ManifestStoreError.invalidOptions =
      .ok () := by
    rw [refuse_ok]
    intro hbad
    rcases hbad with rfl | hlong
    · exact absurd h (Nat.lt_irrefl 0)
    · omega
  intro d r hr
  unfold publishReusableSlot at hr
  rw [hlen, run_ensure_bind, run_look_bind] at hr
  dsimp only at hr
  by_cases hpresent : present d staging = true
  · rw [refuse, if_pos hpresent] at hr
    exact (Prod.mk.inj hr).1.symm
  · rw [refuse, if_neg hpresent] at hr
    dsimp only at hr
    rw [run_emit_bind] at hr
    cases (Prod.mk.inj hr).2

theorem createsFirst_publishRegistry {candidate : SeriesRegistry}
    {registry : PreparedRegistryPublication} {manifest : PreparedManifestPublication}
    (h : store.RegistryCommitPlan candidate registry manifest) :
    CreatesFirst (store.publishRegistry candidate registry manifest) := by
  obtain ⟨-, hpos, hmax⟩ := encodeRegistrySnapshot_length h.encoded
  exact createsFirst_bind (createsFirst_publishReusableSlot hpos hmax)

theorem createsFirst_commitSyncedPending {cutoff : DurableCutoff}
    {pending : List PendingRetryOutcome} {plan : PendingCommitPlan} {prior : ManifestStore}
    (h : prior.PendingPlan cutoff pending plan) :
    CreatesFirst (store.commitSyncedPending plan) := by
  obtain ⟨hpos, hmax⟩ := encodeRetryState_length h.encoded
  exact createsFirst_bind (createsFirst_publishReusableSlot hpos hmax)

theorem createsFirst_publishRotation (plan : RotationPlan) :
    CreatesFirst (store.publishRotation plan) := by
  refine createsFirst_bind ?_
  intro d r hr
  unfold publishRotationIntent at hr
  rw [run_look_bind] at hr
  by_cases hpresent : present d .rotationIntent = true
  · rw [refuse, if_pos hpresent] at hr
    exact (Prod.mk.inj hr).1.symm
  · rw [refuse, if_neg hpresent] at hr
    dsimp only at hr
    rw [run_emit_bind] at hr
    cases (Prod.mk.inj hr).2

end Starts

end Historian
