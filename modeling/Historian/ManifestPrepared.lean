import Historian.RegistryDecode
import Historian.RetryDecode
import Historian.StoreAtRoot
import Historian.RetryBatch

namespace Historian

open Wire Checks Files

section References

theorem encodeRegistrySnapshot_length {generation : U64} {snapshot : SeriesRegistrySnapshot}
    {bytes : Bytes} (h : encodeRegistrySnapshot generation snapshot = .ok bytes) :
    generation ≠ 0 ∧ 0 < bytes.length ∧ bytes.length ≤ maxRegistrySnapshotBytes := by
  unfold encodeRegistrySnapshot encodeRegistrySnapshotWithLimit at h
  simp only [bind_ok, exists_unit, refuse_ok, pure_ok, not_or, not_not, Nat.not_lt,
    Prod.exists] at h
  obtain ⟨-, hgeneration, counter, -, ⟨-, hmaximum⟩, payload, -, hlen, rfl⟩ := h
  have htotal : (withChecksum (registryHeader generation snapshot counter.len ++ payload)).length =
      registryHeaderLen + counter.len + registryCrcLen := by
    rw [length_withChecksum, List.length_append, length_registryHeader, hlen]
    rfl
  rw [htotal]
  simp only [registryHeaderLen] at hmaximum ⊢
  exact ⟨hgeneration, by omega, hmaximum⟩

theorem encodeRetryState_length {snapshot : RetryStateSnapshot} {bytes : Bytes}
    (h : encodeRetryState snapshot = .ok bytes) :
    0 < bytes.length ∧ bytes.length ≤ maxRetryStateBytes := by
  unfold encodeRetryState encodeRetryStateWithLimit at h
  rw [then_ok] at h
  obtain ⟨-, h⟩ := h
  split at h
  next => cases h
  next reference _ =>
    simp only [bind_ok, exists_unit, refuse_ok, pure_ok, not_or, not_not, Nat.not_lt,
      Prod.exists] at h
    obtain ⟨counter, -, ⟨-, hmaximum⟩, payload, -, hlen, rfl⟩ := h
    have htotal : (withChecksum (retryHeader snapshot reference.generation counter.len ++
        payload)).length = retryHeaderLen + counter.len + retryCrcLen := by
      rw [length_withChecksum, List.length_append, length_retryHeader, hlen]
      rfl
    rw [htotal]
    simp only [retryHeaderLen] at hmaximum ⊢
    exact ⟨by omega, hmaximum⟩

theorem encodeCatalog_length {snapshot : GenerationCatalogSnapshot} {bytes : Bytes}
    (h : encodeCatalog snapshot = .ok bytes) :
    0 < bytes.length ∧ bytes.length ≤ maxGenerationCatalogBytes := by
  obtain ⟨reference, -, -, -, -, hcount, rfl⟩ := encodeCatalog_ok.mp h
  rw [length_withChecksum, length_catalogBody]
  simp only [maxSealedGenerations, maxGenerationCatalogBytes, catalogHeaderLen,
    catalogEntryLen] at hcount ⊢
  omega

/-- What a manifest requires of the registry file that it names. -/
structure RegistryReference.Valid (reference : RegistryReference) : Prop where
  slot : reference.slot < 3
  generation : reference.generation ≠ 0
  length : reference.length ≠ 0
  bound : reference.length.val ≤ maxRegistrySnapshotBytes

/-- What a manifest requires of the retry file that it names. -/
structure RetryArtifactReference.Valid (reference : RetryArtifactReference) : Prop where
  slot : reference.state.slot < 3
  generation : reference.state.generation ≠ 0
  length : reference.length ≠ 0
  bound : reference.length.val ≤ maxRetryStateBytes

theorem ManifestRecord.Valid.registryReference {record : ManifestRecord} {storeId : StoreId}
    (h : record.Valid storeId) : record.registry.Valid :=
  ⟨h.registrySlot, h.registryGeneration, h.registryLength, h.registryBound⟩

theorem ManifestRecord.Valid.retryReference {record : ManifestRecord} {storeId : StoreId}
    (h : record.Valid storeId) : record.retry.Valid :=
  ⟨h.retrySlot, h.retryGeneration, h.retryLength, h.retryBound⟩

theorem ofNat_length_bounds {bytes : Bytes} {maximum : Nat} (hpositive : 0 < bytes.length)
    (hfits : bytes.length ≤ maximum) (hmaximum : maximum < 2 ^ 64) :
    Fin.ofNat (2 ^ 64) bytes.length ≠ 0 ∧ (Fin.ofNat (2 ^ 64) bytes.length).val ≤ maximum := by
  have hval := val_ofNat_length hfits hmaximum
  refine ⟨?_, by omega⟩
  intro hzero
  rw [hzero] at hval
  have h0 : (0 : Fin (2 ^ 64)).val = 0 := rfl
  omega

/-- A reference to the file that a snapshot is written as. -/
theorem RegistryReference.Valid.of_encoded {reference : RegistryReference}
    {snapshot : SeriesRegistrySnapshot} {bytes : Bytes} (hslot : reference.slot < 3)
    (h : encodeRegistrySnapshot reference.generation snapshot = .ok bytes)
    (hlength : reference.length = Fin.ofNat _ bytes.length) : reference.Valid := by
  obtain ⟨hgeneration, hpositive, hfits⟩ := encodeRegistrySnapshot_length h
  obtain ⟨hne, hle⟩ := ofNat_length_bounds hpositive hfits (by decide)
  rw [← hlength] at hne hle
  exact ⟨hslot, hgeneration, hne, hle⟩

theorem RetryArtifactReference.Valid.of_encoded {reference : RetryArtifactReference}
    {snapshot : RetryStateSnapshot} {bytes : Bytes} (hslot : reference.state.slot < 3)
    (hgeneration : reference.state.generation ≠ 0) (h : encodeRetryState snapshot = .ok bytes)
    (hlength : reference.length = Fin.ofNat _ bytes.length) : reference.Valid := by
  obtain ⟨hpositive, hfits⟩ := encodeRetryState_length h
  obtain ⟨hne, hle⟩ := ofNat_length_bounds hpositive hfits (by decide)
  rw [← hlength] at hne hle
  exact ⟨hslot, hgeneration, hne, hle⟩

/-- What a manifest requires of the catalog file that it names. -/
theorem encodeCatalog_reference {snapshot : GenerationCatalogSnapshot} {bytes : Bytes}
    {reference : GenerationCatalogReference} (h : encodeCatalog snapshot = .ok bytes)
    (hreference : snapshot.reference = some reference)
    (hlength : reference.length = Fin.ofNat _ bytes.length) :
    reference.slot < 3 ∧ reference.generation ≠ 0 ∧ reference.length ≠ 0 ∧
      reference.length.val ≤ maxGenerationCatalogBytes := by
  obtain ⟨hpositive, hfits⟩ := encodeCatalog_length h
  obtain ⟨hne, hle⟩ := ofNat_length_bounds hpositive hfits (by decide)
  rw [← hlength] at hne hle
  obtain ⟨found, hfound, hslot, hgeneration, -⟩ := encodeCatalog_ok.mp h
  rw [hreference, Option.some.injEq] at hfound
  subst hfound
  exact ⟨hslot, hgeneration, hne, hle⟩

theorem readInterruptedGenesisRegistry_valid {d : StoreDirectory}
    {expected : SeriesRegistrySnapshot} {found : Option RegistryReference} {slots : List UInt8}
    {reference : RegistryReference}
    (hfound : ∀ prior ∈ found, prior.Valid ∧ prior.generation = 1)
    (h : readInterruptedGenesisRegistry d expected found slots = .ok reference) :
    reference.Valid ∧ reference.generation = 1 := by
  induction slots generalizing found with
  | nil =>
    cases found with
    | none => cases h
    | some prior =>
      cases h
      exact hfound _ rfl
  | cons slot rest ih =>
    rw [readInterruptedGenesisRegistry, bind_ok] at h
    obtain ⟨bytes, -, h⟩ := h
    cases bytes with
    | none => exact ih hfound h
    | some bytes =>
      simp only [bind_ok, exists_unit, refuse_ok, not_or, not_not] at h
      obtain ⟨-, decoded, hdecoded, ⟨-, hone, -⟩, h⟩ := h
      refine ih ?_ h
      intro prior hprior
      cases hprior
      obtain ⟨hlt, hslot, hgeneration, hlength, -, -, hmaximum, hnonempty⟩ :=
        decodeRegistrySnapshotAtSlot_sound hdecoded
      obtain ⟨hne, hle⟩ := ofNat_length_bounds (List.length_pos_iff.mpr hnonempty) hmaximum
        (by decide)
      rw [← hlength] at hne hle
      exact ⟨⟨by rwa [hslot], hgeneration, hne, hle⟩, hone⟩

theorem readInterruptedGenesisRetry_valid {d : StoreDirectory} {storeId : StoreId}
    {options : RetryPersistenceOptions} {found : Option RetryArtifactReference}
    {slots : List UInt8} {reference : RetryArtifactReference}
    (hfound : ∀ prior ∈ found, prior.Valid ∧ prior.state.generation = 1)
    (h : readInterruptedGenesisRetry d storeId options found slots = .ok reference) :
    reference.Valid ∧ reference.state.generation = 1 := by
  induction slots generalizing found with
  | nil =>
    cases found with
    | none => cases h
    | some prior =>
      cases h
      exact hfound _ rfl
  | cons slot rest ih =>
    rw [readInterruptedGenesisRetry, bind_ok] at h
    obtain ⟨bytes, -, h⟩ := h
    cases bytes with
    | none => exact ih hfound h
    | some bytes =>
      simp only [bind_ok, exists_unit, refuse_ok, mapError_ok, not_or, not_not, Prod.exists] at h
      obtain ⟨-, decoded, snapshot, hdecoded, ⟨hone, -, -⟩, h⟩ := h
      refine ih ?_ h
      intro prior hprior
      cases hprior
      obtain ⟨hlt, hslot, hgeneration, hlength, -, -, -, -, -, hmaximum, hnonempty, -⟩ :=
        decodeRetryStateAtSlot_sound hdecoded
      obtain ⟨hne, hle⟩ := ofNat_length_bounds (List.length_pos_iff.mpr hnonempty) hmaximum
        (by decide)
      rw [← hlength] at hne hle
      exact ⟨⟨by rwa [hslot], hgeneration, hne, hle⟩, hone⟩

/-- The first registry file of a store, a new one or one that is found, is of generation one. -/
theorem genesisRegistry_valid {store : ManifestStore} {inventory : Inventory} {d : StoreDirectory}
    {reference : RegistryReference} (h : (genesisRegistry store inventory d).1 = .ok reference) :
    reference.Valid ∧ reference.generation = 1 := by
  unfold genesisRegistry at h
  split at h
  next =>
    have hpublishes : (publishGenesisRegistry store).Yields
        fun reference => reference.Valid ∧ reference.generation = 1 := by
      unfold publishGenesisRegistry
      refine yields_bind (Q := fun prepared => store.prepareRegistrySnapshot 1
        store.registry.snapshot = .ok prepared) (fun _ _ hprepared => hprepared) ?_
      intro prepared hprepared
      obtain ⟨hnumber, hslot, -, hencoded, hlength, -⟩ :=
        ManifestStore.prepareRegistrySnapshot_ok hprepared
      rw [← hnumber] at hencoded
      exact yields_then fun _ => yields_pure ⟨.of_encoded hslot hencoded hlength, hnumber⟩
    exact hpublishes d reference h
  next => exact readInterruptedGenesisRegistry_valid (by simp) h

/-- So is the first retry file. -/
theorem genesisRetry_valid {store : ManifestStore} {inventory : Inventory} {d : StoreDirectory}
    {reference : RetryArtifactReference} (h : (genesisRetry store inventory d).1 = .ok reference) :
    reference.Valid ∧ reference.state.generation = 1 := by
  unfold genesisRetry at h
  split at h
  next =>
    have hpublishes : (publishGenesisRetry store).Yields
        fun reference => reference.Valid ∧ reference.state.generation = 1 := by
      unfold publishGenesisRetry
      refine yields_bind (Q := fun prepared => store.prepareRetrySnapshot ⟨0, 1⟩
        (.emptyPersisted store.retry.storeId store.retry.options ⟨0, 1⟩) = .ok prepared)
        (fun _ _ hprepared => hprepared) ?_
      intro prepared hprepared
      obtain ⟨hstate, -, hencoded, hlength, -⟩ := ManifestStore.prepareRetrySnapshot_ok hprepared
      have hslot : prepared.reference.state.slot < 3 := by
        rw [hstate]
        decide
      have hone : prepared.reference.state.generation = 1 := by rw [hstate]
      have hne : prepared.reference.state.generation ≠ 0 := by
        rw [hone]
        decide
      exact yields_then fun _ => yields_pure ⟨.of_encoded hslot hne hencoded hlength, hone⟩
    exact hpublishes d reference h
  next => exact readInterruptedGenesisRetry_valid (by simp) h

end References

section Records

variable {store : ManifestStore} {storeId : StoreId} {d : StoreDirectory}

theorem ne_zero_of_succ {before next : U64} (h : before.val + 1 = next.val) : next ≠ 0 := by
  intro hzero
  have h0 : (0 : U64).val = 0 := rfl
  rw [hzero] at h
  omega

/-- A synchronisation that reaches further than the root writes another checkpoint. -/
theorem pendingDurableCutoff_checkpoint {journal : ActiveJournal} {cutoff : DurableCutoff}
    (h : journal.pendingDurableCutoff = .ok cutoff) (hne : cutoff ≠ journal.durableCutoff) :
    cutoff.checkpointGeneration ≠ 0 := by
  unfold ActiveJournal.pendingDurableCutoff at h
  rw [then_ok] at h
  obtain ⟨-, h⟩ := h
  split at h
  next =>
    cases h
    exact absurd rfl hne
  next =>
    rw [bind_ok] at h
    obtain ⟨next, hnext, h⟩ := h
    unfold ActiveJournal.pendingCheckpointState at hnext
    split at hnext
    next => cases hnext
    next generation hgeneration =>
      cases hnext
      cases h
      exact ne_zero_of_succ (checkedAdd_eq_some.mp hgeneration)

theorem validatePendingRetry_nonempty {prior cutoff : DurableCutoff}
    {pending : List PendingRetryOutcome} (h : validatePendingRetry prior cutoff pending = .ok ()) :
    pending.length ≠ 0 := by
  unfold validatePendingRetry validatePendingRetryPreflight at h
  rw [then_ok, refuse_ok] at h
  simp only [not_or] at h
  exact h.1.1

/-- A root behind another one with a higher generation keeps what the generation bounds. -/
theorem ManifestRecord.Valid.order_next {record : ManifestRecord} (h : record.Valid storeId)
    {generation : U64} (hnext : record.generation.val + 1 = generation.val) :
    record.registry.generation ≤ generation ∧ record.retry.state.generation ≤ generation := by
  have hregistry := h.registryOrder
  have hretry := h.retryOrder
  rw [Fin.le_def] at hregistry hretry ⊢
  rw [Fin.le_def]
  omega

theorem ManifestStore.AtRoot.valid_batch (hroot : store.AtRoot)
    (h : store.current.Valid storeId) {pending : List PendingRetryOutcome}
    {plan : PendingCommitPlan} (hplan : store.planSync pending = .ok (some plan)) :
    plan.manifest.record.Valid storeId := by
  obtain ⟨-, -, cutoff, hcutoff, hne, hprepared⟩ := ManifestStore.planSync_some hplan
  have hpending := ManifestStore.prepareSyncedPending_ok hprepared
  obtain ⟨hjournal, hend, hcount, -⟩ := validatePendingRetry_behind hpending.accepted
  have hnonempty := validatePendingRetry_nonempty hpending.accepted
  have hcheckpoint : cutoff.checkpointGeneration ≠ 0 := by
    refine pendingDurableCutoff_checkpoint hcutoff ?_
    rw [hroot.cutoff]
    exact hne
  obtain ⟨hslot, -⟩ := candidateSlot_ok hpending.slot
  have hretry : plan.retryPublication.reference.Valid :=
    .of_encoded hslot (ne_zero_of_succ hpending.retryGeneration) hpending.encoded hpending.length
  have hheader := hroot.header
  have hfloor := h.floor
  have hretryOrder := h.retryOrder
  have hgeneration := hpending.generation
  have hretryGeneration := hpending.retryGeneration
  rw [Fin.lt_def] at hend
  rw [Fin.le_def] at hfloor hretryOrder
  have hlater : store.current.sequenceFloor.val < cutoff.appendSequence.val := by omega
  have hbehind : journalV1HeaderLen < cutoff.endOffset.val := by omega
  have hretryNext : plan.retryPublication.reference.state.generation ≤
      plan.manifest.record.generation := by
    rw [Fin.le_def]
    omega
  have hempty : cutoff.appendSequence = store.current.sequenceFloor ↔
      cutoff.endOffset.val = journalV1HeaderLen := by
    refine ⟨?_, fun hsame => absurd hsame (Nat.ne_of_gt hbehind)⟩
    intro hsame
    exact absurd (congrArg Fin.val hsame) (Nat.ne_of_gt hlater)
  rw [hpending.record]
  exact { h with
    store := (congrArg JournalIdentity.storeId hjournal).trans h.store
    retrySlot := hretry.slot
    retryGeneration := hretry.generation
    retryLength := hretry.length
    retryBound := hretry.bound
    generation := ne_zero_of_succ hgeneration
    journalGeneration := by rw [hjournal]; exact h.journalGeneration
    firstGeneration := by rw [hjournal]; exact h.firstGeneration
    laterGeneration := by rw [hjournal]; exact h.laterGeneration
    checkpoint := hcheckpoint
    registryOrder := (h.order_next hgeneration).1
    retryOrder := hretryNext
    floor := Nat.le_of_lt hlater
    empty := hempty }

theorem ManifestStore.AtRoot.valid_registry (hroot : store.AtRoot)
    (h : store.current.Valid storeId) {candidate : SeriesRegistry}
    {registry : PreparedRegistryPublication} {manifest : PreparedManifestPublication}
    (hplan : store.RegistryCommitPlan candidate registry manifest) :
    manifest.record.Valid storeId := by
  have hreference : registry.reference.Valid :=
    .of_encoded hplan.slot hplan.encoded hplan.length
  have hregistry := h.registryOrder
  have hgeneration := hplan.generation
  have hregistryGeneration := hplan.registryGeneration
  rw [Fin.le_def] at hregistry
  have hregistryNext : registry.reference.generation ≤ manifest.record.generation := by
    rw [Fin.le_def]
    omega
  rw [hplan.record, hroot.cutoff]
  exact { h with
    generation := ne_zero_of_succ hgeneration
    registrySlot := hreference.slot
    registryGeneration := hreference.generation
    registryOrder := hregistryNext
    registryLength := hreference.length
    registryBound := hreference.bound
    retryOrder := (h.order_next hgeneration).2 }

theorem ManifestStore.RecoveryCommitPlan.valid {recovery : RecoveryCommit}
    (hplan : store.RecoveryCommitPlan recovery) (h : store.current.Valid storeId)
    (hslot : recovery.artifact.reference.slot < 3) : recovery.manifest.record.Valid storeId := by
  obtain ⟨hregistry, hretry⟩ := h.order_next hplan.generation
  rw [hplan.record]
  exact { h with
    recovery := by
      intro reference hreference
      cases hreference
      exact hslot
    generation := ne_zero_of_succ hplan.generation
    registryOrder := hregistry
    retryOrder := hretry }

/-- The generation that a rotation seals has a record, so its cutoff is not zero. -/
theorem prepareSealedGeneration_sequence {intent : RotationIntent} {sequenceFloor : U64}
    {limits : ActiveJournalLimits} {registry : SeriesRegistry} {entry : SealedGeneration}
    (h : prepareSealedGeneration d intent sequenceFloor limits registry = .ok entry) :
    intent.sequenceCutoff ≠ 0 := by
  unfold prepareSealedGeneration expectedSealedEntry at h
  simp only [bind_ok, exists_unit, refuse_ok, pure_ok] at h
  obtain ⟨-, _, ⟨checksum, -, rfl⟩, hvalid, rfl⟩ := h
  unfold validateSealedJournal at hvalid
  split at hvalid
  next => cases hvalid
  next file _ =>
    simp only [bind_ok, exists_unit, refuse_ok, Prod.exists, not_or, not_not] at hvalid
    obtain ⟨-, -, _, -, -, offset, previous, -, -, hsequence, -⟩ := hvalid
    cases previous with
    | none => cases hsequence
    | some sequence =>
      have hpositive := sequence.positive
      rw [Option.map_some, Option.some.injEq] at hsequence
      rw [← hsequence]
      exact Fin.ne_of_val_ne (Nat.ne_of_gt hpositive)

theorem ManifestStore.RotationCommitPlan.valid {plan : RotationPlan}
    (hplan : store.RotationCommitPlan d plan) (h : store.current.Valid storeId) :
    plan.manifest.record.Valid storeId := by
  obtain ⟨hregistry, hretry⟩ := h.order_next hplan.generation
  have hsuccessor := hplan.successor
  have hjournal : store.current.cutoff.journal.generation.val ≠ 0 := by
    intro hzero
    exact h.journalGeneration (Fin.ext hzero)
  have hsequence : store.current.cutoff.appendSequence ≠ 0 := by
    have hsealed := prepareSealedGeneration_sequence hplan.prepared
    rw [hplan.intent] at hsealed
    change store.journal.durableCutoff.appendSequence ≠ 0 at hsealed
    rw [hplan.root] at hsealed
    exact hsealed
  obtain ⟨reference, hreference, -, -, hlength, -⟩ := hplan.reference
  rw [hplan.record]
  exact { h with
    catalog := by
      intro found hfound
      rw [Option.mem_def, hreference, Option.some.injEq] at hfound
      subst hfound
      exact encodeCatalog_reference hplan.encoded hreference hlength
    generation := ne_zero_of_succ hplan.generation
    journalGeneration := ne_zero_of_succ hsuccessor
    firstGeneration := by
      intro hfirst
      change plan.intent.successorGeneration.val = activeJournalGeneration at hfirst
      simp only [activeJournalGeneration] at hfirst
      omega
    laterGeneration := by
      intro _
      refine ⟨hsequence, ?_⟩
      change plan.catalog.snapshot.reference ≠ none
      rw [hreference]
      exact Option.some_ne_none _
    checkpoint := Fin.ne_of_val_ne (by decide : (1 : U64).val ≠ 0)
    registryOrder := hregistry
    retryOrder := hretry
    floor := Nat.le_refl _
    empty := ⟨fun _ => rfl, fun _ => rfl⟩ }

end Records

/-- The records that the commits of a store prepare a manifest of: the first root of a new store,
the roots of the batches, registry commits and rotations of an open store in any state that it can
reach, and the roots of the recoveries of its opens. -/
inductive ManifestRecord.Prepared (config : ManifestStoreConfig) : ManifestRecord → Prop
  | genesis {store : ManifestStore} {inventory : Inventory} {d d' : StoreDirectory}
      {registry : RegistryReference} {retry : RetryArtifactReference}
      (empty : store.journal.durableCutoff = genesisPlaceholder config.storeId)
      (registers : (genesisRegistry store inventory d).1 = .ok registry)
      (retries : (genesisRetry store inventory d').1 = .ok retry) :
    Prepared config ⟨1, registry, store.journal.durableCutoff, retry, none, 0, none⟩
  | batch {store : ManifestStore} {d : StoreDirectory} {pending : List PendingRetryOutcome}
      {plan : PendingCommitPlan} (before : StoreState.Reachable config (.running store d))
      (plans : store.planSync pending = .ok (some plan)) : Prepared config plan.manifest.record
  | registry {store : ManifestStore} {d : StoreDirectory} {α : Type}
      {operation : SeriesRegistry → Except ModelError (α × SeriesRegistry)} {output : α}
      {candidate : SeriesRegistry} {registry : PreparedRegistryPublication}
      {manifest : PreparedManifestPublication}
      (before : StoreState.Reachable config (.running store d))
      (plans : store.planRegistry operation = .ok (.publish output candidate registry manifest)) :
    Prepared config manifest.record
  | rotation {store : ManifestStore} {d : StoreDirectory} {plan : RotationPlan}
      (before : StoreState.Reachable config (.running store d))
      (usable : store.ensureUsable = .ok ()) (plans : store.prepareRotation d = .ok plan) :
    Prepared config plan.manifest.record
  | recovery {slots : ManifestSlots} {slot : Fin 2} {current : ManifestRecord}
      {intent : Option RotationIntent} {journal : ActiveJournal}
      {plan : Option ActiveRecoveryPlan} {d : StoreDirectory} {read : CommittedRead}
      {recovery : RecoveryCommit} (on : slots.On config.storeId d)
      (selects : slots.Selects slot current)
      (reads : readCommitted config slots slot current intent journal plan d = .ok read)
      (plans : read.store.planRecovery read.recoveryInventory read.recoveryPlan =
        .ok (some recovery)) :
    Prepared config recovery.manifest.record

/-- Every record that a commit prepares is one that a store of its identity reads back. -/
theorem ManifestRecord.Prepared.valid {config : ManifestStoreConfig} {record : ManifestRecord}
    (h : ManifestRecord.Prepared config record) : record.Valid config.storeId := by
  induction h with
  | @genesis store inventory d d' registry retry empty registers retries =>
    obtain ⟨hregistry, hregistryOne⟩ := genesisRegistry_valid registers
    obtain ⟨hretry, hretryOne⟩ := genesisRetry_valid retries
    rw [empty]
    exact {
      store := rfl
      recovery := by simp
      retrySlot := hretry.slot
      retryGeneration := hretry.generation
      retryLength := hretry.length
      retryBound := hretry.bound
      catalog := by simp
      generation := Fin.ne_of_val_ne (by decide : (1 : U64).val ≠ 0)
      journalGeneration := Fin.ne_of_val_ne (by decide : (1 : U64).val ≠ 0)
      firstGeneration := fun _ => ⟨rfl, rfl⟩
      laterGeneration := fun hlater => absurd hlater (Nat.lt_irrefl 1)
      checkpoint := Fin.ne_of_val_ne (by decide : (1 : U64).val ≠ 0)
      registrySlot := hregistry.slot
      registryGeneration := hregistry.generation
      registryOrder := Fin.le_of_eq hregistryOne
      registryLength := hregistry.length
      registryBound := hregistry.bound
      retryOrder := Fin.le_of_eq hretryOne
      floor := Nat.le_refl _
      empty := ⟨fun _ => rfl, fun _ => rfl⟩ }
  | @batch store d pending plan before plans =>
    have husable := (ManifestStore.planSync_some plans).1
    exact (before.usableAtRoot husable).valid_batch (before.rootKept.2 husable).root.valid plans
  | @registry store d α operation output candidate registry manifest before plans =>
    have hplan := (ManifestStore.planRegistry_publish plans).1
    exact (before.usableAtRoot hplan.usable).valid_registry
      (before.rootKept.2 hplan.usable).root.valid hplan
  | @rotation store d plan before usable plans =>
    exact (ManifestStore.prepareRotation_ok plans).valid (before.rootKept.2 usable).root.valid
  | @recovery slots slot current intent journal plan d read recovery on selects reads plans =>
    have hheld := (readCommitted_ok reads).1
    have hrooted : RootedAt config.storeId slots slot current d := ⟨on, selects, hheld⟩
    obtain ⟨hstore, -, -⟩ := hrooted.read reads
    have hselected := (ManifestStore.planRecovery_selected plans).1
    exact (ManifestStore.planRecovery_some plans).valid hstore.root.valid
      (candidateSlot_ok hselected.slot).1

/-- A record that a commit of a store prepares survives its manifest, and a manifest that a store
accepts is the encoding of what it is read as. -/
theorem manifest_round_trips (config : ManifestStoreConfig) :
    (∀ record, ManifestRecord.Prepared config record →
      decodeManifest (encodeManifest record) config.storeId = .ok record) ∧
    ∀ bytes storeId record, decodeManifest bytes storeId = .ok record →
      encodeManifest record = bytes := by
  refine ⟨?_, ?_⟩
  · intro record h
    exact decodeManifest_ok.mpr ⟨h.valid, rfl⟩
  · intro bytes storeId record h
    exact (decodeManifest_ok.mp h).2.symm

def sampleRegistration (registry : SeriesRegistry) :
    Except ModelError (SeriesDeclaration × SeriesRegistry) :=
  registry.register (sampleIdentity 1) sampleBinding sampleDeclarationPayload ⟨sampleTime, none⟩

theorem sampleRegistration_published : (sampleOpened.1.toOption.any fun store =>
    match store.planRegistry sampleRegistration with
    | .ok (.publish _ _ _ manifest) => decide (manifest.record.generation.val = 2)
    | _ => false) = true := by
  decide +kernel

/-- The first declaration of a new store leads to its second root. -/
theorem manifest_round_trips_sample :
    ∃ record, ManifestRecord.Prepared sampleStoreConfig record ∧ record.generation.val = 2 ∧
      decodeManifest (encodeManifest record) (sampleIdentity 1) = .ok record := by
  obtain ⟨store, hstore, hplan⟩ := exists_ok_any sampleRegistration_published
  have hopened : ManifestStore.open { sampleStoreConfig with mode := .createNew } ∅ =
      (.ok store, sampleOpened.2) := by
    have hmode : ({ sampleStoreConfig with mode := .createNew } : ManifestStoreConfig) =
        sampleStoreConfig := rfl
    unfold sampleOpened at hstore ⊢
    rw [hmode, ← hstore]
  have hfresh : StoreState.Reachable sampleStoreConfig (.stopped ∅) :=
    .fresh fun slot => Finmap.lookup_empty _
  have hreachable := StoreState.Reachable.opened hfresh hopened
  split at hplan
  next output candidate registry manifest hpublish =>
    have hprepared : ManifestRecord.Prepared sampleStoreConfig manifest.record :=
      .registry hreachable hpublish
    have hround := (manifest_round_trips sampleStoreConfig).1 _ hprepared
    exact ⟨manifest.record, hprepared, of_decide_eq_true hplan, hround⟩
  next => cases hplan

/-- The artifact of a snapshot that the checks accept stays far below its ceiling, and all counts
fit their fields. -/
theorem retryPayload_fits {snapshot : RetryStateSnapshot} (h : validateState snapshot = .ok ()) :
    ∃ payload, Writes (encodeRetryPayload snapshot) payload ∧
      retryHeaderLen + payload.length + retryCrcLen ≤ maxRetryStateBytes ∧
      snapshot.options.replayCapacity < 2 ^ 32 ∧ snapshot.options.guardCapacity < 2 ^ 32 ∧
      snapshot.replay.length < 2 ^ 32 ∧ snapshot.guard.length < 2 ^ 32 := by
  unfold validateState at h
  simp only [then_ok, refuse_ok, not_or, Nat.not_lt] at h
  obtain ⟨-, -, hentries, -⟩ := h.1
  have hwrites : WritesAtMost (encodeRetryPayload snapshot)
      (snapshot.replay.length * 416 + snapshot.guard.length * 416) :=
    (WritesAtMost.forM snapshot.replay fun outcome _ => bound_replayOutcome outcome).seq
      (WritesAtMost.forM snapshot.guard fun entry _ => bound_guardEntry entry)
  obtain ⟨payload, hpayload, hlength⟩ := hwrites
  have hmost : maxPersistedRetryEntries = 4096 := rfl
  have hlimit : maxRetryStateBytes = 2097152 := rfl
  have hheader : retryHeaderLen = 64 := rfl
  have hcrc : retryCrcLen = 4 := rfl
  have hbounded := snapshot.options.bounded
  exact ⟨payload, hpayload, by omega, by omega, by omega, by omega, by omega⟩

/-- Every snapshot that the checks accept fits its artifact, so it is encoded exactly when it
carries the reference that the artifact states. -/
theorem retry_artifact_fits {snapshot : RetryStateSnapshot}
    (h : validateState snapshot = .ok ()) :
    (∃ payload, Writes (encodeRetryPayload snapshot) payload ∧
      retryHeaderLen + payload.length + retryCrcLen ≤ maxRetryStateBytes ∧
      snapshot.options.replayCapacity < 2 ^ 32 ∧ snapshot.options.guardCapacity < 2 ^ 32 ∧
      snapshot.replay.length < 2 ^ 32 ∧ snapshot.guard.length < 2 ^ 32) ∧
    ((∃ bytes, encodeRetryState snapshot = .ok bytes) ↔ snapshot.reference ≠ none) ∧
    ∀ bytes, encodeRetryState snapshot = .ok bytes → bytes.length ≤ maxRetryStateBytes := by
  refine ⟨retryPayload_fits h, ?_, fun bytes hbytes => (encodeRetryState_length hbytes).2⟩
  constructor
  · intro hencoded hnone
    obtain ⟨bytes, hbytes⟩ := hencoded
    unfold encodeRetryState encodeRetryStateWithLimit at hbytes
    rw [then_ok, hnone] at hbytes
    cases hbytes.2
  · intro hsome
    obtain ⟨reference, hreference⟩ := Option.ne_none_iff_exists'.mp hsome
    exact encodeRetryState_of_valid h hreference

def singleEntryOptions : RetryPersistenceOptions :=
  ⟨1, 1, sampleTierOptions.replay_pos, sampleTierOptions.guard_pos, sampleTierOptions.bounded⟩

theorem doubleOptions_bounded : 2 + 1 ≤ maxPersistedRetryEntries := by decide

/-- An outcome of the first generation and one of the second, which names its catalog, in front of
an older guard. -/
def sampleGuardedTiers : RetryStateSnapshot :=
  ⟨sampleIdentity 1, ⟨2, 1, Nat.two_pos, Nat.one_pos, doubleOptions_bounded⟩, some ⟨0, 3⟩,
    [⟨sampleRetry 'b' secondKey_printable, 2, 200,
        ⟨2, 1, 0, ⟨⟨sampleIdentity 1, 1⟩, 2, 2, 200⟩, ⟨1, 2⟩, 0, none⟩⟩,
      ⟨sampleRetry 'c' thirdKey_printable, 3, 300,
        ⟨5, 1, 0, ⟨⟨sampleIdentity 1, 2⟩, 2, 3, 300⟩, ⟨0, 3⟩, 2, some ⟨0, 1, 132, 7⟩⟩⟩],
    [⟨sampleRetry 'a' firstKey_printable, 1⟩]⟩

/-- Two outcomes and a guard are encoded within the ceiling. -/
theorem retry_artifact_fits_sample : ∃ payload bytes,
    Writes (encodeRetryPayload sampleGuardedTiers) payload ∧
      retryHeaderLen + payload.length + retryCrcLen ≤ maxRetryStateBytes ∧
      encodeRetryState sampleGuardedTiers = .ok bytes ∧ bytes.length ≤ maxRetryStateBytes := by
  have hvalid : validateState sampleGuardedTiers = .ok () := by decide +kernel
  obtain ⟨⟨payload, hwrites, hfits, -⟩, hencodes, hlength⟩ := retry_artifact_fits hvalid
  obtain ⟨bytes, hbytes⟩ := hencodes.mpr (Option.some_ne_none _)
  exact ⟨payload, bytes, hwrites, hfits, hbytes, hlength bytes hbytes⟩

/-- A snapshot that has no reference yet passes the checks, and is never encoded. -/
theorem retry_artifact_without_reference : ∃ snapshot : RetryStateSnapshot,
    validateState snapshot = .ok () ∧
      snapshot.replay.length + snapshot.guard.length ≤ maxPersistedRetryEntries ∧
      ∀ bytes, encodeRetryState snapshot ≠ .ok bytes := by
  refine ⟨.empty (sampleIdentity 1) singleEntryOptions, by decide, by decide, ?_⟩
  intro bytes hbytes
  cases hbytes

end Historian
