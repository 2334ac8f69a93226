import Historian.StoreOpen
import Historian.ManifestSlots

namespace Historian

open Wire Checks Files

theorem checkedNext_ok {generation next : U64} :
    checkedNext generation = .ok next ↔ generation.val + 1 = next.val := by
  unfold checkedNext
  cases hadd : checkedAdd generation 1 with
  | none =>
    simp only [reduceCtorEq, false_iff]
    intro h
    have hsome : checkedAdd generation 1 = some next := checkedAdd_eq_some.mpr h
    rw [hadd] at hsome
    cases hsome
  | some found =>
    rw [Except.ok.injEq, ← Option.some.injEq, ← hadd]
    exact checkedAdd_eq_some

theorem lt_of_mem_reusableSlots {slot : UInt8} (h : slot ∈ reusableSlots) : slot < 3 := by
  simp only [reusableSlots, List.mem_cons, List.not_mem_nil, or_false] at h
  rcases h with rfl | rfl | rfl
  · decide
  · decide
  · decide

/-- The slot that the next file goes to is one of the three and is named by no manifest. -/
theorem candidateSlot_ok {referenced : List UInt8} {error : ManifestStoreError} {slot : UInt8}
    (h : candidateSlot referenced error = .ok slot) : slot < 3 ∧ slot ∉ referenced := by
  unfold candidateSlot at h
  split at h
  next found hfound =>
    cases h
    have hmem := List.mem_of_mem_head? hfound
    rw [unreferenced, List.mem_filter, decide_eq_true_eq] at hmem
    refine ⟨?_, hmem.2⟩
    exact lt_of_mem_reusableSlots hmem.1
  next => cases h

theorem ManifestSlots.mem_retained {slots : ManifestSlots} {record : ManifestRecord} :
    record ∈ slots.retained ↔ ∃ slot, slots.get slot = some record := by
  rw [ManifestSlots.retained, List.mem_append, Option.mem_toList, Option.mem_toList]
  constructor
  · intro h
    rcases h with h | h
    · exact ⟨0, h⟩
    · exact ⟨1, h⟩
  · intro h
    obtain ⟨slot, hslot⟩ := h
    by_cases hzero : slot = 0
    · subst hzero
      exact Or.inl hslot
    · have hone : slot = 1 := by omega
      subst hone
      exact Or.inr hslot

theorem validatePendingEntries_between {cutoff : DurableCutoff} {expectedSequence previousEnd : U64}
    {pending : List PendingRetryOutcome}
    (h : validatePendingEntries cutoff expectedSequence previousEnd pending = .ok ()) :
    ∀ entry ∈ pending, expectedSequence ≤ entry.appendSequence ∧ previousEnd < entry.endOffset := by
  induction pending generalizing expectedSequence previousEnd with
  | nil => simp
  | cons entry rest ih =>
    rw [validatePendingEntries, then_ok, refuse_ok, not_or, not_not, Fin.not_le] at h
    obtain ⟨⟨hsequence, hend⟩, h⟩ := h
    split at h
    next => cases h
    next next hnext =>
      rw [checkedAdd_eq_some] at hnext
      have hrest := ih h
      intro found hfound
      rw [List.mem_cons] at hfound
      rcases hfound with rfl | hfound
      · exact ⟨Fin.le_of_eq hsequence.symm, hend⟩
      · obtain ⟨hlater, hbehind⟩ := hrest found hfound
        refine ⟨?_, Fin.lt_trans hend hbehind⟩
        rw [Fin.le_def] at hlater ⊢
        omega

/-- A batch that the store accepts lies behind the cutoff of its root. -/
theorem validatePendingRetry_behind {prior cutoff : DurableCutoff}
    {pending : List PendingRetryOutcome} (h : validatePendingRetry prior cutoff pending = .ok ()) :
    cutoff.journal = prior.journal ∧ prior.endOffset < cutoff.endOffset ∧
      prior.appendSequence.val + pending.length = cutoff.appendSequence.val ∧
      ∀ entry ∈ pending, prior.appendSequence < entry.appendSequence ∧
        prior.endOffset < entry.endOffset := by
  unfold validatePendingRetry validatePendingRetryPreflight at h
  rw [then_ok, refuse_ok] at h
  simp only [not_or, not_not, Fin.not_le] at h
  obtain ⟨⟨-, -, hjournal, hcount, hend⟩, h⟩ := h
  refine ⟨hjournal.symm, hend, hcount, ?_⟩
  split at h
  next => cases h
  next expectedSequence hexpected =>
    rw [checkedAdd_eq_some] at hexpected
    rw [then_ok] at h
    intro entry hentry
    obtain ⟨hsequence, hoffset⟩ := validatePendingEntries_between h.1 entry hentry
    refine ⟨?_, hoffset⟩
    rw [Fin.le_def] at hsequence
    rw [Fin.lt_def]
    omega

namespace ManifestStore

variable {store : ManifestStore}

theorem prepareManifest_ok {record : ManifestRecord} {prepared : PreparedManifestPublication}
    (h : store.prepareManifest record = .ok prepared) :
    prepared.record = record ∧ prepared.bytes = encodeManifest record ∧
      (record.generation ≠ 1 → prepared.target = 1 - store.currentSlot) := by
  unfold prepareManifest at h
  split at h
  next hone =>
    split at h
    next slot hslot =>
      simp only [bind_ok, exists_unit, refuse_ok, pure_ok, Except.ok.injEq, exists_eq_left'] at h
      obtain ⟨-, rfl⟩ := h
      exact ⟨rfl, rfl, fun hne => absurd hone hne⟩
    next => cases h
  next hmany =>
    simp only [bind_ok, exists_unit, refuse_ok, pure_ok, Except.ok.injEq, exists_eq_left'] at h
    obtain ⟨-, rfl⟩ := h
    exact ⟨rfl, rfl, fun _ => rfl⟩

theorem prepareRetrySnapshot_ok {reference : RetryStateReference} {snapshot : RetryStateSnapshot}
    {prepared : PreparedRetryPublication}
    (h : store.prepareRetrySnapshot reference snapshot = .ok prepared) :
    prepared.reference.state = reference ∧ snapshot.reference = some reference ∧
      encodeRetryState snapshot = .ok prepared.bytes ∧
      prepared.reference.length = Fin.ofNat _ prepared.bytes.length ∧
      prepared.reference.checksum = crc32c prepared.bytes := by
  unfold prepareRetrySnapshot at h
  simp only [bind_ok, exists_unit, refuse_ok, mapError_ok, pure_ok, not_or, not_not] at h
  obtain ⟨⟨hreference, -⟩, selected, -, -, bytes, hbytes, rfl⟩ := h
  exact ⟨rfl, hreference, hbytes, rfl, rfl⟩

/-- What a prepared batch consists of. -/
structure PendingPlan (store : ManifestStore) (cutoff : DurableCutoff)
    (pending : List PendingRetryOutcome) (plan : PendingCommitPlan) : Prop where
  accepted : validatePendingRetry store.current.cutoff cutoff pending = .ok ()
  reached : plan.cutoff = cutoff
  advance : store.retry.advance plan.retryPublication.reference.state pending
    plan.manifest.record.commit = .ok plan.retry
  slot : store.selectRetryCandidateSlot = .ok plan.retryPublication.reference.state.slot
  retryGeneration : store.current.retry.state.generation.val + 1 =
    plan.retryPublication.reference.state.generation.val
  encoded : encodeRetryState plan.retry = .ok plan.retryPublication.bytes
  length : plan.retryPublication.reference.length =
    Fin.ofNat _ plan.retryPublication.bytes.length
  checksum : plan.retryPublication.reference.checksum = crc32c plan.retryPublication.bytes
  generation : store.current.generation.val + 1 = plan.manifest.record.generation.val
  record : plan.manifest.record = { store.current with
    generation := plan.manifest.record.generation
    cutoff := cutoff
    retry := plan.retryPublication.reference }
  target : plan.manifest.record.generation ≠ 1 → plan.manifest.target = 1 - store.currentSlot
  bytes : plan.manifest.bytes = encodeManifest plan.manifest.record

theorem prepareSyncedPending_ok {cutoff : DurableCutoff} {pending : List PendingRetryOutcome}
    {plan : PendingCommitPlan} (h : store.prepareSyncedPending cutoff pending = .ok plan) :
    PendingPlan store cutoff pending plan := by
  unfold prepareSyncedPending at h
  simp only [bind_ok, exists_unit, mapError_ok, pure_ok, checkedNext_ok] at h
  obtain ⟨hpending, generation, hgeneration, retryGeneration, hretryGeneration, slot, hslot,
    candidate, hadvance, retryPublication, hretry, manifest, hmanifest, rfl⟩ := h
  obtain ⟨hstate, -, hencoded, hlength, hchecksum⟩ := prepareRetrySnapshot_ok hretry
  obtain ⟨hrecord, hbytes, htarget⟩ := prepareManifest_ok hmanifest
  constructor
  · exact hpending
  · rfl
  · rw [hrecord, ManifestRecord.commit, hstate]
    exact hadvance
  · rw [hstate]
    exact hslot
  · rw [hstate]
    exact hretryGeneration
  · exact hencoded
  · exact hlength
  · exact hchecksum
  · rw [hrecord]
    exact hgeneration
  · rw [hrecord]
  · rw [hrecord]
    exact htarget
  · rw [hrecord]
    exact hbytes

theorem prepareRegistrySnapshot_ok {generation : U64} {snapshot : SeriesRegistrySnapshot}
    {prepared : PreparedRegistryPublication}
    (h : store.prepareRegistrySnapshot generation snapshot = .ok prepared) :
    prepared.reference.generation = generation ∧ prepared.reference.slot < 3 ∧
      prepared.reference.slot ∉ store.manifestSlots.registrySlots ∧
      encodeRegistrySnapshot generation snapshot = .ok prepared.bytes ∧
      prepared.reference.length = Fin.ofNat _ prepared.bytes.length ∧
      prepared.reference.checksum = crc32c prepared.bytes := by
  unfold prepareRegistrySnapshot at h
  simp only [bind_ok, pure_ok] at h
  obtain ⟨slot, hslot, bytes, hbytes, rfl⟩ := h
  obtain ⟨hlt, hfree⟩ := candidateSlot_ok hslot
  exact ⟨rfl, hlt, hfree, hbytes, rfl, rfl⟩

/-- What the root of a registry commit consists of. -/
structure RegistryCommitPlan (store : ManifestStore) (candidate : SeriesRegistry)
    (registry : PreparedRegistryPublication) (manifest : PreparedManifestPublication) : Prop where
  usable : store.ensureUsable = .ok ()
  registryGeneration : store.current.registry.generation.val + 1 =
    registry.reference.generation.val
  slot : registry.reference.slot < 3
  unnamed : registry.reference.slot ∉ store.manifestSlots.registrySlots
  encoded : encodeRegistrySnapshot registry.reference.generation candidate.snapshot =
    .ok registry.bytes
  length : registry.reference.length = Fin.ofNat _ registry.bytes.length
  checksum : registry.reference.checksum = crc32c registry.bytes
  generation : store.current.generation.val + 1 = manifest.record.generation.val
  record : manifest.record = { store.current with
    generation := manifest.record.generation
    registry := registry.reference
    cutoff := store.journal.durableCutoff }
  target : manifest.record.generation ≠ 1 → manifest.target = 1 - store.currentSlot
  bytes : manifest.bytes = encodeManifest manifest.record

theorem planRegistry_publish {α : Type}
    {operation : SeriesRegistry → Except ModelError (α × SeriesRegistry)} {output : α}
    {candidate : SeriesRegistry} {registry : PreparedRegistryPublication}
    {manifest : PreparedManifestPublication}
    (h : store.planRegistry operation = .ok (.publish output candidate registry manifest)) :
    RegistryCommitPlan store candidate registry manifest ∧
      ∃ restored, restoreSnapshot store.registry.snapshot = .ok restored ∧
        operation restored = .ok (output, candidate) := by
  unfold planRegistry at h
  simp only [bind_ok, exists_unit, mapError_ok, Prod.exists] at h
  obtain ⟨husable, restored, hrestored, found, changed, hoperation, h⟩ := h
  split at h
  next => cases h
  next =>
    simp only [bind_ok, pure_ok, checkedNext_ok] at h
    obtain ⟨registryGeneration, hregistryGeneration, generation, hgeneration, prepared, hprepared,
      record, hrecord, h⟩ := h
    cases h
    obtain ⟨hnumber, hslot, hfree, hencoded, hlength, hchecksum⟩ :=
      prepareRegistrySnapshot_ok hprepared
    obtain ⟨hmanifest, hbytes, htarget⟩ := prepareManifest_ok hrecord
    refine ⟨⟨husable, ?_, hslot, hfree, ?_, hlength, hchecksum, ?_, ?_, ?_, ?_⟩, restored,
      hrestored, hoperation⟩
    · rw [hnumber]
      exact hregistryGeneration
    · rw [hnumber]
      exact hencoded
    · rw [hmanifest]
      exact hgeneration
    · rw [hmanifest]
    · rw [hmanifest]
      exact htarget
    · rw [hmanifest]
      exact hbytes

/-- What the root of a recovery consists of. -/
structure RecoveryCommitPlan (store : ManifestStore) (recovery : RecoveryCommit) : Prop where
  generation : store.current.generation.val + 1 = recovery.manifest.record.generation.val
  record : recovery.manifest.record = { store.current with
    generation := recovery.manifest.record.generation
    recovery := some recovery.artifact.reference }
  target : recovery.manifest.record.generation ≠ 1 →
    recovery.manifest.target = 1 - store.currentSlot
  bytes : recovery.manifest.bytes = encodeManifest recovery.manifest.record

theorem planRecovery_some {inventory : RecoveryInventoryState}
    {plan : Option ActiveRecoveryPlan} {recovery : RecoveryCommit}
    (h : store.planRecovery inventory plan = .ok (some recovery)) :
    RecoveryCommitPlan store recovery := by
  unfold planRecovery at h
  rw [bind_ok] at h
  obtain ⟨selected, -, h⟩ := h
  cases selected with
  | none => cases h
  | some found =>
    obtain ⟨artifact, source⟩ := found
    simp only [bind_ok, exists_unit, refuse_ok, pure_ok, checkedNext_ok, Option.some.injEq] at h
    obtain ⟨-, generation, hgeneration, manifest, hmanifest, -, rfl⟩ := h
    obtain ⟨hrecord, hbytes, htarget⟩ := prepareManifest_ok hmanifest
    constructor
    · rw [hrecord]
      exact hgeneration
    · rw [hrecord]
    · rw [hrecord]
      exact htarget
    · rw [hrecord]
      exact hbytes

/-- What the catalog, the sealed entry and the root of a rotation consist of. -/
structure RotationCommitPlan (store : ManifestStore) (d : StoreDirectory) (plan : RotationPlan) :
    Prop where
  recorded : store.journal.records ≠ []
  root : store.journal.durableCutoff = store.current.cutoff
  last : store.journal.lastAppendSequence = store.journal.durableCutoff.appendSequence
  ends : store.journal.activeBytes = store.journal.durableCutoff.endOffset
  room : store.catalog.entries.length < maxSealedGenerations
  successor : store.current.cutoff.journal.generation.val + 1 = plan.intent.successorGeneration.val
  intent : plan.intent = store.rotationIntent plan.intent.successorGeneration
    plan.intent.catalogGeneration
  prepared : prepareSealedGeneration d plan.intent store.current.sequenceFloor
    store.journal.limits store.registry = .ok plan.sealedEntry
  follows : plan.sealedEntry.Follows store.catalog.entries.getLast?
  entries : plan.catalog.snapshot.entries = store.catalog.entries ++ [plan.sealedEntry]
  owner : plan.catalog.snapshot.storeId = store.catalog.storeId
  encoded : encodeCatalog plan.catalog.snapshot = .ok plan.catalog.bytes
  reference : ∃ reference, plan.catalog.snapshot.reference = some reference ∧
    store.selectCatalogCandidateSlot = .ok reference.slot ∧
    reference.generation = plan.intent.catalogGeneration ∧
    reference.length = Fin.ofNat _ plan.catalog.bytes.length ∧
    reference.checksum = crc32c plan.catalog.bytes ∧
    nextCatalogGeneration store.catalog.reference = some reference.generation
  config : ((ActiveJournalConfig.new store.current.cutoff.journal.storeId .createNew
    store.journal.limits).manifestCreate.manifestGeneration plan.intent.successorGeneration
    store.current.cutoff.appendSequence) = .ok plan.successorConfig
  generation : store.current.generation.val + 1 = plan.manifest.record.generation.val
  record : plan.manifest.record = { store.current with
    generation := plan.manifest.record.generation
    cutoff := ⟨⟨store.current.cutoff.journal.storeId, plan.intent.successorGeneration⟩, 1,
      store.current.cutoff.appendSequence, Fin.ofNat _ journalV1HeaderLen⟩
    sequenceFloor := store.current.cutoff.appendSequence
    catalog := plan.catalog.snapshot.reference }
  target : plan.manifest.record.generation ≠ 1 → plan.manifest.target = 1 - store.currentSlot
  bytes : plan.manifest.bytes = encodeManifest plan.manifest.record

theorem prepareCatalogSnapshot_ok {slot : UInt8} {generation : U64}
    {provisional : GenerationCatalogSnapshot} {prepared : PreparedCatalogPublication}
    (h : store.prepareCatalogSnapshot slot generation provisional = .ok prepared) :
    prepared.snapshot.entries = provisional.entries ∧
      prepared.snapshot.storeId = provisional.storeId ∧
      encodeCatalog prepared.snapshot = .ok prepared.bytes ∧
      prepared.snapshot.reference = some ⟨slot, generation, Fin.ofNat _ prepared.bytes.length,
        crc32c prepared.bytes⟩ := by
  unfold prepareCatalogSnapshot at h
  simp only [bind_ok, exists_unit, refuse_ok, mapError_ok, pure_ok, not_not] at h
  obtain ⟨-, selected, -, -, provisionalBytes, hprovisional, snapshot, hsnapshot, bytes, hbytes,
    rfl, rfl⟩ := h
  unfold GenerationCatalogSnapshot.withReference at hsnapshot
  rw [then_ok, pure_ok] at hsnapshot
  obtain ⟨-, rfl⟩ := hsnapshot
  exact ⟨rfl, rfl, hbytes, rfl⟩

theorem prepareRotation_ok {d : StoreDirectory} {plan : RotationPlan}
    (h : store.prepareRotation d = .ok plan) : RotationCommitPlan store d plan := by
  unfold prepareRotation at h
  rw [then_ok, then_ok, bind_ok, refuse_ok, refuse_ok] at h
  simp only [not_or, not_not, Nat.not_le, checkedNext_ok] at h
  obtain ⟨⟨hrecorded, hroot, hlast, hends⟩, hroom, successor, hsuccessor, h⟩ := h
  -- the two ways to the number of the catalog
  obtain ⟨catalogGeneration, hnext, slot, hslot, generation, hgeneration, entry, hentry,
      provisional, hprovisional, catalog, hprepared, config, hconfig, manifest, hmanifest, rfl⟩ :
      ∃ catalogGeneration, nextCatalogGeneration store.catalog.reference = some catalogGeneration ∧
        ∃ slot, store.selectCatalogCandidateSlot = .ok slot ∧
        ∃ generation : U64, store.current.generation.val + 1 = generation.val ∧
        ∃ entry, prepareSealedGeneration d (store.rotationIntent successor catalogGeneration)
          store.current.sequenceFloor store.journal.limits store.registry = .ok entry ∧
        ∃ provisional, store.catalog.advance ⟨slot, catalogGeneration, 1, 1⟩ entry =
          .ok provisional ∧
        ∃ catalog, store.prepareCatalogSnapshot slot catalogGeneration provisional =
          .ok catalog ∧
        ∃ config, (ActiveJournalConfig.new store.journal.durableCutoff.journal.storeId .createNew
          store.journal.limits).manifestCreate.manifestGeneration successor
          store.journal.durableCutoff.appendSequence = .ok config ∧
        ∃ manifest, store.prepareManifest { store.current with
          generation := generation
          cutoff := ⟨⟨store.journal.durableCutoff.journal.storeId, successor⟩, 1,
            store.journal.durableCutoff.appendSequence, Fin.ofNat _ journalV1HeaderLen⟩
          sequenceFloor := store.journal.durableCutoff.appendSequence
          catalog := catalog.snapshot.reference } = .ok manifest ∧
        ⟨store.rotationIntent successor catalogGeneration, entry, config, catalog, manifest⟩ =
          plan := by
    split at h
    next hnone =>
      simp only [bind_ok, mapError_ok, pure_ok, checkedNext_ok] at h
      obtain ⟨catalogGeneration, hone, h⟩ := h
      refine ⟨catalogGeneration, ?_, h⟩
      rw [hnone, nextCatalogGeneration, hone]
    next reference hsome =>
      simp only [bind_ok, mapError_ok, pure_ok, checkedNext_ok] at h
      obtain ⟨catalogGeneration, hadd, h⟩ := h
      refine ⟨catalogGeneration, ?_, h⟩
      rw [hsome, nextCatalogGeneration, checkedAdd_eq_some]
      exact hadd
  unfold GenerationCatalogSnapshot.advance at hprovisional
  simp only [then_ok, refuse_ok, pure_ok, not_or, not_not] at hprovisional
  obtain ⟨⟨-, -, -, -, -, -, hfollows⟩, rfl⟩ := hprovisional
  obtain ⟨hentries, howner, hencoded, hreference⟩ := prepareCatalogSnapshot_ok hprepared
  obtain ⟨hrecord, hbytes, htarget⟩ := prepareManifest_ok hmanifest
  rw [hroot] at hsuccessor hrecord hconfig
  constructor
  · exact hrecorded
  · exact hroot
  · exact hlast
  · exact hends
  · exact hroom
  · exact hsuccessor
  · rfl
  · exact hentry
  · exact hfollows
  · exact hentries
  · exact howner
  · exact hencoded
  · exact ⟨_, hreference, hslot, rfl, rfl, rfl, hnext⟩
  · exact hconfig
  · rw [hrecord]
    exact hgeneration
  · rw [hrecord]
    rfl
  · rw [hrecord]
    exact htarget
  · rw [hrecord, ← hroot]
    exact hbytes

end ManifestStore

end Historian
