import Historian.RetryBatch
import Historian.StorePlans

namespace Historian

open Wire Checks Files

/-- The steps of a store that leave its retry state alone: appends, which count only with the
durable cutoff of the journal, registry commits, recoveries and rotations. -/
inductive ManifestStore.QuietStep : ManifestStore → ManifestStore → Prop
  | append {store : ManifestStore} (journal : ActiveJournal)
      (same : journal.durableCutoff = store.journal.durableCutoff) :
    QuietStep store { store with journal := journal }
  | registry {store : ManifestStore} {α : Type}
      {operation : SeriesRegistry → Except ModelError (α × SeriesRegistry)} {output : α}
      {candidate : SeriesRegistry} {registry : PreparedRegistryPublication}
      {manifest : PreparedManifestPublication}
      (plans : store.planRegistry operation = .ok (.publish output candidate registry manifest)) :
    QuietStep store { store.adoptPublishedManifest manifest.target manifest.record with
      registry := candidate }
  | recovery {store : ManifestStore} {inventory : RecoveryInventoryState}
      {plan : Option ActiveRecoveryPlan} {recovery : RecoveryCommit}
      (plans : store.planRecovery inventory plan = .ok (some recovery)) :
    QuietStep store { store.adoptPublishedManifest recovery.manifest.target
        recovery.manifest.record with
      recoveryReport := some recovery.artifact.report }
  | rotation {store : ManifestStore} {d : StoreDirectory} {plan : RotationPlan}
      (prepares : store.prepareRotation d = .ok plan) (journal : ActiveJournal)
      (successor : journal.durableCutoff = plan.manifest.record.cutoff) :
    QuietStep store { store.adoptPublishedManifest plan.manifest.target plan.manifest.record with
      journal := journal
      catalog := plan.catalog.snapshot }

/-- The states that a store takes from commit to commit, as its methods prepare them: a new store,
then batches and quiet steps in any order. -/
inductive ManifestStore.Committed (config : ManifestStoreConfig) : ManifestStore → Prop
  | genesis {inventory : Inventory} {manifestSlots : ManifestSlots} {d : StoreDirectory}
      {store : ManifestStore} {effects : List StoreEffect}
      (opens : initializeGenesis config inventory manifestSlots d = (.ok store, effects)) :
    Committed config store
  | batch {store : ManifestStore} {cutoff : DurableCutoff} {pending : List PendingRetryOutcome}
      {plan : PendingCommitPlan} (before : Committed config store)
      (prepares : store.prepareSyncedPending cutoff pending = .ok plan) (journal : ActiveJournal)
      (synced : journal.durableCutoff = plan.cutoff) :
    Committed config { store.adoptPublishedManifest plan.manifest.target plan.manifest.record with
      journal := journal
      retry := plan.retry }
  | quiet {store next : ManifestStore} (before : Committed config store)
      (step : store.QuietStep next) : Committed config next

/-- What every commit keeps between the root, the retry state and the catalog of a store. -/
structure ManifestStore.Linked (store : ManifestStore) : Prop where
  valid : ValidRoot store.retry store.commit (some store.catalog)
  link : RootLink store.retry store.commit
  journal : store.journal.durableCutoff = store.current.cutoff
  kept : store.current ∈ store.manifestSlots.retained

namespace ManifestStore

variable {store : ManifestStore}

theorem mem_retained_adopt (slot : Fin 2) (record : ManifestRecord) :
    record ∈ (store.adoptPublishedManifest slot record).manifestSlots.retained := by
  rw [ManifestSlots.mem_retained]
  refine ⟨slot, ?_⟩
  rw [adoptPublishedManifest, ManifestSlots.get_set, if_pos rfl]

/-- A legal batch on a linked store, with the numbers that the store prepares. -/
theorem Linked.batchStep (h : store.Linked) {cutoff : DurableCutoff}
    {pending : List PendingRetryOutcome} {generation retryGeneration : U64} {retrySlot : UInt8}
    (legal : LegalBatch store.retry store.current.cutoff cutoff pending)
    (hgeneration : store.current.generation.val + 1 = generation.val)
    (hretry : store.current.retry.state.generation.val + 1 = retryGeneration.val)
    (hslot : store.selectRetryCandidateSlot = .ok retrySlot) :
    BatchStep store.retry store.commit store.catalog pending cutoff generation
      ⟨retrySlot, retryGeneration⟩ := by
  obtain ⟨hlt, hfree⟩ := candidateSlot_ok hslot
  refine ⟨h.valid, h.link, legal, hgeneration, hretry, hlt, ?_⟩
  intro hsame
  exact hfree (List.mem_map.mpr ⟨store.current, h.kept, hsame.symm⟩)

theorem Linked.append (h : store.Linked) {journal : ActiveJournal}
    (hsame : journal.durableCutoff = store.journal.durableCutoff) :
    ({ store with journal := journal } : ManifestStore).Linked :=
  ⟨h.valid, h.link, hsame.trans h.journal, h.kept⟩

/-- The newest outcome behind a batch is under the commit of the batch. -/
theorem Linked.newest_batch (h : store.Linked) {cutoff : DurableCutoff}
    {pending : List PendingRetryOutcome} {plan : PendingCommitPlan}
    (hplan : PendingPlan store cutoff pending plan) {newest : RetryReplayOutcome}
    (hnewest : newest ∈ plan.retry.replay.getLast?) :
    newest.committed = plan.manifest.record.commit := by
  obtain ⟨-, -, -, hentries, -, -, hroot⟩ := RetryStateSnapshot.advance_ok hplan.advance
  have hstate := ((validateRoot_ok.mp hroot).newest newest hnewest).2.2.2
  obtain hold | ⟨hnew, -⟩ := advanceEntries_replay hentries (List.mem_of_getLast? hnewest)
  · have hle := (validateRootOutcome_ok.mp (h.valid.outcomes newest hold)).retry
    have hretry := hplan.retryGeneration
    rw [hstate, hplan.record, Fin.le_def] at hle
    change plan.retryPublication.reference.state.generation.val ≤
      store.current.retry.state.generation.val at hle
    omega
  · exact hnew

theorem Linked.batch (h : store.Linked) {cutoff : DurableCutoff}
    {pending : List PendingRetryOutcome} {plan : PendingCommitPlan}
    (hplan : PendingPlan store cutoff pending plan) {journal : ActiveJournal}
    (hsynced : journal.durableCutoff = plan.cutoff) :
    ({ store.adoptPublishedManifest plan.manifest.target plan.manifest.record with
      journal := journal
      retry := plan.retry } : ManifestStore).Linked := by
  obtain ⟨hjournal, hend, hcount, hbehind⟩ := validatePendingRetry_behind hplan.accepted
  have hgeneration := hplan.generation
  have hretry := hplan.retryGeneration
  have hregistered := h.link.registered
  have hretried := h.link.retried
  have hheader := h.link.header
  have hfloor : store.current.sequenceFloor ≤ store.current.cutoff.appendSequence := by
    have hne : store.current.cutoff.journal.generation.val ≠ 0 :=
      fun hzero => h.link.journal (Fin.ext hzero)
    have h1 : activeJournalGeneration = 1 := rfl
    by_cases hone : store.current.cutoff.journal.generation.val = activeJournalGeneration
    · rw [show store.current.sequenceFloor = 0 from (h.valid.first hone).1]
      exact Fin.zero_le _
    · exact (h.valid.later (show activeJournalGeneration <
        store.current.cutoff.journal.generation.val by omega)).2.2
  have hcommit : plan.manifest.record.commit = store.commit.batch plan.manifest.record.generation
      cutoff plan.retryPublication.reference.state := by
    rw [hplan.record]
    rfl
  have hadvance := hplan.advance
  rw [hcommit] at hadvance
  rw [Fin.le_def] at hregistered hretried
  refine ⟨?_, ?_, ?_, mem_retained_adopt _ _⟩
  · change ValidRoot plan.retry plan.manifest.record.commit (some store.catalog)
    rw [hcommit]
    refine h.valid.advance hadvance hjournal rfl ?_
    change store.current.retry.state.generation < _
    rw [Fin.lt_def]
    exact Nat.lt_of_succ_le (Nat.le_of_eq hretry)
  · change RootLink plan.retry plan.manifest.record.commit
    have hnewest := fun newest (hmem : newest ∈ plan.retry.replay.getLast?) =>
      h.newest_batch hplan hmem
    constructor
    · rw [hcommit]
      exact h.link.registry
    · rw [hcommit]
      exact h.link.registrySlot
    · rw [hcommit]
      change cutoff.journal.generation ≠ 0
      rw [hjournal]
      exact h.link.journal
    · rw [hcommit]
      change store.current.registry.generation ≤ plan.manifest.record.generation
      change store.current.registry.generation.val ≤ store.current.generation.val at hregistered
      rw [Fin.le_def]
      omega
    · rw [hcommit]
      change plan.retryPublication.reference.state.generation ≤ plan.manifest.record.generation
      change store.current.retry.state.generation.val ≤ store.current.generation.val at hretried
      rw [Fin.le_def]
      omega
    · rw [hcommit]
      change journalV1HeaderLen ≤ cutoff.endOffset.val
      change journalV1HeaderLen ≤ store.current.cutoff.endOffset.val at hheader
      rw [Fin.lt_def] at hend
      omega
    · intro newest hmem _
      rw [hnewest newest hmem]
    · intro newest hmem hne
      rw [hnewest newest hmem] at hne
      exact absurd rfl hne
    · intro outcome houtcome hsame
      obtain ⟨-, -, -, hentries, -, -, -⟩ := RetryStateSnapshot.advance_ok hadvance
      rw [hcommit] at hsame ⊢
      change _ = cutoff.journal.generation at hsame
      rw [hjournal] at hsame
      obtain hold | ⟨-, entry, hentry, hsequence, hoffset⟩ :=
        advanceEntries_replay hentries houtcome
      · exact h.link.active outcome hold hsame
      · obtain ⟨hafter, hbeyond⟩ := hbehind entry hentry
        rw [hsequence, hoffset]
        refine ⟨Fin.lt_of_le_of_lt hfloor hafter, ?_⟩
        change journalV1HeaderLen ≤ store.current.cutoff.endOffset.val at hheader
        rw [Fin.lt_def] at hbeyond
        omega
  · change journal.durableCutoff = plan.manifest.record.cutoff
    rw [hsynced, hplan.reached, hplan.record]

/-- A commit that moves only the numbers of the manifest and of the registry. -/
theorem Linked.manifest (h : store.Linked) {record : ManifestRecord} {slot : Fin 2}
    (hgeneration : store.current.generation.val + 1 = record.generation.val)
    (hregistry : record.registry = store.current.registry ∨
      (store.current.registry.generation.val + 1 = record.registry.generation.val ∧
        record.registry.slot < 3))
    (hcutoff : record.cutoff = store.current.cutoff) (hretry : record.retry = store.current.retry)
    (hfloor : record.sequenceFloor = store.current.sequenceFloor)
    (hcatalog : record.catalog = store.current.catalog) :
    (store.adoptPublishedManifest slot record).Linked := by
  have hregistered := h.link.registered
  have hretried := h.link.retried
  have hnonzero := h.link.registry
  change store.current.registry.generation ≤ store.current.generation at hregistered
  change store.current.retry.state.generation ≤ store.current.generation at hretried
  change store.current.registry.generation ≠ 0 at hnonzero
  rw [Fin.le_def] at hregistered hretried
  have hcommit : store.commit.durableCutoff = record.commit.durableCutoff ∧
      store.commit.sequenceFloor = record.commit.sequenceFloor :=
    ⟨hcutoff.symm, hfloor.symm⟩
  refine ⟨?_, ?_, h.journal.trans hcutoff.symm, mem_retained_adopt _ _⟩
  · refine h.valid.advance_manifest ?_ ?_ hcutoff ?_ hfloor hcatalog
    · change store.current.generation < record.generation
      rw [Fin.lt_def]
      omega
    · rcases hregistry with hsame | ⟨hnext, -⟩
      · left
        change record.registry.generation = _ ∧ record.registry.slot = _
        rw [hsame]
        exact ⟨rfl, rfl⟩
      · right
        change store.current.registry.generation < record.registry.generation
        rw [Fin.lt_def]
        omega
    · change record.retry.state = _
      rw [hretry]
      rfl
  · change RootLink store.retry record.commit
    have hlink := h.link
    refine ⟨?_, ?_, ?_, ?_, ?_, ?_, ?_, ?_, ?_⟩
    · change record.registry.generation ≠ 0
      rcases hregistry with hsame | ⟨hnext, -⟩
      · rw [hsame]
        exact hnonzero
      · intro hzero
        rw [hzero] at hnext
        simp at hnext
    · change record.registry.slot < 3
      rcases hregistry with hsame | ⟨-, hslot⟩
      · rw [hsame]
        exact hlink.registrySlot
      · exact hslot
    · rw [← hcommit.1]
      exact hlink.journal
    · change record.registry.generation ≤ record.generation
      rw [Fin.le_def]
      rcases hregistry with hsame | ⟨hnext, -⟩
      · rw [hsame]
        omega
      · omega
    · change record.retry.state.generation ≤ record.generation
      rw [hretry, Fin.le_def]
      omega
    · rw [← hcommit.1]
      exact hlink.header
    · rw [← hcommit.1]
      exact hlink.same
    · rw [← hcommit.1]
      exact hlink.crossed
    · rw [← hcommit.1, ← hcommit.2]
      exact hlink.active

theorem Linked.registry (h : store.Linked) {candidate : SeriesRegistry}
    {registry : PreparedRegistryPublication} {manifest : PreparedManifestPublication}
    (hplan : RegistryCommitPlan store candidate registry manifest) :
    ({ store.adoptPublishedManifest manifest.target manifest.record with
      registry := candidate } : ManifestStore).Linked := by
  have hlinked : (store.adoptPublishedManifest manifest.target manifest.record).Linked := by
    refine h.manifest hplan.generation (Or.inr ?_) ?_ ?_ ?_ ?_
    · rw [hplan.record]
      exact ⟨hplan.registryGeneration, hplan.slot⟩
    · rw [hplan.record]
      exact h.journal
    · rw [hplan.record]
    · rw [hplan.record]
    · rw [hplan.record]
  exact ⟨hlinked.valid, hlinked.link, hlinked.journal, hlinked.kept⟩

theorem Linked.recovery (h : store.Linked) {recovery : RecoveryCommit}
    (hplan : RecoveryCommitPlan store recovery) :
    ({ store.adoptPublishedManifest recovery.manifest.target recovery.manifest.record with
      recoveryReport := some recovery.artifact.report } : ManifestStore).Linked := by
  have hlinked : (store.adoptPublishedManifest recovery.manifest.target
      recovery.manifest.record).Linked := by
    refine h.manifest hplan.generation (Or.inl ?_) ?_ ?_ ?_ ?_
    · rw [hplan.record]
    · rw [hplan.record]
    · rw [hplan.record]
    · rw [hplan.record]
    · rw [hplan.record]
  exact ⟨hlinked.valid, hlinked.link, hlinked.journal, hlinked.kept⟩

theorem prepareSealedGeneration_entry {d : StoreDirectory} {intent : RotationIntent}
    {sequenceFloor : U64} {limits : ActiveJournalLimits} {registry : SeriesRegistry}
    {entry : SealedGeneration}
    (h : prepareSealedGeneration d intent sequenceFloor limits registry = .ok entry) :
    entry.journalGeneration = intent.sourceGeneration ∧ entry.sequenceFloor = sequenceFloor ∧
      entry.sequenceCutoff = intent.sequenceCutoff ∧ entry.endOffset = intent.sourceEndOffset := by
  unfold prepareSealedGeneration expectedSealedEntry at h
  simp only [bind_ok, exists_unit, refuse_ok, pure_ok] at h
  obtain ⟨-, found, ⟨checksum, -, rfl⟩, -, rfl⟩ := h
  exact ⟨rfl, rfl, rfl, rfl⟩

/-- A rotation seals what the snapshot holds of the active generation; the newest outcome is of
the generation that it seals. -/
theorem Linked.rotation (h : store.Linked) {d : StoreDirectory} {plan : RotationPlan}
    (hplan : RotationCommitPlan store d plan) {journal : ActiveJournal}
    (hsuccessor : journal.durableCutoff = plan.manifest.record.cutoff) :
    ({ store.adoptPublishedManifest plan.manifest.target plan.manifest.record with
      journal := journal
      catalog := plan.catalog.snapshot } : ManifestStore).Linked := by
  have hgeneration := hplan.generation
  have hnext := hplan.successor
  have hlink := h.link
  have hregistered := hlink.registered
  have hretried := hlink.retried
  change store.current.registry.generation ≤ store.current.generation at hregistered
  change store.current.retry.state.generation ≤ store.current.generation at hretried
  rw [Fin.le_def] at hregistered hretried
  obtain ⟨hsource, hfloor, hcutoff, hend⟩ := prepareSealedGeneration_entry hplan.prepared
  rw [hplan.intent] at hsource hcutoff hend
  change plan.sealedEntry.journalGeneration = store.journal.durableCutoff.journal.generation
    at hsource
  change plan.sealedEntry.sequenceCutoff = store.journal.durableCutoff.appendSequence at hcutoff
  change plan.sealedEntry.endOffset = store.journal.durableCutoff.endOffset at hend
  rw [hplan.root] at hsource hcutoff hend
  have hbehind : store.current.sequenceFloor < store.current.cutoff.appendSequence := by
    rw [← hfloor, ← hcutoff]
    exact hplan.follows.2.2.1
  obtain ⟨reference, hreference, -⟩ := hplan.reference
  have hcommit : plan.manifest.record.commit = { store.commit with
      manifestGeneration := plan.manifest.record.generation
      durableCutoff := ⟨⟨store.current.cutoff.journal.storeId, plan.intent.successorGeneration⟩, 1,
        store.current.cutoff.appendSequence, Fin.ofNat _ journalV1HeaderLen⟩
      sequenceFloor := store.current.cutoff.appendSequence
      catalog := plan.catalog.snapshot.reference } := by
    rw [hplan.record]
    rfl
  have hsealed : ∀ newest ∈ store.retry.replay.getLast?,
      newest.committed.durableCutoff.journal.generation =
        store.current.cutoff.journal.generation := by
    intro newest hnewest
    by_contra hne
    have hempty := newestCovered_crossed (h.valid.newest newest hnewest).2.2.1 hne
    exact absurd hempty.symm (Fin.ne_of_lt hbehind)
  refine ⟨?_, ?_, hsuccessor, mem_retained_adopt _ _⟩
  · change ValidRoot store.retry plan.manifest.record.commit (some plan.catalog.snapshot)
    rw [hcommit]
    refine h.valid.rotate hlink.active hplan.entries hsource hfloor hcutoff hend hbehind ?_
      ⟨rfl, rfl⟩ rfl hlink.journal hnext rfl rfl rfl rfl ?_
    · change store.current.generation < plan.manifest.record.generation
      rw [Fin.lt_def]
      omega
    · rw [hreference]
      exact Option.some_ne_none _
  · change RootLink store.retry plan.manifest.record.commit
    rw [hcommit]
    refine ⟨hlink.registry, hlink.registrySlot, ?_, ?_, ?_, Nat.le_refl _, ?_, ?_, ?_⟩
    · change plan.intent.successorGeneration ≠ 0
      intro hzero
      rw [hzero] at hnext
      simp at hnext
    · change store.current.registry.generation ≤ plan.manifest.record.generation
      rw [Fin.le_def]
      omega
    · change store.current.retry.state.generation ≤ plan.manifest.record.generation
      rw [Fin.le_def]
      omega
    · intro newest hnewest hsame
      change _ = plan.intent.successorGeneration at hsame
      rw [hsealed newest hnewest] at hsame
      rw [hsame] at hnext
      omega
    · intro newest hnewest _
      rw [hsealed newest hnewest]
      exact hnext
    · intro outcome houtcome hsame
      change _ = plan.intent.successorGeneration at hsame
      have hle := (validateRootOutcome_ok.mp (h.valid.outcomes outcome houtcome)).journal
      change outcome.committed.durableCutoff.journal.generation ≤
        store.current.cutoff.journal.generation at hle
      rw [hsame, Fin.le_def] at hle
      omega

section Genesis

variable {config : ManifestStoreConfig} {d : StoreDirectory}

theorem readInterruptedGenesisRegistry_first {expected : SeriesRegistrySnapshot}
    {found : Option RegistryReference} {slots : List UInt8} {reference : RegistryReference}
    (hslots : ∀ slot ∈ slots, slot < 3)
    (hfound : ∀ prior ∈ found, prior.generation = 1 ∧ prior.slot < 3)
    (h : readInterruptedGenesisRegistry d expected found slots = .ok reference) :
    reference.generation = 1 ∧ reference.slot < 3 := by
  induction slots generalizing found with
  | nil =>
    cases found with
    | none => cases h
    | some prior =>
      cases h
      exact hfound _ rfl
  | cons slot rest ih =>
    have hrest : ∀ other ∈ rest, other < 3 :=
      fun other hother => hslots other (List.mem_cons_of_mem _ hother)
    rw [readInterruptedGenesisRegistry, bind_ok] at h
    obtain ⟨bytes, -, h⟩ := h
    cases bytes with
    | none => exact ih hrest hfound h
    | some bytes =>
      simp only [bind_ok, exists_unit, refuse_ok, not_or, not_not] at h
      obtain ⟨-, decoded, -, ⟨hslot, hone, -⟩, h⟩ := h
      refine ih hrest ?_ h
      intro prior hprior
      cases hprior
      exact ⟨hone, by rw [hslot]; exact hslots slot (by simp)⟩

theorem genesisRegistry_first {inventory : Inventory} {reference : RegistryReference}
    {effects : List StoreEffect}
    (h : genesisRegistry store inventory d = (.ok reference, effects)) :
    reference.generation = 1 ∧ reference.slot < 3 := by
  unfold genesisRegistry at h
  split at h
  next =>
    unfold publishGenesisRegistry at h
    rw [run_ensure_bind_ok] at h
    obtain ⟨prepared, hprepared, h⟩ := h
    rw [run_bind_ok] at h
    obtain ⟨_, _, _, -, h, -⟩ := h
    rw [run_pure_ok] at h
    obtain ⟨rfl, -⟩ := h
    obtain ⟨hone, hslot, -⟩ := prepareRegistrySnapshot_ok hprepared
    exact ⟨hone, hslot⟩
  next =>
    rw [run_look_ok] at h
    exact readInterruptedGenesisRegistry_first (fun _ => lt_of_mem_reusableSlots) (by simp) h.1

theorem readReferencedRetry_valid {owningManifest : ManifestRecord} {storeId : StoreId}
    {options : RetryPersistenceOptions} {catalog : GenerationCatalogSnapshot}
    {snapshot : RetryStateSnapshot}
    (h : readReferencedRetry d owningManifest storeId options catalog = .ok snapshot) :
    ValidRoot snapshot owningManifest.commit (some catalog) := by
  unfold readReferencedRetry at h
  simp only [bind_ok, exists_unit, refuse_ok, pure_ok, not_or, not_not, Bool.not_eq_false,
    Prod.exists] at h
  obtain ⟨-, bytes, -, -, decodedReference, decoded, -, ⟨-, hvalid⟩, rfl⟩ := h
  exact validatesRootWithCatalog_iff.mp hvalid

/-- The first root of a store is linked to the empty retry state. -/
theorem linked_genesis {inventory : Inventory} {manifestSlots : ManifestSlots}
    {effects : List StoreEffect}
    (h : initializeGenesis config inventory manifestSlots d = (.ok store, effects)) :
    store.Linked := by
  unfold initializeGenesis at h
  rw [run_ensure_bind_ok] at h
  obtain ⟨-, -, h⟩ := h
  rw [run_bind_ok] at h
  obtain ⟨journal, _, _, -, h, -⟩ := h
  rw [run_ensure_bind_ok] at h
  obtain ⟨_, hjournal, h⟩ := h
  rw [refuse_ok, not_or, not_not, not_not] at hjournal
  rw [run_bind_ok] at h
  obtain ⟨registryReference, _, _, hregistry, h, -⟩ := h
  rw [run_bind_ok] at h
  obtain ⟨retryReference, _, _, -, h, -⟩ := h
  rw [run_look_bind_ok] at h
  obtain ⟨retry, hretry, h⟩ := h
  rw [run_ensure_bind_ok] at h
  obtain ⟨prepared, -, h⟩ := h
  rw [run_bind_ok] at h
  obtain ⟨slot, _, _, -, h, -⟩ := h
  rw [run_pure_ok] at h
  obtain ⟨rfl, -⟩ := h
  have hvalid := readReferencedRetry_valid hretry
  rw [hjournal.2] at hvalid
  obtain ⟨hone, hslot⟩ := genesisRegistry_first hregistry
  -- a snapshot at the cutoff zero holds nothing
  have hempty : retry.replay = [] := by
    by_contra hne
    have hnewest := List.getLast?_eq_some_getLast hne
    have hsequence := (hvalid.newest _ hnewest).2.1
    obtain ⟨-, -, hpositive⟩ := validateState_bounds hvalid.state
    have hlt := hpositive (retry.replay.getLast hne).appendSequence.val
      (List.mem_append_right _ (List.mem_map_of_mem (List.getLast_mem hne)))
    rw [hsequence] at hlt
    exact absurd hlt (Nat.lt_irrefl 0)
  have hfirst := (hvalid.empty hempty).2
  refine ⟨?_, ?_, rfl, mem_retained_adopt _ _⟩
  · change ValidRoot retry (ManifestRecord.commit ⟨1, registryReference, journal.durableCutoff,
      retryReference, none, 0, none⟩) (some (.empty config.storeId))
    rw [hjournal.2]
    exact hvalid
  · change RootLink retry (ManifestRecord.commit ⟨1, registryReference, journal.durableCutoff,
      retryReference, none, 0, none⟩)
    rw [hjournal.2]
    refine ⟨?_, hslot, ?_, ?_, ?_, Nat.le_refl _, by simp [hempty], by simp [hempty], ?_⟩
    · change registryReference.generation ≠ 0
      rw [hone]
      decide
    · change (1 : U64) ≠ 0
      decide
    · change registryReference.generation ≤ 1
      rw [hone]
    · change retryReference.state.generation ≤ 1
      rw [Fin.le_def]
      exact Nat.le_of_eq hfirst
    · intro outcome houtcome
      rw [hempty] at houtcome
      cases houtcome

end Genesis

theorem QuietStep.linked {next : ManifestStore} (step : store.QuietStep next) (h : store.Linked) :
    next.Linked ∧ next.retry = store.retry := by
  cases step with
  | append journal same => exact ⟨h.append same, rfl⟩
  | registry plans => exact ⟨h.registry (planRegistry_publish plans).1, rfl⟩
  | recovery plans => exact ⟨h.recovery (planRecovery_some plans), rfl⟩
  | rotation prepares journal successor =>
    exact ⟨h.rotation (prepareRotation_ok prepares) successor, rfl⟩

theorem Committed.linked {config : ManifestStoreConfig} (h : store.Committed config) :
    store.Linked := by
  induction h with
  | genesis opens => exact linked_genesis opens
  | batch _ prepares journal synced ih => exact ih.batch (prepareSyncedPending_ok prepares) synced
  | quiet _ step ih => exact (step.linked ih).1

theorem linked_of_quietSteps {later : ManifestStore} (h : store.Linked)
    (steps : Relation.ReflTransGen QuietStep store later) :
    later.Linked ∧ later.retry = store.retry := by
  induction steps with
  | refl => exact ⟨h, rfl⟩
  | tail _ step ih =>
    obtain ⟨hlinked, hretry⟩ := step.linked ih.1
    exact ⟨hlinked, hretry.trans ih.2⟩

end ManifestStore

/-- Every legal batch advances the retry state of a store with the commit that the store prepares
for it; the candidate is valid and has an encoding. The state that a store has stays valid under
every root up to the next batch. -/
theorem legal_batches_advance (config : ManifestStoreConfig) (store : ManifestStore)
    (hstore : store.Committed config) :
    (∀ cutoff pending generation retryGeneration retrySlot,
      LegalBatch store.retry store.current.cutoff cutoff pending →
      checkedNext store.current.generation = .ok generation →
      checkedNext store.current.retry.state.generation = .ok retryGeneration →
      store.selectRetryCandidateSlot = .ok retrySlot →
      let reference : RetryStateReference := ⟨retrySlot, retryGeneration⟩
      let commit : ManifestCommit := ⟨generation, store.current.registry.generation,
        store.current.registry.slot, cutoff, reference, store.current.sequenceFloor,
        store.current.catalog⟩
      ∃ candidate bytes, store.retry.advance reference pending commit = .ok candidate ∧
        validateState candidate = .ok () ∧
        validateRoot candidate commit (some store.catalog) = .ok () ∧
        encodeRetryState candidate = .ok bytes) ∧
    ∀ later, Relation.ReflTransGen ManifestStore.QuietStep store later →
      later.retry = store.retry ∧
        validateRoot store.retry later.commit (some later.catalog) = .ok () := by
  have hlinked := hstore.linked
  refine ⟨?_, ?_⟩
  · intro cutoff pending generation retryGeneration retrySlot legal hgeneration hretry hslot
    have hstep := hlinked.batchStep legal (checkedNext_ok.mp hgeneration)
      (checkedNext_ok.mp hretry) hslot
    obtain ⟨candidate, hadvance, hvalid⟩ := hstep.advances
    obtain ⟨bytes, hbytes⟩ := encodeRetryState_of_valid hvalid.state hvalid.reference
    exact ⟨candidate, bytes, hadvance, hvalid.state, validateRoot_ok.mpr hvalid, hbytes⟩
  · intro later steps
    obtain ⟨hlater, hretry⟩ := ManifestStore.linked_of_quietSteps hlinked steps
    refine ⟨hretry, validateRoot_ok.mpr ?_⟩
    rw [← hretry]
    exact hlater.valid

def sampleStoreConfig : ManifestStoreConfig :=
  ⟨sampleIdentity 1, .createNew, sampleJournalLimits, ⟨sampleLimits, by decide, by decide⟩,
    sampleTierOptions⟩

/-- The inventory of an empty directory. -/
def sampleInventory : Inventory :=
  ⟨0, false, false, false, false, false, false, 0, 0, 0, 0, 0, false, false, ∅, ∅, ∅⟩

namespace ManifestStore

variable {config : ManifestStoreConfig} {store next : ManifestStore}

/-- The store behind a registry commit. -/
def registering (store : ManifestStore)
    (operation : SeriesRegistry → Except ModelError (SeriesDeclaration × SeriesRegistry)) :
    Except ManifestStoreError ManifestStore := do
  match ← store.planRegistry operation with
  | .unchanged _ => pure store
  | .publish _ candidate _ manifest =>
    pure { store.adoptPublishedManifest manifest.target manifest.record with registry := candidate }

/-- The store behind a batch, whose journal is synchronised at its cutoff. -/
def batching (store : ManifestStore) (journal : ActiveJournal)
    (pending : List PendingRetryOutcome) : Except ManifestStoreError ManifestStore := do
  let plan ← store.prepareSyncedPending journal.durableCutoff pending
  pure { store.adoptPublishedManifest plan.manifest.target plan.manifest.record with
    journal := journal
    retry := plan.retry }

/-- The store behind a rotation, with the journal that succeeds. -/
def rotating (store : ManifestStore) (d : StoreDirectory) :
    Except ManifestStoreError ManifestStore := do
  let plan ← store.prepareRotation d
  let cutoff := plan.manifest.record.cutoff
  pure { store.adoptPublishedManifest plan.manifest.target plan.manifest.record with
    journal := { store.journal with
      identity := cutoff.journal
      checkpointState := ⟨cutoff.checkpointGeneration, cutoff.appendSequence, cutoff.endOffset⟩
      activeBytes := cutoff.endOffset
      records := [] }
    catalog := plan.catalog.snapshot }

theorem Committed.registering {operation : SeriesRegistry →
      Except ModelError (SeriesDeclaration × SeriesRegistry)} (h : store.Committed config)
    (hnext : store.registering operation = .ok next) : next.Committed config := by
  unfold ManifestStore.registering at hnext
  obtain ⟨plan, hplan, hnext⟩ := bind_ok.mp hnext
  cases plan with
  | unchanged =>
    cases hnext
    exact h
  | publish output candidate registry manifest =>
    cases hnext
    exact .quiet h (.registry hplan)

theorem Committed.batching {journal : ActiveJournal} {pending : List PendingRetryOutcome}
    (h : store.Committed config) (hnext : store.batching journal pending = .ok next) :
    next.Committed config := by
  unfold ManifestStore.batching at hnext
  obtain ⟨plan, hplan, hnext⟩ := bind_ok.mp hnext
  cases hnext
  refine .batch h hplan journal ?_
  unfold prepareSyncedPending at hplan
  simp only [bind_ok, exists_unit, pure_ok] at hplan
  obtain ⟨-, _, -, _, -, _, -, _, -, _, -, _, -, rfl⟩ := hplan
  rfl

theorem Committed.rotating {d : StoreDirectory} (h : store.Committed config)
    (hnext : store.rotating d = .ok next) : next.Committed config := by
  unfold ManifestStore.rotating at hnext
  obtain ⟨plan, hplan, hnext⟩ := bind_ok.mp hnext
  cases hnext
  exact .quiet h (.rotation hplan _ rfl)

end ManifestStore

/-- The journal behind the sample frame, which ends at the offset 841. -/
def ManifestStore.sampleSynced (store : ManifestStore) : ActiveJournal :=
  { store.journal with
    checkpointState := ⟨2, 1, 841⟩
    activeBytes := 841
    records := [⟨841, sampleDecoded⟩] }

/-- The active journal with the sample frame. -/
def sampleActive : StoreDirectory :=
  (∅ : StoreDirectory).insert (.activeJournal 1) (encodeHeader (sampleIdentity 1) ++
    (encodeAdmissionFrameV1 sampleSequence sampleAdmission).toOption.getD [])

/-- A new store registers the sample series, commits the sample admission and is rotated. -/
def sampleRotated : Except ManifestStoreError ManifestStore := do
  let store ← (initializeGenesis sampleStoreConfig sampleInventory ⟨none, none⟩ ∅).1
  let registered ← store.registering fun registry => registry.register (sampleIdentity 1)
    sampleBinding sampleDeclarationPayload ⟨sampleTime, none⟩
  let batched ← registered.batching registered.sampleSynced [⟨sampleAdmission.retry, 1, 841⟩]
  batched.rotating sampleActive

theorem sampleRotated_committed {store : ManifestStore} (h : sampleRotated = .ok store) :
    store.Committed sampleStoreConfig := by
  unfold sampleRotated at h
  simp only [bind_ok] at h
  obtain ⟨first, hfirst, registered, hregistered, batched, hbatched, hrotated⟩ := h
  have hopen : initializeGenesis sampleStoreConfig sampleInventory ⟨none, none⟩ ∅ =
      (.ok first, (initializeGenesis sampleStoreConfig sampleInventory ⟨none, none⟩ ∅).2) := by
    rw [← hfirst]
  have hcommitted : first.Committed sampleStoreConfig := .genesis hopen
  exact ((hcommitted.registering hregistered).batching hbatched).rotating hrotated

def sampleCutoff : DurableCutoff := ⟨⟨sampleIdentity 1, 2⟩, 2, 2, 230⟩

/-- A batch behind a registry commit and a rotation, which retains the outcome of the batch before
them. -/
theorem legal_batches_advance_sample :
    ∃ (store : ManifestStore) (candidate : RetryStateSnapshot) (bytes : Bytes),
      store.Committed sampleStoreConfig ∧ store.current.registry.generation = 2 ∧
      store.current.sequenceFloor = 1 ∧ store.retry.replay.length = 1 ∧
      store.retry.advance ⟨0, 3⟩ [⟨sampleRetry 'a' firstKey_printable, 2, 230⟩]
        ⟨5, 2, 1, sampleCutoff, ⟨0, 3⟩, 1, store.current.catalog⟩ = .ok candidate ∧
      encodeRetryState candidate = .ok bytes := by
  have hreached : (sampleRotated.toOption.any fun store => decide (
      store.retry.replay.length = 1 ∧
      store.retry.classify (sampleRetry 'a' firstKey_printable) = .fresh ∧
      store.current.cutoff = ⟨⟨sampleIdentity 1, 2⟩, 1, 1, 28⟩ ∧
      checkedNext store.current.generation = .ok 5 ∧
      checkedNext store.current.retry.state.generation = .ok 3 ∧
      store.selectRetryCandidateSlot = .ok 0 ∧
      store.current.registry.generation = 2 ∧ store.current.registry.slot = 1 ∧
      store.current.sequenceFloor = 1)) = true := by
    decide +kernel
  obtain ⟨store, hstore, hfacts⟩ := exists_ok_any hreached
  obtain ⟨hreplay, hfresh, hcutoff, hgeneration, hretry, hslot, hregistry, hregistrySlot,
    hfloor⟩ := of_decide_eq_true hfacts
  have hcommitted := sampleRotated_committed hstore
  have hlegal : LegalBatch store.retry store.current.cutoff sampleCutoff
      [⟨sampleRetry 'a' firstKey_printable, 2, 230⟩] := by
    rw [hcutoff]
    refine ⟨by decide, rfl, rfl, by simp [Consecutive], by simp, ⟨_, rfl, rfl, rfl⟩,
      List.pairwise_singleton _ _, ?_⟩
    intro entry hentry
    rw [List.mem_singleton.mp hentry]
    exact hfresh
  have hadvances := (legal_batches_advance sampleStoreConfig store hcommitted).1 _ _ _ _ _ hlegal
    hgeneration hretry hslot
  rw [hregistry, hregistrySlot, hfloor] at hadvances
  obtain ⟨candidate, bytes, hadvance, -, -, hbytes⟩ := hadvances
  exact ⟨store, candidate, bytes, hcommitted, hregistry, hfloor, hreplay, hadvance, hbytes⟩

end Historian
