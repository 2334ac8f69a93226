import Historian.RootMethods

namespace Historian

open Wire Checks Files

theorem length_of_decodeRecoveryState {bytes : Bytes} {storeId : StoreId} {report : RecoveryReport}
    (h : decodeRecoveryState bytes storeId = .ok report) : bytes.length = recoveryStateLen := by
  unfold decodeRecoveryState at h
  rw [then_ok, refuse_ok] at h
  simp only [not_or, not_not] at h
  exact h.1.1

theorem readRecoverySlot_some {d : StoreDirectory} {storeId : StoreId} {slot : UInt8}
    {artifact : RecoveryArtifact} (h : readRecoverySlot d storeId slot = .ok (some artifact)) :
    artifact.reference.slot = slot ∧
      Described d (.recovery slot) recoveryStateLen artifact.reference.checksum := by
  unfold readRecoverySlot at h
  rw [bind_ok] at h
  obtain ⟨found, hfound, h⟩ := h
  cases found with
  | none => simp at h
  | some bytes =>
    simp only [bind_ok, mapError_ok, pure_ok, Option.some.injEq] at h
    obtain ⟨report, hreport, rfl⟩ := h
    exact ⟨rfl, bytes, (readOptionalBounded_some.mp hfound).1,
      length_of_decodeRecoveryState hreport, rfl⟩

/-- What the inventory of the recovery files says about the directory. -/
structure RecoveryInventoryState.Of (inventory : RecoveryInventoryState) (storeId : StoreId)
    (d : StoreDirectory) : Prop where
  slots : ∀ slot artifact, inventory.slots slot = some artifact →
    artifact.reference.slot = slot ∧
      Described d (.recovery slot) recoveryStateLen artifact.reference.checksum
  staged : ∀ record ∈ inventory.manifestStaging, record.Valid storeId

theorem readRecoveryInventory_ok {d : StoreDirectory} {storeId : StoreId}
    {inventory : RecoveryInventoryState} (h : readRecoveryInventory d storeId = .ok inventory) :
    inventory.Of storeId d := by
  unfold readRecoveryInventory at h
  simp only [bind_ok, pure_ok] at h
  obtain ⟨first, hfirst, second, hsecond, third, hthird, staging, -, manifestStaging, hstaging,
    rfl⟩ := h
  refine ⟨?_, ?_⟩
  · intro slot artifact hartifact
    dsimp only at hartifact
    split at hartifact
    next heq =>
      rw [hartifact] at hfirst
      rw [heq]
      exact readRecoverySlot_some hfirst
    next =>
      split at hartifact
      next heq =>
        rw [hartifact] at hsecond
        rw [heq]
        exact readRecoverySlot_some hsecond
      next =>
        split at hartifact
        next heq =>
          rw [hartifact] at hthird
          rw [heq]
          exact readRecoverySlot_some hthird
        next => cases hartifact
  · intro record hrecord
    rw [Option.mem_def] at hrecord
    dsimp only at hrecord
    rw [hrecord, readManifestStaging, bind_ok] at hstaging
    obtain ⟨found, -, hstaging⟩ := hstaging
    cases found with
    | none => simp at hstaging
    | some bytes =>
      simp only [bind_ok, pure_ok, Option.some.injEq] at hstaging
      obtain ⟨_, hdecoded, rfl⟩ := hstaging
      exact (decodeManifest_ok.mp hdecoded).1

theorem RecoveryInventoryState.Of.artifact {inventory : RecoveryInventoryState}
    {storeId : StoreId} {d : StoreDirectory} (h : inventory.Of storeId d)
    {artifact : RecoveryArtifact} (hartifact : artifact ∈ inventory.artifacts) :
    Described d (.recovery artifact.reference.slot) recoveryStateLen
      artifact.reference.checksum := by
  obtain ⟨slot, -, hslot⟩ := List.mem_filterMap.mp hartifact
  obtain ⟨rfl, hdescribed⟩ := h.slots slot artifact hslot
  exact hdescribed

theorem RecoveryInventoryState.Of.referenced {inventory : RecoveryInventoryState}
    {storeId : StoreId} {d : StoreDirectory} (h : inventory.Of storeId d)
    {reference : RecoveryReference} {report : RecoveryReport}
    (hreport : referencedRecovery inventory reference = .ok report) :
    Described d (.recovery reference.slot) recoveryStateLen reference.checksum := by
  unfold referencedRecovery at hreport
  split at hreport
  next => cases hreport
  next artifact hartifact =>
    rw [then_ok, refuse_ok, not_not] at hreport
    obtain ⟨rfl, -⟩ := hreport
    exact (h.slots _ artifact hartifact).2

theorem readReferencedRegistry_described {d : StoreDirectory} {reference : RegistryReference}
    {storeId : StoreId} {registry : SeriesRegistry}
    (h : readReferencedRegistry d reference storeId = .ok registry) :
    Described d (.registry reference.slot) reference.length.val reference.checksum := by
  unfold readReferencedRegistry at h
  simp only [bind_ok, exists_unit, refuse_ok, not_or, not_not] at h
  obtain ⟨-, bytes, hbytes, ⟨hlength, hchecksum⟩, -⟩ := h
  exact ⟨bytes, (readRequiredBounded_ok.mp hbytes).1, hlength, hchecksum⟩

theorem readReferencedRetry_described {d : StoreDirectory} {manifest : ManifestRecord}
    {storeId : StoreId} {options : RetryPersistenceOptions} {catalog : GenerationCatalogSnapshot}
    {snapshot : RetryStateSnapshot}
    (h : readReferencedRetry d manifest storeId options catalog = .ok snapshot) :
    Described d (.retry manifest.retry.state.slot) manifest.retry.length.val
      manifest.retry.checksum := by
  unfold readReferencedRetry at h
  simp only [bind_ok, exists_unit, refuse_ok, not_or, not_not] at h
  obtain ⟨-, bytes, hbytes, ⟨hlength, hchecksum⟩, -⟩ := h
  exact ⟨bytes, (readRequiredBounded_ok.mp hbytes).1, hlength, hchecksum⟩

theorem readManifestCatalog_described {d : StoreDirectory} {manifest : ManifestRecord}
    {storeId : StoreId} {catalog : GenerationCatalogSnapshot}
    (h : readManifestCatalog d manifest storeId = .ok catalog) :
    catalog.reference = manifest.catalog ∧ ∀ reference ∈ manifest.catalog,
      Described d (.catalog reference.slot) reference.length.val reference.checksum := by
  unfold readManifestCatalog at h
  split at h
  next reference hreference =>
    unfold readReferencedCatalog at h
    simp only [bind_ok, exists_unit, refuse_ok, not_or, not_not, mapError_ok, pure_ok] at h
    obtain ⟨-, bytes, hbytes, ⟨hlength, hchecksum⟩, snapshot, -, hsame, -, rfl⟩ := h
    refine ⟨hsame.trans hreference.symm, ?_⟩
    intro found hfound
    rw [hreference, Option.mem_some_iff] at hfound
    rw [← hfound]
    exact ⟨bytes, (readRequiredBounded_ok.mp hbytes).1, hlength, hchecksum⟩
  next hnone =>
    cases h
    rw [hnone]
    exact ⟨rfl, by simp⟩

/-- The checks of an open read every file that the root refers to. -/
theorem readCommitted_ok {config : ManifestStoreConfig} {slots : ManifestSlots} {slot : Fin 2}
    {current : ManifestRecord} {intent : Option RotationIntent} {journal : ActiveJournal}
    {plan : Option ActiveRecoveryPlan} {d : StoreDirectory} {read : CommittedRead}
    (h : readCommitted config slots slot current intent journal plan d = .ok read) :
    current.Held d ∧ read.recoveryInventory.Of config.storeId d ∧ read.recoveryPlan = plan ∧
      read.store.manifestSlots = slots ∧ read.store.currentSlot = slot ∧
      read.store.current = current ∧ read.store.journal = journal ∧
      read.store.catalog.reference = current.catalog := by
  unfold readCommitted at h
  simp only [bind_ok, exists_unit] at h
  obtain ⟨registry, hregistry, -, catalog, hcatalog, -, inventory, -, -, recoveryInventory,
    hrecovery, -, -, retry, hretry, -, -, h⟩ := h
  obtain ⟨hsame, hdescribed⟩ := readManifestCatalog_described hcatalog
  have hof := readRecoveryInventory_ok hrecovery
  have hheld : (∀ reference ∈ current.recovery, Described d (.recovery reference.slot)
      recoveryStateLen reference.checksum) → current.Held d := fun hrecovered =>
    ⟨readReferencedRegistry_described hregistry, readReferencedRetry_described hretry, hdescribed,
      hrecovered⟩
  split at h
  next hnone =>
    simp only [bind_ok, pure_ok] at h
    obtain ⟨report, -, rfl⟩ := h
    refine ⟨hheld ?_, hof, rfl, rfl, rfl, rfl, rfl, hsame⟩
    rw [hnone]
    simp
  next reference hreference =>
    simp only [bind_ok, pure_ok] at h
    obtain ⟨report, hreport, _, -, rfl⟩ := h
    refine ⟨hheld ?_, hof, rfl, rfl, rfl, rfl, rfl, hsame⟩
    intro found hfound
    rw [hreference, Option.mem_some_iff] at hfound
    rw [← hfound]
    exact hof.referenced hreport

namespace ManifestStore

variable {store : ManifestStore} {storeId : StoreId} {d : StoreDirectory}
  {inventory : RecoveryInventoryState} {plan : Option ActiveRecoveryPlan}

/-- Where a recovery file goes, and what is known about it before it is there. -/
structure SelectedRecovery (store : ManifestStore) (inventory : RecoveryInventoryState)
    (artifact : RecoveryArtifact) (source : RecoverySource) : Prop where
  slot : candidateSlot store.manifestSlots.recoverySlots .invalidManifest =
    .ok artifact.reference.slot
  found : source = .slot → artifact ∈ inventory.artifacts
  made : ∀ bytes, source = .report bytes → crc32c bytes = artifact.reference.checksum

theorem selectRecovery_some {artifact : RecoveryArtifact} {source : RecoverySource}
    (h : store.selectRecovery inventory plan = .ok (some (artifact, source))) :
    SelectedRecovery store inventory artifact source := by
  unfold selectRecovery at h
  simp only [bind_ok, exists_unit] at h
  obtain ⟨targetSlot, hslot, -, -, expected, -, h⟩ := h
  split at h
  next report _ _ =>
    simp only [bind_ok, exists_unit, pure_ok, Option.some.injEq, Prod.mk.injEq] at h
    obtain ⟨bytes, -, -, rfl, rfl⟩ := h
    exact ⟨hslot, (fun hne => nomatch hne), (fun _ hne => nomatch hne)⟩
  next found _ hhead =>
    simp only [bind_ok, exists_unit, pure_ok, Option.some.injEq, Prod.mk.injEq] at h
    obtain ⟨hfound, rfl, rfl⟩ := h
    have hmem : found ∈ inventory.artifacts :=
      (List.mem_filter.mp (List.mem_of_mem_head? hhead)).1
    unfold validateFoundRecovery at hfound
    rw [then_ok, refuse_ok] at hfound
    simp only [not_or, not_not] at hfound
    refine ⟨?_, (fun _ => hmem), (fun _ hne => nomatch hne)⟩
    rw [hfound.1.1]
    exact hslot
  next =>
    simp only [bind_ok, exists_unit] at h
    obtain ⟨-, h⟩ := h
    split at h
    next => simp [pure_ok] at h
    next plan =>
      simp only [bind_ok, pure_ok, Option.some.injEq, Prod.mk.injEq] at h
      obtain ⟨report, -, bytes, -, rfl, rfl⟩ := h
      refine ⟨hslot, (fun hne => nomatch hne), ?_⟩
      intro made hmade
      cases hmade
      rfl

theorem planRecovery_selected {recovery : RecoveryCommit}
    (h : store.planRecovery inventory plan = .ok (some recovery)) :
    SelectedRecovery store inventory recovery.artifact recovery.source ∧
      ∀ staged ∈ inventory.manifestStaging, staged = recovery.manifest.record := by
  unfold planRecovery at h
  rw [bind_ok] at h
  obtain ⟨selected, hselected, h⟩ := h
  cases selected with
  | none => cases h
  | some found =>
    obtain ⟨artifact, source⟩ := found
    simp only [bind_ok, exists_unit, refuse_ok, pure_ok, Option.some.injEq] at h
    obtain ⟨-, generation, -, manifest, hmanifest, hstaged, rfl⟩ := h
    refine ⟨selectRecovery_some hselected, ?_⟩
    intro staged hmem
    rw [(prepareManifest_ok hmanifest).1]
    by_contra hne
    exact hstaged ⟨staged, hmem, hne⟩

theorem SelectedRecovery.unnamed {artifact : RecoveryArtifact} {source : RecoverySource}
    (h : SelectedRecovery store inventory artifact source) :
    artifact.reference.slot ∉ store.manifestSlots.recoverySlots := (candidateSlot_ok h.slot).2

theorem RecoveryCommitPlan.progresses {recovery : RecoveryCommit}
    (hplan : RecoveryCommitPlan store recovery)
    (hselected : SelectedRecovery store inventory recovery.artifact recovery.source)
    (h : store.Rooted storeId d) : RootProgresses store.current recovery.manifest.record := by
  refine ⟨hplan.generation, ?_, ?_, ?_⟩
  · rw [hplan.record]
    exact retryReferenceProgresses_refl _
  · rw [hplan.record]
    exact catalogReferenceProgresses_refl _
  · rw [hplan.record]
    dsimp only
    cases hrecovery : store.current.recovery with
    | none => rfl
    | some older =>
      refine decide_eq_true (Or.inr ?_)
      intro heq
      have hmem := mem_recoverySlots h.root.mem ⟨older, hrecovery, heq.symm⟩
      exact hselected.unnamed hmem

/-- The recovery file is put into its slot, wherever it comes from. -/
def placeRecovery (store : ManifestStore) (recovery : RecoveryCommit) : StoreAction Unit :=
  match recovery.source with
  | .staging => convergeRecoveryStaging recovery.artifact store.storeId
  | .report bytes => publishPreparedRecoveryReport recovery.artifact bytes
  | .slot => pure ()

/-- The suffix is cut off, or was cut off before. -/
def cutSuffix (store : ManifestStore) : Option ActiveRecoveryPlan → StoreAction Unit
  | some plan => (store.journal.applyRecovery plan).mapError .active
  | none => (store.journal.synchronizeRecoveryCutoff store.current.cutoff).mapError .active

/-- The manifest of a recovery is published, or its publication is completed. -/
def publishRecoveryRoot (store : ManifestStore) (inventory : RecoveryInventoryState)
    (recovery : RecoveryCommit) : StoreAction (Fin 2) :=
  if inventory.manifestStaging ≠ none then
    convergeManifestStaging (1 - store.currentSlot) recovery.manifest.record
  else store.publishPreparedManifest recovery.manifest

/-- The last part of a recovery: the store with the new root, and what is removed behind it. -/
def adoptRecovery (store : ManifestStore) (recovery : RecoveryCommit) (slot : Fin 2) :
    StoreAction ManifestStore := do
  let adopted := { store.adoptPublishedManifest slot recovery.manifest.record with
    recoveryReport := some recovery.artifact.report }
  removeUnreferencedCatalogSlots adopted.manifestSlots
  removeUnreferencedRetrySlots adopted.manifestSlots
  removeUnreferencedRecoverySlots adopted.manifestSlots adopted.storeId
  pure adopted

theorem commitRecovery_eq (store : ManifestStore) (inventory : RecoveryInventoryState)
    (plan : Option ActiveRecoveryPlan) (recovery : RecoveryCommit) :
    store.commitRecovery inventory plan recovery = (do
      store.placeRecovery recovery
      store.cutSuffix plan
      let slot ← store.publishRecoveryRoot inventory recovery
      store.adoptRecovery recovery slot) := by
  unfold commitRecovery placeRecovery cutSuffix publishRecoveryRoot adoptRecovery
  cases recovery.source <;> cases plan <;> split <;> rfl

theorem Rooted.placeRecovery (h : store.Rooted storeId d) (hof : inventory.Of storeId d)
    {recovery : RecoveryCommit}
    (hselected : SelectedRecovery store inventory recovery.artifact recovery.source) :
    Action.Ensures (Kept storeId store.current) (store.placeRecovery recovery)
      (fun _ d' => store.Rooted storeId d' ∧
        Described d' (.recovery recovery.artifact.reference.slot) recoveryStateLen
          recovery.artifact.reference.checksum) d := by
  have hnames : ¬store.current.Names (.recovery recovery.artifact.reference.slot) := by
    intro hnamed
    exact hselected.unnamed (mem_recoverySlots h.root.mem (hnamed.refers (by simp)))
  have hstaging : ¬store.current.Names .recoveryStaging := fun hnamed => hnamed.rootFile
  unfold ManifestStore.placeRecovery
  cases hsource : recovery.source with
  | slot =>
    exact ensures_pure h.kept ⟨h, hof.artifact (hselected.found hsource)⟩
  | report bytes =>
    rw [← hselected.made bytes hsource]
    unfold publishPreparedRecoveryReport
    refine (h.root.publishFile recoveryStateLen hstaging hnames ?_).mono ?_
    · intro _ hverify
      simp only [bind_ok, mapError_ok] at hverify
      obtain ⟨decoded, hdecoded, -⟩ := hverify
      exact length_of_decodeRecoveryState hdecoded
    · rintro _ d' ⟨hrooted, hdescribed⟩
      exact ⟨⟨hrooted, h.catalog⟩, hdescribed⟩
  | staging =>
    unfold convergeRecoveryStaging
    refine ensures_look_bind h.kept ?_
    intro bytes hbytes
    refine ensures_ensure_bind h.kept ?_
    intro report hreport
    refine ensures_ensure_bind h.kept ?_
    intro _ hchecked
    rw [refuse_ok] at hchecked
    simp only [not_or, not_not] at hchecked
    have hlookup := (readRequiredBounded_ok.mp hbytes).1
    have hrooted : store.Rooted storeId (Effect.apply d
        (.rename .recoveryStaging (.recovery recovery.artifact.reference.slot))) := by
      refine ⟨h.root.same ?_, h.catalog⟩
      intro name hname
      apply lookup_untouched
      rintro (rfl | rfl)
      · exact hstaging hname
      · exact hnames hname
    refine ensures_emit h.kept hrooted.kept ⟨hrooted, bytes, ?_, ?_, hchecked.2⟩
    · rw [lookup_rename hlookup, if_pos rfl]
    · exact length_of_decodeRecoveryState (mapError_ok.mp hreport)

/-- The manifest that an interrupted recovery staged is put into its slot. -/
theorem Rooted.convergeManifestStaging (h : store.Rooted storeId d) {record : ManifestRecord}
    (hprogress : RootProgresses store.current record) (hheld : record.Held d)
    (hvalid : record.Valid storeId) :
    Action.Ensures (Kept storeId store.current)
      (Historian.convergeManifestStaging (1 - store.currentSlot) record)
      (fun slot d' => slot = 1 - store.currentSlot ∧
        RootedAt storeId (store.manifestSlots.set slot record) slot record d') d := by
  unfold Historian.convergeManifestStaging
  refine ensures_look_bind h.kept ?_
  intro bytes hbytes
  refine ensures_ensure_bind h.kept ?_
  intro _ hsame
  rw [refuse_ok, not_not] at hsame
  have hlookup := (readRequiredBounded_ok.mp hbytes).1
  -- the staged file is as it would be behind the writing of the staging file
  have hnext : ∀ name, (Effect.apply d (.rename .manifestStaging
      (.manifest (1 - store.currentSlot)))).lookup name = (published d .manifestStaging
        (.manifest (1 - store.currentSlot)) (encodeManifest record)).lookup name := by
    intro name
    rw [lookup_rename hlookup, lookup_published, hsame]
  have hrooted : RootedAt storeId (store.manifestSlots.set (1 - store.currentSlot) record)
      (1 - store.currentSlot) record
      (Effect.apply d (.rename .manifestStaging (.manifest (1 - store.currentSlot)))) := by
    have hpublished : RootedAt storeId
        (store.manifestSlots.set (1 - store.currentSlot) record) (1 - store.currentSlot) record
        (published d .manifestStaging (.manifest (1 - store.currentSlot))
          (encodeManifest record)) :=
      ⟨h.root.on.publish hvalid _, h.root.selects.publish hprogress, hheld.published _ _⟩
    exact hpublished.same fun name _ => hnext name
  refine ensures_emit_bind h.kept ?_
  exact ensures_pure (hrooted.keptBehind hprogress) ⟨rfl, hrooted⟩

/-- The root of a recovery is published beside the files of the root that it goes on from. -/
theorem Rooted.commitRecovery (h : store.Rooted storeId d) (hof : inventory.Of storeId d)
    {recovery : RecoveryCommit} (hrecovery : store.planRecovery inventory plan =
      .ok (some recovery)) :
    Action.Ensures (Kept storeId store.current) (store.commitRecovery inventory plan recovery)
      (fun adopted d' => adopted.Rooted storeId d' ∧
        RootProgresses store.current adopted.current) d := by
  have hplan := planRecovery_some hrecovery
  obtain ⟨hselected, hstaged⟩ := planRecovery_selected hrecovery
  have hprogress := hplan.progresses hselected h
  rw [commitRecovery_eq]
  refine ensures_bind (h.placeRecovery hof hselected) ?_
  rintro _ d' ⟨hplaced, hdescribed⟩
  have hheld : recovery.manifest.record.Held d' := by
    rw [hplan.record]
    refine ⟨hplaced.root.held.registry, hplaced.root.held.retry, hplaced.root.held.catalog, ?_⟩
    intro found hfound
    rw [Option.mem_some_iff] at hfound
    rw [← hfound]
    exact hdescribed
  refine ensures_bind (R := fun _ d' => store.Rooted storeId d' ∧
    recovery.manifest.record.Held d') ?_ ?_
  · -- neither the root nor the next one depends on the journal
    have hsame : (store.cutSuffix plan).Avoids fun name =>
        store.current.Names name ∨ recovery.manifest.record.Names name := by
      have hfile : ∀ name, store.current.Names name ∨ recovery.manifest.record.Names name →
          name.IsRootFile := fun _ hname => hname.elim (·.rootFile) (·.rootFile)
      cases plan with
      | none => exact avoids_mapError (avoids_synchronizeRecoveryCutoff _ _)
      | some plan => exact avoids_mapError (avoids_applyRecovery hfile _ _)
    have hensures := hsame.ensures (P := Kept storeId store.current) fun d'' hnames =>
      (hplaced.root.same fun name hname => hnames name (Or.inl hname)).kept
    refine hensures.mono ?_
    intro _ d'' hnames
    exact ⟨⟨hplaced.root.same fun name hname => hnames name (Or.inl hname), hplaced.catalog⟩,
      hheld.same fun name hname => hnames name (Or.inr (Or.inl hname))⟩
  rintro _ d' ⟨hcut, hheld⟩
  refine ensures_bind (R := fun slot d' => slot = 1 - store.currentSlot ∧ RootedAt storeId
    (store.manifestSlots.set slot recovery.manifest.record) slot recovery.manifest.record d') ?_ ?_
  · unfold publishRecoveryRoot
    split
    next hmanifest =>
      obtain ⟨staged, hstaging⟩ := Option.ne_none_iff_exists'.mp hmanifest
      have hvalid := hof.staged staged hstaging
      rw [hstaged staged hstaging] at hvalid
      exact hcut.convergeManifestStaging hprogress hheld hvalid
    next =>
      exact hcut.publishManifest hprogress hheld hplan.bytes
        (hplan.target (h.nextGeneration hplan.generation))
  rintro slot d' ⟨rfl, hrooted⟩
  have hkept := fun d'' (hrooted : RootedAt storeId
      (store.manifestSlots.set (1 - store.currentSlot) recovery.manifest.record)
      (1 - store.currentSlot) recovery.manifest.record d'') => hrooted.keptBehind hprogress
  unfold adoptRecovery
  refine ensures_bind (hrooted.ensures (avoids_removeUnreferencedCatalogSlots hrooted.mem) hkept) ?_
  intro _ d' hrooted
  refine ensures_bind (hrooted.ensures (avoids_removeUnreferencedRetrySlots hrooted.mem) hkept) ?_
  intro _ d' hrooted
  refine ensures_bind
    (hrooted.ensures (avoids_removeUnreferencedRecoverySlots hrooted.mem _) hkept) ?_
  intro _ d' hrooted
  refine ensures_pure (hkept d' hrooted) ⟨⟨hrooted, ?_⟩, hprogress⟩
  change store.catalog.reference = recovery.manifest.record.catalog
  rw [hplan.record]
  exact h.catalog

end ManifestStore

end Historian
