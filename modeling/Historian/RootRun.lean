import Historian.RegistryReplay
import Historian.RetryCommits
import Historian.RootOpen

namespace Historian

open Wire Checks Files

theorem ManifestSlots.On.unique {slots found : ManifestSlots} {storeId : StoreId}
    {d : StoreDirectory} (h : slots.On storeId d) (hfound : found.On storeId d) :
    found = slots := by
  have hread := readManifestSlots_ok.mpr h
  rw [readManifestSlots_ok.mpr hfound, Except.ok.injEq] at hread
  exact hread

theorem ManifestSlots.Selects.unique {slots : ManifestSlots} {slot slot' : Fin 2}
    {root found : ManifestRecord} (h : slots.Selects slot root)
    (hfound : slots.Selects slot' found) : slot' = slot ∧ found = root := by
  have hselect := selectCurrentManifest_some.mpr h
  rw [selectCurrentManifest_some.mpr hfound] at hselect
  simpa using hselect

section Rooted

variable {config : ManifestStoreConfig} {slots : ManifestSlots} {slot : Fin 2}
  {root before : ManifestRecord} {d : StoreDirectory}

theorem checkAbandonedRotation_slot {intent : RotationIntent} {found : UInt8}
    {effects : List StoreEffect}
    (h : checkAbandonedRotation config slots root intent d = (.ok found, effects)) :
    candidateSlot slots.catalogSlots .invalidGeneration = .ok found := by
  unfold checkAbandonedRotation at h
  simp only [run_look_bind_ok, run_ensure_bind_ok] at h
  obtain ⟨_, -, _, -, _, -, _, -, _, -, _, -, h⟩ := h
  rw [run_bind_ok] at h
  obtain ⟨_, _, _, -, h, -⟩ := h
  simp only [run_look_bind_ok, run_ensure_bind_ok] at h
  obtain ⟨_, -, _, -, _, -, h⟩ := h
  rw [run_bind_ok] at h
  obtain ⟨_, _, _, -, h, -⟩ := h
  simp only [run_look_bind_ok, run_ensure_bind_ok, run_pure_ok] at h
  obtain ⟨_, hslot, _, -, _, -, rfl, -⟩ := h
  exact hslot

/-- A rollback removes nothing that a manifest refers to. -/
theorem RootedAt.rollback (h : RootedAt config.storeId slots slot root d)
    (intent : RotationIntent) : Action.Ensures (Kept config.storeId root)
      (rollbackUncommittedRotation config slots root intent)
      (fun _ d' => RootedAt config.storeId slots slot root d') d := by
  have hfile : ∀ name, root.Names name → name.IsRootFile := fun _ hname => hname.rootFile
  have hkept : ∀ d', RootedAt config.storeId slots slot root d' → Kept config.storeId root d' :=
    fun _ hrooted => hrooted.kept
  obtain ⟨hthroughout, hresult⟩ := h.ensures
    (avoids_checkAbandonedRotation hfile config slots root intent) hkept
  have hchecked : Action.Ensures (Kept config.storeId root)
      (checkAbandonedRotation config slots root intent) (fun found d' =>
        RootedAt config.storeId slots slot root d' ∧
          candidateSlot slots.catalogSlots .invalidGeneration = .ok found) d := by
    refine ⟨hthroughout, ?_⟩
    intro found hfound
    exact ⟨hresult found hfound, checkAbandonedRotation_slot (Prod.ext hfound rfl)⟩
  unfold rollbackUncommittedRotation
  refine ensures_bind hchecked ?_
  rintro found d' ⟨hrooted, hslot⟩
  refine hrooted.ensures (avoids_removeEach ?_) hkept
  intro name hname hnamed
  simp only [abandonedFiles, List.mem_cons, List.not_mem_nil, or_false] at hname
  rcases hname with rfl | rfl | rfl | rfl | rfl | rfl | rfl | rfl
  case inr.inr.inl =>
    obtain ⟨reference, hreference, rfl⟩ := hnamed.refers (by simp)
    exact (candidateSlot_ok hslot).2 (ManifestStore.mem_catalogSlots hrooted.mem hreference)
  all_goals exact hnamed.rootFile

/-- The rotation branch of an open leaves the root and its manifests. -/
theorem RootedAt.convergeRotation (h : RootedAt config.storeId slots slot root d)
    (inventory : Inventory) : Action.Ensures (Kept config.storeId root)
      (convergeRotation config inventory) (fun converged d' =>
        converged.manifestSlots = slots ∧ RootedAt config.storeId slots slot root d') d := by
  unfold Historian.convergeRotation
  refine ensures_look_bind h.kept ?_
  intro found hfound
  have hslots := h.on.unique (readManifestSlots_ok.mp hfound)
  rw [hslots]
  split
  next =>
    refine ensures_look_bind h.kept ?_
    rintro ⟨current, intent⟩ hread
    have hcurrent : current = root := by
      unfold readInterruptedRotation at hread
      simp only [bind_ok, exists_unit] at hread
      obtain ⟨_, -, -, -, selected, hselected, hread⟩ := hread
      cases selected with
      | none => cases hread
      | some selected =>
        obtain ⟨selectedSlot, record⟩ := selected
        simp only [bind_ok, pure_ok, Prod.mk.injEq] at hread
        obtain ⟨_, -, rfl, -⟩ := hread
        exact (h.selects.unique (selectCurrentManifest_some.mp hselected)).2
    subst hcurrent
    dsimp only
    split
    next =>
      refine ensures_bind (h.rollback intent) ?_
      intro _ d' hrooted
      refine ensures_look_bind hrooted.kept ?_
      intro _ _
      refine ensures_look_bind hrooted.kept ?_
      intro again hagain
      exact ensures_pure hrooted.kept
        ⟨hrooted.on.unique (readManifestSlots_ok.mp hagain), hrooted⟩
    next =>
      refine ensures_ensure_bind h.kept ?_
      intro _ _
      refine ensures_look_bind h.kept ?_
      intro _ _
      exact ensures_pure h.kept ⟨rfl, h⟩
  next => exact ensures_pure h.kept ⟨rfl, h⟩

/-- What the checks of an open have read is a store that holds the manifests of the directory. -/
theorem RootedAt.read (h : RootedAt config.storeId slots slot root d)
    {intent : Option RotationIntent} {journal : ActiveJournal} {plan : Option ActiveRecoveryPlan}
    {read : CommittedRead}
    (hread : readCommitted config slots slot root intent journal plan d = .ok read) :
    read.store.Rooted config.storeId d ∧ read.store.current = root ∧
      read.recoveryInventory.Of config.storeId d := by
  obtain ⟨-, hof, -, hslots, hslot, hcurrent, -, hcatalog⟩ := readCommitted_ok hread
  refine ⟨⟨?_, hcatalog.trans (congrArg _ hcurrent.symm)⟩, hcurrent, hof⟩
  rw [hslots, hslot, hcurrent]
  exact h

theorem ManifestStore.Rooted.convergeRecovery {store : ManifestStore} {storeId : StoreId}
    (h : store.Rooted storeId d) {inventory : RecoveryInventoryState}
    (hof : inventory.Of storeId d) (plan : Option ActiveRecoveryPlan) :
    Action.Ensures (Kept storeId store.current) (store.convergeRecovery inventory plan)
      (fun next d' => next.Rooted storeId d' ∧
        (next.current = store.current ∨ RootProgresses store.current next.current)) d := by
  unfold ManifestStore.convergeRecovery
  refine ensures_ensure_bind h.kept ?_
  intro recovery hrecovery
  cases recovery with
  | none =>
    refine ensures_bind (h.root.ensures
      (avoids_removeUnreferencedRecoverySlots h.root.mem _) fun _ hrooted => hrooted.kept) ?_
    intro _ d' hcleaned
    exact ensures_pure hcleaned.kept ⟨⟨hcleaned, h.catalog⟩, Or.inl rfl⟩
  | some recovery =>
    refine (h.commitRecovery hof hrecovery).mono ?_
    rintro next d' ⟨hadopted, hprogress⟩
    exact ⟨hadopted, Or.inr hprogress⟩

/-- An open that finds a root commits nothing but a recovery of it. -/
theorem RootedAt.openCommitted (h : RootedAt config.storeId slots slot root d)
    (intent : Option RotationIntent) : Action.Ensures (Kept config.storeId root)
      (openCommitted config slots slot root intent) (fun store d' =>
        store.Rooted config.storeId d' ∧
          (store.current = root ∨ RootProgresses root store.current)) d := by
  have hfile : ∀ name, root.Names name → name.IsRootFile := fun _ hname => hname.rootFile
  have hkept : ∀ d', RootedAt config.storeId slots slot root d' → Kept config.storeId root d' :=
    fun _ hrooted => hrooted.kept
  unfold Historian.openCommitted
  refine ensures_ensure_bind h.kept ?_
  intro activeConfig _
  refine ensures_bind
    (h.ensures (avoids_mapError (avoids_openManifestRoot hfile activeConfig _)) hkept) ?_
  rintro ⟨journal, plan⟩ d' hrooted
  refine ensures_look_bind hrooted.kept ?_
  intro read hread
  obtain ⟨hstore, hcurrent, hof⟩ := hrooted.read hread
  rw [← hcurrent]
  exact hstore.convergeRecovery hof _

theorem avoids_finishOpen {store : ManifestStore}
    (hmem : store.current ∈ store.manifestSlots.retained)
    (intent : Option RotationIntent) : (finishOpen store intent).Avoids store.current.Names := by
  have hfile : ∀ name, store.current.Names name → name.IsRootFile := fun _ hname => hname.rootFile
  unfold finishOpen
  cases intent with
  | none =>
    refine avoids_bind (avoids_removeUnreferencedCatalogSlots hmem) fun _ => ?_
    exact avoids_removeUnreferencedRecoverySlots hmem _
  | some intent =>
    refine avoids_bind (avoids_cleanupCommittedRotation hfile _) fun _ => ?_
    refine avoids_bind (avoids_removeUnreferencedRetrySlots hmem) fun _ => ?_
    refine avoids_bind (avoids_removeUnreferencedCatalogSlots hmem) fun _ => ?_
    exact avoids_removeUnreferencedRecoverySlots hmem _

/-- Every stop of an open leaves the root of the directory, or the one of its recovery. -/
theorem RootedAt.open (h : RootedAt config.storeId slots slot root d) :
    Action.Ensures (Kept config.storeId root) (ManifestStore.open config)
      (fun store d' => store.Rooted config.storeId d') d := by
  have hfile : ∀ name, root.Names name → name.IsRootFile := fun _ hname => hname.rootFile
  have hkept : ∀ d', RootedAt config.storeId slots slot root d' → Kept config.storeId root d' :=
    fun _ hrooted => hrooted.kept
  unfold ManifestStore.open
  refine ensures_bind (h.ensures (avoids_openFormat hfile config) hkept) ?_
  intro inventory d' hrooted
  refine ensures_bind (hrooted.convergeRotation inventory) ?_
  rintro converged d' ⟨hslots, hrooted⟩
  unfold openRoot
  rw [hslots]
  refine ensures_ensure_bind hrooted.kept ?_
  intro selected hselected
  have hroot := selectCurrentManifest_some.mpr hrooted.selects
  rw [hselected, Except.ok.injEq] at hroot
  rw [hroot]
  refine ensures_ensure_bind hrooted.kept ?_
  intro _ _
  refine ensures_bind (hrooted.openCommitted converged.committedIntent) ?_
  rintro store d' ⟨hstore, hcurrent⟩
  have hbehind : ∀ d', RootedAt config.storeId store.manifestSlots store.currentSlot
      store.current d' → Kept config.storeId root d' := by
    intro d' hrooted
    rcases hcurrent with heq | hprogress
    · rw [← heq]
      exact hrooted.kept
    · exact hrooted.keptBehind hprogress
  refine ensures_bind (hstore.root.ensures
    (avoids_finishOpen hstore.root.mem converged.committedIntent) hbehind) ?_
  intro _ d' hfinished
  exact ensures_pure (hbehind d' hfinished) ⟨hfinished, hstore.catalog⟩

end Rooted

/-- A directory without a manifest. -/
def Unmanifested (d : StoreDirectory) : Prop := ∀ slot, d.lookup (.manifest slot) = none

/-- A directory has no root yet, or one whose files are all there. -/
def Settled (storeId : StoreId) (d : StoreDirectory) : Prop :=
  Unmanifested d ∨ ∃ root, Intact storeId root d

theorem Kept.settled {storeId : StoreId} {before : ManifestRecord} {d : StoreDirectory}
    (h : Kept storeId before d) : Settled storeId d := by
  obtain ⟨root, hroot, -⟩ := h
  exact Or.inr ⟨root, hroot⟩

theorem Unmanifested.on {d : StoreDirectory} (h : Unmanifested d) (storeId : StoreId) :
    (⟨none, none⟩ : ManifestSlots).On storeId d := by
  refine ⟨?_, fun slot _ => h slot⟩
  intro slot record hrecord
  fin_cases slot
  · cases hrecord
  · cases hrecord

theorem Unmanifested.put {d : StoreDirectory} (h : Unmanifested d) {name : Artifact}
    (bytes : Bytes) (hname : ∀ slot, name ≠ .manifest slot) :
    Unmanifested (Effect.apply d (.put name bytes)) := by
  intro slot
  rw [lookup_put, if_neg (hname slot).symm]
  exact h slot

theorem Unmanifested.publish {d : StoreDirectory} (h : Unmanifested d) {staging target : Artifact}
    (bytes : Bytes) (hstaging : ∀ slot, staging ≠ .manifest slot)
    (htarget : ∀ slot, target ≠ .manifest slot) :
    Unmanifested (published d staging target bytes) := by
  intro slot
  rw [lookup_published, if_neg (htarget slot).symm, if_neg (hstaging slot).symm]
  exact h slot

/-- The manifests are among the files that a root is made of. -/
theorem manifest_isRootFile : ∀ name, (False ∨ ∃ slot, name = Artifact.manifest slot) →
    name.IsRootFile := by
  rintro name (hfalse | ⟨slot, rfl⟩)
  · exact hfalse.elim
  · trivial

section Genesis

variable {config : ManifestStoreConfig} {d : StoreDirectory} {store : ManifestStore}
  {P : StoreDirectory → Prop}

/-- A part that writes neither a manifest nor a name of `S` keeps the directory without a root. -/
theorem Unmanifested.ensures {ε α : Type} {a : Action Artifact Bytes ε α} {S : Artifact → Prop}
    (h : Unmanifested d) (havoids : a.Avoids fun name => S name ∨ ∃ slot, name = .manifest slot)
    (hP : ∀ d', Unmanifested d' → P d') :
    Action.Ensures P a (fun _ d' => Unmanifested d' ∧
      ∀ name, S name → d'.lookup name = d.lookup name) d := by
  have hnone : ∀ d' : StoreDirectory, (∀ name, (S name ∨ ∃ slot, name = .manifest slot) →
      d'.lookup name = d.lookup name) → Unmanifested d' := by
    intro d' hsame slot
    exact (hsame _ (Or.inr ⟨slot, rfl⟩)).trans (h slot)
  refine (havoids.ensures fun d' hsame => hP d' (hnone d' hsame)).mono ?_
  intro _ d' hsame
  exact ⟨hnone d' hsame, fun name hname => hsame name (Or.inl hname)⟩

theorem Unmanifested.convergeRotation (h : Unmanifested d) (inventory : Inventory)
    (hP : ∀ d', Unmanifested d' → P d') :
    Action.Ensures P (convergeRotation config inventory)
      (fun converged d' => converged.manifestSlots = ⟨none, none⟩ ∧ Unmanifested d') d := by
  unfold Historian.convergeRotation
  refine ensures_look_bind (hP d h) ?_
  intro slots hslots
  have hnone := (h.on config.storeId).unique (readManifestSlots_ok.mp hslots)
  rw [hnone]
  split
  next =>
    -- an intent without a root is refused
    refine ensures_look_bind (hP d h) ?_
    intro interrupted hread
    unfold readInterruptedRotation at hread
    simp only [bind_ok, exists_unit] at hread
    obtain ⟨_, -, -, -, selected, hselected, hread⟩ := hread
    rw [selectCurrentManifest_none.mpr rfl, Except.ok.injEq] at hselected
    rw [← hselected] at hread
    cases hread
  next => exact ensures_pure (hP d h) ⟨rfl, h⟩

/-- An open of a directory without a root comes to the genesis, still without one. -/
theorem Unmanifested.ensures_open {Q : ManifestStore → StoreDirectory → Prop}
    (h : Unmanifested d) (hP : ∀ d', Unmanifested d' → P d')
    (hgenesis : ∀ inventory d', Unmanifested d' →
      Action.Ensures P (Historian.initializeGenesis config inventory ⟨none, none⟩) Q d') :
    Action.Ensures P (ManifestStore.open config) Q d := by
  unfold ManifestStore.open
  refine ensures_bind (h.ensures (avoids_openFormat manifest_isRootFile config) hP) ?_
  rintro inventory d' ⟨h, -⟩
  refine ensures_bind (h.convergeRotation inventory hP) ?_
  rintro converged d' ⟨hslots, h⟩
  unfold openRoot
  rw [hslots, selectCurrentManifest_none.mpr rfl]
  refine ensures_ensure_bind (hP d' h) ?_
  intro selected hselected
  rw [Except.ok.injEq] at hselected
  rw [← hselected]
  exact hgenesis converged.inventory d' h

theorem readInterruptedGenesisRegistry_described {expected : SeriesRegistrySnapshot}
    {found : Option RegistryReference} {slots : List UInt8} {reference : RegistryReference}
    (hfound : ∀ prior ∈ found,
      Described d (.registry prior.slot) prior.length.val prior.checksum)
    (h : readInterruptedGenesisRegistry d expected found slots = .ok reference) :
    Described d (.registry reference.slot) reference.length.val reference.checksum := by
  induction slots generalizing found with
  | nil =>
    cases found with
    | none => cases h
    | some prior =>
      cases h
      exact hfound _ rfl
  | cons slot rest ih =>
    rw [readInterruptedGenesisRegistry, bind_ok] at h
    obtain ⟨bytes, hbytes, h⟩ := h
    cases bytes with
    | none => exact ih hfound h
    | some bytes =>
      simp only [bind_ok, exists_unit, refuse_ok, not_or, not_not] at h
      obtain ⟨-, decoded, hdecoded, -, h⟩ := h
      refine ih ?_ h
      intro prior hprior
      cases hprior
      obtain ⟨-, hslot, -, hlength, hchecksum, -, hmaximum, -⟩ :=
        decodeRegistrySnapshotAtSlot_sound hdecoded
      rw [hslot, hlength, hchecksum, val_ofNat_length hmaximum (by decide)]
      exact ⟨bytes, (readOptionalBounded_some.mp hbytes).1, rfl, rfl⟩

/-- The first registry file is there before there is a root. -/
theorem Unmanifested.genesisRegistry (h : Unmanifested d) (inventory : Inventory) :
    Action.Ensures (Settled config.storeId) (genesisRegistry store inventory)
      (fun reference d' => Unmanifested d' ∧
        Described d' (.registry reference.slot) reference.length.val reference.checksum) d := by
  have hsettled : Settled config.storeId d := Or.inl h
  unfold Historian.genesisRegistry
  split
  next =>
    unfold publishGenesisRegistry
    refine ensures_ensure_bind hsettled ?_
    intro prepared hprepared
    obtain ⟨-, -, -, -, hlength, hchecksum⟩ := ManifestStore.prepareRegistrySnapshot_ok hprepared
    have hstaged : Unmanifested (Effect.apply d (.put .registryStaging prepared.bytes)) :=
      h.put prepared.bytes (by simp)
    have hdone : Unmanifested (published d .registryStaging (.registry prepared.reference.slot)
        prepared.bytes) := h.publish prepared.bytes (by simp) (by simp)
    unfold ManifestStore.publishPreparedRegistrySnapshot
    refine ensures_bind (ensures_publishReusableSlot hsettled (Or.inl hstaged)
      (fun _ _ => Or.inl hdone) (Q := fun _ d' => Unmanifested d' ∧ Described d'
        (.registry prepared.reference.slot) prepared.reference.length.val
        prepared.reference.checksum) ?_) ?_
    · intro hfits _
      rw [hlength, hchecksum, val_ofNat_length hfits (by decide)]
      exact ⟨hdone, prepared.bytes, by rw [lookup_published, if_pos rfl], rfl, rfl⟩
    · intro _ d' hregistry
      exact ensures_pure (Or.inl hregistry.1) hregistry
  next =>
    refine ensures_look hsettled ?_
    intro reference hreference
    exact ⟨h, readInterruptedGenesisRegistry_described (by simp) hreference⟩

theorem avoids_genesisRetry {S : Artifact → Prop} (hstaging : ¬S .retryStaging)
    (hslots : ∀ slot, ¬S (.retry slot)) (inventory : Inventory) :
    (genesisRetry store inventory).Avoids S := by
  unfold genesisRetry
  split
  next =>
    unfold publishGenesisRetry
    refine avoids_bind (avoids_ensure _) fun _ => avoids_bind ?_ fun _ => avoids_pure _
    exact avoids_publishReusableSlot hstaging (hslots _)
  next => exact avoids_look _

theorem avoids_openGenesisJournal {S : Artifact → Prop}
    (hS : ∀ name, S name → name.IsRootFile) (inventory : Inventory) :
    (openGenesisJournal config inventory).Avoids S := by
  unfold openGenesisJournal
  split
  next => exact avoids_mapError (avoids_openJournal hS _)
  next => exact avoids_bind (avoids_look _) fun _ => avoids_mapError (avoids_openJournal hS _)

/-- The first manifest is selected wherever it is put. -/
theorem selects_first {record : ManifestRecord} (hone : record.generation = 1) (target : Fin 2) :
    ((⟨none, none⟩ : ManifestSlots).set target record).Selects target record := by
  have hne : ¬(1 - target = target) := by fin_cases target <;> decide
  have hnone : ((⟨none, none⟩ : ManifestSlots).set target record).get (1 - target) = none := by
    rw [ManifestSlots.get_set, if_neg hne]
    fin_cases target <;> rfl
  refine ⟨by rw [ManifestSlots.get_set, if_pos rfl], ?_, fun _ => hone⟩
  rw [hnone]
  exact fun _ holder => nomatch holder

/-- The first root is selected as soon as all of its files are there. -/
theorem Unmanifested.initializeGenesis (h : Unmanifested d) (inventory : Inventory) :
    Action.Ensures (Settled config.storeId)
      (initializeGenesis config inventory ⟨none, none⟩)
      (fun store d' => store.Rooted config.storeId d') d := by
  have hsettled : ∀ d', Unmanifested d' → Settled config.storeId d' := fun _ hnone => Or.inl hnone
  unfold Historian.initializeGenesis
  refine ensures_ensure_bind (Or.inl h) ?_
  intro _ _
  refine ensures_bind
    (h.ensures (avoids_openGenesisJournal manifest_isRootFile inventory) hsettled) ?_
  rintro journal d' ⟨h, -⟩
  refine ensures_ensure_bind (Or.inl h) ?_
  intro _ _
  refine ensures_bind (h.genesisRegistry inventory) ?_
  rintro registryReference d' ⟨h, hregistry⟩
  refine ensures_bind (h.ensures (S := fun name => name = .registry registryReference.slot)
    (avoids_genesisRetry ?_ ?_ inventory) hsettled) ?_
  · simp
  · simp
  rintro retryReference d' ⟨h, hsame⟩
  refine ensures_look_bind (Or.inl h) ?_
  intro retry hretry
  refine ensures_ensure_bind (Or.inl h) ?_
  intro prepared hprepared
  obtain ⟨hrecord, hbytes, -⟩ := ManifestStore.prepareManifest_ok hprepared
  have hheld : prepared.record.Held d' := by
    rw [hrecord]
    exact ⟨hregistry.same (hsame _ rfl), readReferencedRetry_described hretry,
      (fun _ hnone => nomatch hnone), (fun _ hnone => nomatch hnone)⟩
  have hone : prepared.record.generation = 1 := by rw [hrecord]
  have hselects := selects_first hone prepared.target
  have hstaged : Unmanifested (Effect.apply d' (.put .manifestStaging prepared.bytes)) :=
    h.put prepared.bytes (by simp)
  refine ensures_bind (ManifestStore.ensures_publishPreparedManifest rfl (h.on config.storeId)
    hselects hheld (by rw [hbytes, hrecord]) (Or.inl h) (Or.inl hstaged)
    fun d' hrooted => hrooted.kept.settled) ?_
  rintro slot d' ⟨rfl, hrooted⟩
  refine ensures_pure hrooted.kept.settled ⟨?_, rfl⟩
  rw [hrecord] at hrooted
  exact hrooted

/-- An open of a directory without a root ends with the first root of a new store. -/
theorem Unmanifested.open (h : Unmanifested d) : Action.Ensures (Settled config.storeId)
    (ManifestStore.open config) (fun store d' => store.Rooted config.storeId d') d :=
  h.ensures_open (fun _ hnone => Or.inl hnone) fun inventory _ hnone =>
    hnone.initializeGenesis inventory

end Genesis

/-- What holds of every state of a store: its directory is settled, and a usable store holds the
manifests of its directory. -/
def StoreState.RootKept (config : ManifestStoreConfig) : StoreState → Prop
  | .running store d =>
    (∃ root, Intact config.storeId root d) ∧ ManifestStore.UsableRooted config.storeId store d
  | .stopped d => Settled config.storeId d

theorem Settled.open {config : ManifestStoreConfig} {d : StoreDirectory}
    (h : Settled config.storeId d) : Action.Ensures (Settled config.storeId)
      (ManifestStore.open config) (fun store d' => store.Rooted config.storeId d') d := by
  rcases h with h | ⟨root, slots, slot, h⟩
  · exact h.open
  · obtain ⟨hthroughout, hresult⟩ := h.open
    exact ⟨hthroughout.mono fun _ hkept => hkept.settled, hresult⟩

/-- Every stop of a method leaves the root of before or its successor. -/
theorem StoreState.RootKept.run {config : ManifestStoreConfig} {store : ManifestStore}
    {d : StoreDirectory} (h : (StoreState.running store d).RootKept config) (op : StoreOp) :
    (∃ before, Intact config.storeId before d ∧
      Throughout (Kept config.storeId before) d (op.run store d).effects) ∧
      (StoreState.running (op.run store d).store
        (applyAll d (op.run store d).effects)).RootKept config := by
  obtain ⟨⟨root, hroot⟩, husable⟩ := h
  cases hstate : store.ensureUsable with
  | ok =>
    have hrooted := husable hstate
    obtain ⟨hthroughout, hends⟩ := hrooted.keeps_run op
    obtain ⟨next, hnext, -⟩ := hthroughout.after
    exact ⟨⟨store.current, ⟨_, _, hrooted.root⟩, hthroughout⟩, ⟨next, hnext⟩, hends⟩
  | error e =>
    obtain ⟨hstore, heffects⟩ := ManifestStore.run_unusable hstate op d
    rw [hstore, heffects]
    exact ⟨⟨root, hroot, root, hroot, Or.inl rfl⟩, ⟨root, hroot⟩, husable⟩

theorem Torn.settled {config : ManifestStoreConfig} {d d' : StoreDirectory}
    (h : Torn config d d') (hsettled : Settled config.storeId d) : Settled config.storeId d' := by
  obtain ⟨generation, file, bytes, -, rfl, -⟩ := h
  have hsame : ∀ name : Artifact, name.IsRootFile →
      (d.insert (.activeJournal generation) bytes).lookup name = d.lookup name := by
    intro name hname
    refine Finmap.lookup_insert_of_ne _ ?_
    rintro rfl
    exact hname
  rcases hsettled with h | ⟨root, slots, slot, h⟩
  · exact Or.inl fun slot => (hsame (.manifest slot) trivial).trans (h slot)
  · exact Or.inr ⟨root, slots, slot, h.same fun name hname => hsame name hname.rootFile⟩

theorem StoreState.Reachable.rootKept {config : ManifestStoreConfig} {state : StoreState}
    (h : state.Reachable config) : state.RootKept config := by
  induction h with
  | fresh manifests => exact Or.inl manifests
  | @opened d mode store effects before opens ih =>
    obtain ⟨-, hresult⟩ := @Settled.open { config with mode := mode } d ih
    rw [opens] at hresult
    have hrooted := hresult store rfl
    exact ⟨⟨store.current, _, _, hrooted.root⟩, fun _ => hrooted⟩
  | @openStopped d mode done before stops ih =>
    obtain ⟨hthroughout, -⟩ := @Settled.open { config with mode := mode } d ih
    exact throughout_iff.mp hthroughout done stops
  | stepped before allowed ih => exact (ih.run _).2
  | @stepStopped store d op done before allowed stops ih =>
    obtain ⟨⟨root, -, hthroughout⟩, -⟩ := ih.run op
    exact (throughout_iff.mp hthroughout done stops).settled
  | torn before tears ih => exact tears.settled ih

/-- The manifest slot that a publication overwrites is not that of the root, and what was in it is
older than the root. -/
def ManifestStore.Overwrites (store : ManifestStore) (target : Fin 2) : Prop :=
  target ≠ store.currentSlot ∧
    ∀ older, store.manifestSlots.get target = some older →
      older.generation < store.current.generation

theorem ManifestStore.Rooted.overwrites {store : ManifestStore} {storeId : StoreId}
    {d : StoreDirectory} (h : store.Rooted storeId d) {prepared : PreparedManifestPublication}
    (htarget : prepared.target = 1 - store.currentSlot) : store.Overwrites prepared.target := by
  have hne : ∀ slot : Fin 2, 1 - slot ≠ slot := by decide
  rw [htarget]
  refine ⟨hne _, ?_⟩
  intro older holder
  have hgeneration := (h.root.selects.other older holder).generation
  rw [Fin.lt_def]
  omega

/-- The files that the commits of an open store write go to slots that no manifest refers to. -/
structure ManifestStore.ChoosesFresh (store : ManifestStore) (d : StoreDirectory) : Prop where
  batch : ∀ pending plan, store.planSync pending = .ok (some plan) →
    (∀ root ∈ store.manifestSlots.retained,
      plan.retryPublication.reference.state.slot ≠ root.retry.state.slot) ∧
    store.Overwrites plan.manifest.target
  registry : ∀ (α : Type) (operation : SeriesRegistry → Except ModelError (α × SeriesRegistry))
    (output : α) candidate registry manifest,
    store.planRegistry operation = .ok (.publish output candidate registry manifest) →
    (∀ root ∈ store.manifestSlots.retained, registry.reference.slot ≠ root.registry.slot) ∧
    store.Overwrites manifest.target
  rotation : ∀ plan, store.ensureUsable = .ok () → store.prepareRotation d = .ok plan →
    (∀ reference ∈ plan.catalog.snapshot.reference, ∀ root ∈ store.manifestSlots.retained,
      ∀ named ∈ root.catalog, reference.slot ≠ named.slot) ∧
    store.Overwrites plan.manifest.target

/-- So does the file of a recovery. -/
def ManifestStore.RecoversFresh (store : ManifestStore) (inventory : RecoveryInventoryState)
    (plan : Option ActiveRecoveryPlan) : Prop :=
  ∀ recovery, store.planRecovery inventory plan = .ok (some recovery) →
    (∀ root ∈ store.manifestSlots.retained, ∀ named ∈ root.recovery,
      recovery.artifact.reference.slot ≠ named.slot) ∧
    store.Overwrites recovery.manifest.target

namespace ManifestStore

variable {store : ManifestStore} {storeId : StoreId} {d : StoreDirectory}

theorem UsableRooted.choosesFresh (h : UsableRooted storeId store d) : store.ChoosesFresh d := by
  refine ⟨?_, ?_, ?_⟩
  · intro pending plan hplan
    obtain ⟨husable, -, cutoff, -, -, hprepared⟩ := planSync_some hplan
    have hpending := prepareSyncedPending_ok hprepared
    have hrooted := h husable
    refine ⟨?_, hrooted.overwrites (hpending.target (hrooted.nextGeneration hpending.generation))⟩
    intro root hroot heq
    exact hpending.unnamed (List.mem_map.mpr ⟨root, hroot, heq.symm⟩)
  · intro α operation output candidate registry manifest hplan
    have hregistry := (planRegistry_publish hplan).1
    have hrooted := h hregistry.usable
    refine ⟨?_, hrooted.overwrites
      (hregistry.target (hrooted.nextGeneration hregistry.generation))⟩
    intro root hroot heq
    exact hregistry.unnamed (List.mem_map.mpr ⟨root, hroot, heq.symm⟩)
  · intro plan husable hplan
    have hrotation := prepareRotation_ok hplan
    have hrooted := h husable
    refine ⟨?_, hrooted.overwrites
      (hrotation.target (hrooted.nextGeneration hrotation.generation))⟩
    intro reference hreference root hroot named hnamed heq
    have hmem := mem_catalogSlots hroot hnamed
    rw [← heq] at hmem
    exact hrotation.unnamed hreference hmem

theorem Rooted.recoversFresh (h : store.Rooted storeId d) (inventory : RecoveryInventoryState)
    (plan : Option ActiveRecoveryPlan) : store.RecoversFresh inventory plan := by
  intro recovery hrecovery
  have hplan := planRecovery_some hrecovery
  obtain ⟨hselected, -⟩ := planRecovery_selected hrecovery
  refine ⟨?_, h.overwrites (hplan.target (h.nextGeneration hplan.generation))⟩
  intro root hroot named hnamed heq
  exact hselected.unnamed (mem_recoverySlots hroot ⟨named, hnamed, heq⟩)

end ManifestStore

/-- No commit of a store destroys its root: the file that it writes goes to a slot that neither
manifest refers to, the manifest goes over the older one, and wherever a method or an open stops,
the root of before or the new one is selected and has every file it refers to, with the length and
the checksum that it gives. -/
theorem publication_never_destroys_root (config : ManifestStoreConfig) :
    (∀ store d, StoreState.Reachable config (.running store d) →
      (store.ensureUsable = .ok () → store.manifestSlots.On config.storeId d ∧
        store.manifestSlots.Selects store.currentSlot store.current) ∧
      store.ChoosesFresh d ∧
      ∀ op : StoreOp, op.Allowed → ∃ before, Intact config.storeId before d ∧
        ∀ done, done <+: (op.run store d).effects →
          Kept config.storeId before (applyAll d done)) ∧
    (∀ d mode before, StoreState.Reachable config (.stopped d) →
      Intact config.storeId before d →
        ∀ done, done <+: (ManifestStore.open { config with mode := mode } d).2 →
          Kept config.storeId before (applyAll d done)) ∧
    ∀ slots slot current intent journal plan d read, slots.On config.storeId d →
      slots.Selects slot current →
      readCommitted config slots slot current intent journal plan d = .ok read →
      current.Held d ∧ read.store.RecoversFresh read.recoveryInventory read.recoveryPlan ∧
        ∀ done,
          done <+: (read.store.convergeRecovery read.recoveryInventory read.recoveryPlan d).2 →
          Kept config.storeId current (applyAll d done) := by
  refine ⟨?_, ?_, ?_⟩
  · intro store d hreachable
    have hkept := hreachable.rootKept
    refine ⟨?_, hkept.2.choosesFresh, ?_⟩
    · intro husable
      exact ⟨(hkept.2 husable).root.on, (hkept.2 husable).root.selects⟩
    · intro op _
      obtain ⟨⟨before, hbefore, hthroughout⟩, -⟩ := hkept.run op
      exact ⟨before, hbefore, throughout_iff.mp hthroughout⟩
  · rintro d mode before - ⟨slots, slot, hbefore⟩
    exact throughout_iff.mp (@RootedAt.open { config with mode := mode } _ _ _ _ hbefore).throughout
  · intro slots slot current intent journal plan d read hon hselects hread
    have hheld := (readCommitted_ok hread).1
    have hrooted : RootedAt config.storeId slots slot current d := ⟨hon, hselects, hheld⟩
    obtain ⟨hstore, hcurrent, hof⟩ := hrooted.read hread
    refine ⟨hheld, hstore.recoversFresh _ _, ?_⟩
    rw [← hcurrent]
    exact throughout_iff.mp (hstore.convergeRecovery hof _).throughout

/-- The first open of an empty directory. -/
def sampleOpened : Except ManifestStoreError ManifestStore × List StoreEffect :=
  ManifestStore.open sampleStoreConfig ∅

def sampleRegister : StoreOp :=
  .register (sampleIdentity 1) sampleBinding sampleDeclarationPayload ⟨sampleTime, none⟩

/-- A new store publishes its first declaration in four steps: two for the snapshot and two for
the manifest. -/
theorem publication_never_destroys_root_sample :
    ∃ store before, StoreState.Reachable sampleStoreConfig
        (.running store (applyAll ∅ sampleOpened.2)) ∧
      (sampleRegister.run store (applyAll ∅ sampleOpened.2)).effects.length = 4 ∧
      Intact (sampleIdentity 1) before (applyAll ∅ sampleOpened.2) ∧
      ∀ done, done <+: (sampleRegister.run store (applyAll ∅ sampleOpened.2)).effects →
        Kept (sampleIdentity 1) before (applyAll (applyAll ∅ sampleOpened.2) done) := by
  have hopens : (sampleOpened.1.toOption.any fun store =>
      decide ((sampleRegister.run store (applyAll ∅ sampleOpened.2)).effects.length = 4)) =
        true := by decide +kernel
  obtain ⟨store, hstore, hfacts⟩ := exists_ok_any hopens
  have hopened : ManifestStore.open { sampleStoreConfig with mode := .createNew } ∅ =
      (.ok store, sampleOpened.2) := by
    have hmode : ({ sampleStoreConfig with mode := .createNew } : ManifestStoreConfig) =
        sampleStoreConfig := rfl
    unfold sampleOpened at hstore ⊢
    rw [hmode, ← hstore]
  have hfresh : StoreState.Reachable sampleStoreConfig (.stopped ∅) :=
    .fresh fun slot => Finmap.lookup_empty _
  have hreachable := StoreState.Reachable.opened hfresh hopened
  obtain ⟨before, hbefore, hkept⟩ := ((publication_never_destroys_root sampleStoreConfig).1 store _
    hreachable).2.2 sampleRegister trivial
  exact ⟨store, before, hreachable, of_decide_eq_true hfacts, hbefore, hkept⟩

end Historian
