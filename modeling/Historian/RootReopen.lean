import Historian.RootCommit

namespace Historian

open Wire Checks Files

/-- The directory denotes the state, or what a recovery has made of it. -/
def RootState.Resumed (state : RootState) (config : ManifestStoreConfig) (d : StoreDirectory) :
    Prop :=
  state.Denoted config d ∨ ∃ next, state.Recovers next ∧ next.Denoted config d

theorem RootState.Resumed.carried {state : RootState} {config : ManifestStoreConfig}
    {d : StoreDirectory} (h : state.Resumed config d) : state.Carried config [] d := by
  rcases h with hsame | ⟨next, hrecovers, hnext⟩
  · exact Or.inl hsame
  · exact Or.inr ⟨next, hrecovers.commits, hnext⟩

namespace RootState.Spelled

variable {config : ManifestStoreConfig} {state : RootState} {d : StoreDirectory}

theorem readRegistry (h : state.Spelled config d) {registry : SeriesRegistry}
    (hread : readReferencedRegistry d state.record.registry config.storeId = .ok registry) :
    registry = state.registry := by
  obtain ⟨bytes, hbytes, hdecoded⟩ := h.registry
  unfold readReferencedRegistry at hread
  simp only [bind_ok, exists_unit, pure_ok] at hread
  obtain ⟨-, found, hfound, -, decoded, hfoundDecoded, -, -, rfl⟩ := hread
  have hsame := decoded_unique (decodeRegistrySnapshotAtSlot · _) hbytes hdecoded
    (readRequiredBounded_ok.mp hfound).1 hfoundDecoded
  exact congrArg DecodedRegistry.registry hsame

theorem readRetry (h : state.Spelled config d) {catalog : GenerationCatalogSnapshot}
    {retry : RetryStateSnapshot}
    (hread : readReferencedRetry d state.record config.storeId config.retry catalog = .ok retry) :
    retry = state.retry := by
  obtain ⟨bytes, hbytes, hdecoded⟩ := h.retry
  unfold readReferencedRetry at hread
  simp only [bind_ok, exists_unit, pure_ok, mapError_ok, Prod.exists] at hread
  obtain ⟨-, found, hfound, -, reference, snapshot, hfoundDecoded, -, rfl⟩ := hread
  have hsame := decoded_unique (decodeRetryStateAtSlot · _ _ _) hbytes hdecoded
    (readRequiredBounded_ok.mp hfound).1 hfoundDecoded
  exact congrArg Prod.snd hsame

theorem readCatalog (h : state.Spelled config d) {catalog : GenerationCatalogSnapshot}
    (hread : readManifestCatalog d state.record config.storeId = .ok catalog) :
    catalog = state.catalog := by
  unfold readManifestCatalog at hread
  split at hread
  next reference hreference =>
    obtain ⟨bytes, hbytes, hdecoded⟩ := h.catalog reference hreference
    unfold readReferencedCatalog at hread
    simp only [bind_ok, exists_unit, mapError_ok, pure_ok] at hread
    obtain ⟨-, found, hfound, -, snapshot, hfoundDecoded, -, -, rfl⟩ := hread
    exact decoded_unique (decodeCatalog · _ _) hbytes hdecoded
      (readRequiredBounded_ok.mp hfound).1 hfoundDecoded
  next hnone =>
    cases hread
    exact (h.empty hnone).symm

end RootState.Spelled

namespace ManifestStore

variable {store : ManifestStore} {config : ManifestStoreConfig} {d : StoreDirectory}
  {P : StoreDirectory → Prop}

/-- A rollback removes nothing that the root refers to. -/
theorem Mirrors.rollback (h : store.Mirrors config d) (intent : RotationIntent)
    (hP : ∀ d', store.Mirrors config d' → P d') :
    Action.Ensures P (rollbackUncommittedRotation config store.manifestSlots store.current intent)
      (fun _ d' => store.Mirrors config d') d := by
  have hfile : ∀ name, store.current.Names name → name.IsRootFile := fun _ hname => hname.rootFile
  obtain ⟨hthroughout, hresult⟩ := h.ensures
    (avoids_checkAbandonedRotation hfile config store.manifestSlots store.current intent) hP
  have hchecked : Action.Ensures P
      (checkAbandonedRotation config store.manifestSlots store.current intent) (fun found d' =>
        store.Mirrors config d' ∧
          candidateSlot store.manifestSlots.catalogSlots .invalidGeneration = .ok found) d := by
    refine ⟨hthroughout, ?_⟩
    intro found hfound
    exact ⟨hresult found hfound, checkAbandonedRotation_slot (Prod.ext hfound rfl)⟩
  unfold rollbackUncommittedRotation
  refine ensures_bind hchecked ?_
  rintro found d' ⟨hmirrors, hslot⟩
  refine hmirrors.ensures (avoids_removeEach ?_) hP
  intro name hname hnamed
  simp only [abandonedFiles, List.mem_cons, List.not_mem_nil, or_false] at hname
  rcases hname with rfl | rfl | rfl | rfl | rfl | rfl | rfl | rfl
  case inr.inr.inl =>
    obtain ⟨reference, hreference, rfl⟩ := hnamed.refers (by simp)
    exact (candidateSlot_ok hslot).2 (mem_catalogSlots hmirrors.root.mem hreference)
  all_goals exact hnamed.rootFile

theorem Faithful.resumed (h : store.Faithful config d) {d' : StoreDirectory}
    (hmirrors : store.Mirrors config d') : store.rootState.Resumed config d' :=
  Or.inl ⟨store, hmirrors, h.linked, rfl⟩

theorem Mirrors.interrupted (h : store.Mirrors config d)
    {interrupted : ManifestRecord × RotationIntent}
    (hread : readInterruptedRotation config store.manifestSlots d = .ok interrupted) :
    interrupted.1 = store.current := by
  unfold readInterruptedRotation at hread
  simp only [bind_ok, exists_unit] at hread
  obtain ⟨_, -, -, -, selected, hselected, hread⟩ := hread
  cases selected with
  | none => cases hread
  | some selected =>
    obtain ⟨slot, record⟩ := selected
    simp only [bind_ok, pure_ok] at hread
    obtain ⟨_, -, rfl, -⟩ := hread
    exact (h.root.selects.unique (selectCurrentManifest_some.mp hselected)).2

theorem Mirrors.convergeRotation (h : store.Mirrors config d) (inventory : Inventory)
    (hP : ∀ d', store.Mirrors config d' → P d') :
    Action.Ensures P (convergeRotation config inventory) (fun converged d' =>
      converged.manifestSlots = store.manifestSlots ∧ store.Mirrors config d') d := by
  unfold Historian.convergeRotation
  refine ensures_look_bind (hP d h) ?_
  intro found hfound
  rw [h.root.on.unique (readManifestSlots_ok.mp hfound)]
  split
  next =>
    refine ensures_look_bind (hP d h) ?_
    rintro ⟨current, intent⟩ hread
    have hcurrent : current = store.current := h.interrupted hread
    rw [hcurrent]
    dsimp only
    split
    next =>
      refine ensures_bind (h.rollback intent hP) ?_
      intro _ d' hmirrors
      refine ensures_look_bind (hP d' hmirrors) ?_
      intro _ _
      refine ensures_look_bind (hP d' hmirrors) ?_
      intro again hagain
      exact ensures_pure (hP d' hmirrors)
        ⟨hmirrors.root.on.unique (readManifestSlots_ok.mp hagain), hmirrors⟩
    next =>
      refine ensures_ensure_bind (hP d h) ?_
      intro _ _
      refine ensures_look_bind (hP d h) ?_
      intro _ _
      exact ensures_pure (hP d h) ⟨rfl, h⟩
  next => exact ensures_pure (hP d h) ⟨rfl, h⟩

/-- What an open reads behind its journal is what the store has in memory. -/
theorem Faithful.read (h : store.Faithful config d) {intent : Option RotationIntent}
    {journal : ActiveJournal} {plan : Option ActiveRecoveryPlan} {read : CommittedRead}
    (hjournal : journal.durableCutoff = store.current.cutoff)
    (hread : readCommitted config store.manifestSlots store.currentSlot store.current intent journal
      plan d = .ok read) :
    read.store.Faithful config d ∧ read.store.rootState = store.rootState ∧
      read.recoveryInventory.Of config.storeId d := by
  obtain ⟨-, hof, -, hslots, hslot, hcurrent, hopened, -⟩ := readCommitted_ok hread
  have hstate : read.store.rootState = store.rootState := by
    unfold readCommitted at hread
    simp only [bind_ok, exists_unit] at hread
    obtain ⟨registry, hregistry, -, catalog, hcatalog, -, _, -, -, _, -, -, -, retry, hretry, -, -,
      hread⟩ := hread
    have hspelled := h.mirrors.spelled
    have hregistries : registry = store.registry := hspelled.readRegistry hregistry
    have hretries : retry = store.retry := hspelled.readRetry hretry
    have hcatalogs : catalog = store.catalog := hspelled.readCatalog hcatalog
    rw [hregistries, hretries, hcatalogs] at hread
    split at hread
    next =>
      simp only [bind_ok, pure_ok] at hread
      obtain ⟨_, -, rfl⟩ := hread
      rfl
    next =>
      simp only [bind_ok, pure_ok] at hread
      obtain ⟨_, _, _, -, rfl⟩ := hread
      rfl
  have hretry : read.store.retry = store.retry := congrArg RootState.retry hstate
  have hcatalog : read.store.catalog = store.catalog := congrArg RootState.catalog hstate
  have hlinked : read.store.Linked := by
    have hvalid := h.linked.valid
    have hlink := h.linked.link
    unfold commit at hvalid hlink
    rw [← hretry, ← hcatalog, ← hcurrent] at hvalid
    rw [← hretry, ← hcurrent] at hlink
    refine ⟨hvalid, hlink, ?_, ?_⟩
    · rw [hopened, hcurrent]
      exact hjournal
    · rw [hslots, hcurrent]
      exact h.linked.kept
  exact ⟨⟨h.mirrors.congr hslots hslot hstate, hlinked⟩, hstate, hof⟩

section Recovery

variable {inventory : RecoveryInventoryState} {plan : Option ActiveRecoveryPlan}
  {recovery : RecoveryCommit}

theorem RecoveryCommitPlan.rootState (hplan : RecoveryCommitPlan store recovery) :
    (store.recovered recovery).rootState = ⟨{ store.current with
      generation := recovery.manifest.record.generation
      recovery := some recovery.artifact.reference }, store.registry, store.retry,
      store.catalog⟩ := by
  change RootState.mk recovery.manifest.record _ _ _ = _
  rw [hplan.record]
  rfl

theorem RecoveryCommitPlan.recovers (hplan : RecoveryCommitPlan store recovery) :
    store.rootState.Recovers (store.recovered recovery).rootState :=
  ⟨_, _, hplan.generation, hplan.rootState⟩

theorem avoids_placeRecovery {S : Artifact → Prop} (hstaging : ¬S .recoveryStaging)
    (htarget : ¬S (.recovery recovery.artifact.reference.slot)) :
    (store.placeRecovery recovery).Avoids S := by
  unfold placeRecovery
  cases recovery.source with
  | slot => exact avoids_pure _
  | report bytes =>
    unfold publishPreparedRecoveryReport
    exact avoids_publishReusableSlot hstaging htarget
  | staging =>
    unfold convergeRecoveryStaging
    refine avoids_bind (avoids_look _) fun _ => avoids_bind (avoids_ensure _) fun _ => ?_
    exact avoids_bind (avoids_ensure _) fun _ => avoids_rename hstaging htarget

theorem avoids_cutSuffix {S : Artifact → Prop} (hS : ∀ name, S name → name.IsRootFile) :
    (store.cutSuffix plan).Avoids S := by
  unfold cutSuffix
  cases plan with
  | none => exact avoids_mapError (avoids_synchronizeRecoveryCutoff _ _)
  | some plan => exact avoids_mapError (avoids_applyRecovery hS _ _)

/-- The manifest that an interrupted recovery staged is put into its slot. -/
theorem Mirrors.convergeManifestStaging {next : ManifestStore} {record : ManifestRecord}
    (h : store.Mirrors config d) (hturns : store.Turns next) (hrecord : record = next.current)
    (hprogress : RootProgresses store.current next.current)
    (hspelled : next.rootState.Spelled config d) (hheld : next.current.Held d)
    (hvalid : record.Valid config.storeId)
    (hP : ∀ d', store.Mirrors config d' → P d') (hdone : ∀ d', next.Mirrors config d' → P d') :
    Action.Ensures P (convergeManifestStaging (1 - store.currentSlot) record)
      (fun slot d' => slot = 1 - store.currentSlot ∧ next.Mirrors config d') d := by
  rw [hrecord] at hvalid ⊢
  unfold Historian.convergeManifestStaging
  refine ensures_look_bind (hP d h) ?_
  intro bytes hbytes
  refine ensures_ensure_bind (hP d h) ?_
  intro _ hsame
  rw [refuse_ok, not_not] at hsame
  have hlookup := (readRequiredBounded_ok.mp hbytes).1
  -- the staged file is as it would be behind the writing of the staging file
  have hnext : ∀ name, (Effect.apply d (.rename .manifestStaging
      (.manifest (1 - store.currentSlot)))).lookup name = (published d .manifestStaging
        (.manifest (1 - store.currentSlot)) (encodeManifest next.current)).lookup name := by
    intro name
    rw [lookup_rename hlookup, lookup_published, hsame]
  have hpublished : RootedAt config.storeId
      (store.manifestSlots.set (1 - store.currentSlot) next.current) (1 - store.currentSlot)
      next.current (published d .manifestStaging (.manifest (1 - store.currentSlot))
        (encodeManifest next.current)) :=
    ⟨h.root.on.publish hvalid _, h.root.selects.publish hprogress, hheld.published _ _⟩
  have hmirrors : next.Mirrors config (Effect.apply d (.rename .manifestStaging
      (.manifest (1 - store.currentSlot)))) := by
    refine ⟨?_, hspelled.same ?_⟩
    · rw [hturns.slots, hturns.slot]
      exact hpublished.same fun name _ => hnext name
    · intro name hname
      apply lookup_untouched
      rintro (rfl | rfl)
      · exact hname
      · exact hname
  refine ensures_emit_bind (hP d h) ?_
  exact ensures_pure (hdone _ hmirrors) ⟨rfl, hmirrors⟩

/-- The recovery file is where the next root will look for it. -/
def Placed (store : ManifestStore) (config : ManifestStoreConfig) (recovery : RecoveryCommit)
    (d : StoreDirectory) : Prop :=
  store.Mirrors config d ∧ Described d (.recovery recovery.artifact.reference.slot)
    recoveryStateLen recovery.artifact.reference.checksum

theorem Mirrors.placeRecovery (h : store.Mirrors config d) (hof : inventory.Of config.storeId d)
    (hselected : SelectedRecovery store inventory recovery.artifact recovery.source)
    (hP : ∀ d', store.Mirrors config d' → P d') :
    Action.Ensures P (store.placeRecovery recovery)
      (fun _ d' => store.Placed config recovery d') d := by
  have hunnamed : ¬store.current.Names (.recovery recovery.artifact.reference.slot) := by
    intro hnamed
    exact hselected.unnamed (mem_recoverySlots h.root.mem (hnamed.refers (by simp)))
  have havoids : (store.placeRecovery recovery).Avoids store.current.Names :=
    avoids_placeRecovery (fun hnamed => hnamed.rootFile) hunnamed
  refine ((h.ensures havoids hP).and (h.rooted.placeRecovery hof hselected)).weaken
    (fun _ hd' => hd'.1) ?_
  rintro _ d' ⟨hmirrors, -, hdescribed⟩
  exact ⟨hmirrors, hdescribed⟩

theorem Placed.cutSuffix (h : store.Placed config recovery d)
    (hP : ∀ d', store.Mirrors config d' → P d') :
    Action.Ensures P (store.cutSuffix plan) (fun _ d' => store.Placed config recovery d') d := by
  obtain ⟨hmirrors, hdescribed⟩ := h
  have havoids : (store.cutSuffix plan).Avoids Artifact.IsRootFile :=
    avoids_cutSuffix fun _ hname => hname
  have hsame : ∀ d' : StoreDirectory, (∀ name, Artifact.IsRootFile name →
      d'.lookup name = d.lookup name) → store.Mirrors config d' := fun d' hnames =>
    hmirrors.same fun name hname => hnames name hname.rootFile
  refine (havoids.ensures fun d' hnames => hP d' (hsame d' hnames)).mono ?_
  intro _ d' hnames
  exact ⟨hsame d' hnames, hdescribed.same (hnames _ trivial)⟩

theorem Placed.publishRecoveryRoot (h : store.Placed config recovery d)
    (hplan : RecoveryCommitPlan store recovery)
    (hprogress : RootProgresses store.current recovery.manifest.record)
    (hvalid : inventory.manifestStaging ≠ none → recovery.manifest.record.Valid config.storeId)
    (hP : ∀ d', store.Mirrors config d' → P d')
    (hdone : ∀ d', (store.recovered recovery).Mirrors config d' → P d') :
    Action.Ensures P (store.publishRecoveryRoot inventory recovery) (fun slot d' =>
      slot = 1 - store.currentSlot ∧ (store.recovered recovery).Mirrors config d') d := by
  obtain ⟨hmirrors, hdescribed⟩ := h
  have hturns : store.Turns (store.recovered recovery) := ⟨rfl, rfl⟩
  have hrecord : recovery.manifest.record = (store.recovered recovery).current := rfl
  have hsame := hmirrors.spelled
  have hspelled : (store.recovered recovery).rootState.Spelled config d := by
    rw [hplan.rootState]
    exact ⟨hsame.registry, hsame.retry, hsame.catalog, hsame.empty, hsame.reference⟩
  have hheld : (store.recovered recovery).current.Held d := by
    refine hspelled.held ?_
    change ∀ reference ∈ recovery.manifest.record.recovery, _
    rw [hplan.record]
    intro found hfound
    rw [Option.mem_some_iff] at hfound
    rw [← hfound]
    exact hdescribed
  unfold ManifestStore.publishRecoveryRoot
  split
  next hmanifest =>
    exact hmirrors.convergeManifestStaging hturns hrecord hprogress hspelled hheld
      (hvalid hmanifest) hP hdone
  next =>
    exact hmirrors.publishManifest hturns hrecord hprogress hspelled hheld hplan.bytes
      (hplan.target (hmirrors.rooted.nextGeneration hplan.generation)) hP hdone

theorem Mirrors.adoptRecovery (h : (store.recovered recovery).Mirrors config d)
    (hdone : ∀ d', (store.recovered recovery).Mirrors config d' → P d') :
    Action.Ensures P (store.adoptRecovery recovery (1 - store.currentSlot)) (fun next d' =>
      next = store.recovered recovery ∧ (store.recovered recovery).Mirrors config d') d := by
  unfold ManifestStore.adoptRecovery
  refine h.removeUnreferenced _ hdone ?_
  intro d' hmirrors
  exact ensures_pure (hdone d' hmirrors) ⟨rfl, hmirrors⟩

/-- A recovery commits the root that its plan has made, and nothing else. -/
theorem Faithful.commitRecovery (h : store.Faithful config d)
    (hof : inventory.Of config.storeId d)
    (hrecovery : store.planRecovery inventory plan = .ok (some recovery)) :
    Action.Ensures (store.rootState.Resumed config)
      (store.commitRecovery inventory plan recovery) (fun next d' => next.Faithful config d' ∧
        store.rootState.Recovers next.rootState) d := by
  have hplan := planRecovery_some hrecovery
  obtain ⟨hselected, hstaged⟩ := planRecovery_selected hrecovery
  have hprogress := hplan.progresses hselected h.mirrors.rooted
  have hlinked : (store.recovered recovery).Linked := by
    have hnext := h.linked.recovery hplan
    rw [hplan.target (h.mirrors.rooted.nextGeneration hplan.generation)] at hnext
    exact hnext
  have hP : ∀ d', store.Mirrors config d' → store.rootState.Resumed config d' :=
    fun d' => h.resumed
  have hdone : ∀ d', (store.recovered recovery).Mirrors config d' →
      store.rootState.Resumed config d' := fun d' hmirrors =>
    Or.inr ⟨_, hplan.recovers, _, hmirrors, hlinked, rfl⟩
  have hvalid : inventory.manifestStaging ≠ none →
      recovery.manifest.record.Valid config.storeId := by
    intro hmanifest
    obtain ⟨staged, hstaging⟩ := Option.ne_none_iff_exists'.mp hmanifest
    rw [← hstaged staged hstaging]
    exact hof.staged staged hstaging
  rw [commitRecovery_eq]
  refine ensures_bind (h.mirrors.placeRecovery hof hselected hP) ?_
  intro _ d' hplaced
  refine ensures_bind (hplaced.cutSuffix hP) ?_
  intro _ d' hcut
  refine ensures_bind (hcut.publishRecoveryRoot hplan hprogress hvalid hP hdone) ?_
  rintro slot d' ⟨rfl, hmirrors⟩
  refine (hmirrors.adoptRecovery hdone).mono ?_
  rintro next d' ⟨rfl, hnext⟩
  exact ⟨⟨hnext, hlinked⟩, hplan.recovers⟩

end Recovery

/-- What an open goes on with: the state of before, or the one behind the recovery. -/
structure Reopens (store next : ManifestStore) (config : ManifestStoreConfig)
    (d : StoreDirectory) : Prop where
  faithful : next.Faithful config d
  state : next.rootState = store.rootState ∨ store.rootState.Recovers next.rootState

theorem Reopens.resumed {next : ManifestStore} (h : store.Reopens next config d) :
    store.rootState.Resumed config d := by
  have hdenoted := h.faithful.denoted
  rcases h.state with hsame | hrecovers
  · rw [hsame] at hdenoted
    exact Or.inl hdenoted
  · exact Or.inr ⟨_, hrecovers, hdenoted⟩

theorem Faithful.convergeRecovery (h : store.Faithful config d)
    {inventory : RecoveryInventoryState} (hof : inventory.Of config.storeId d)
    (plan : Option ActiveRecoveryPlan) :
    Action.Ensures (store.rootState.Resumed config) (store.convergeRecovery inventory plan)
      (fun next d' => store.Reopens next config d') d := by
  have hP : ∀ d', store.Mirrors config d' → store.rootState.Resumed config d' :=
    fun d' => h.resumed
  unfold ManifestStore.convergeRecovery
  refine ensures_ensure_bind (hP d h.mirrors) ?_
  intro recovery hrecovery
  cases recovery with
  | none =>
    refine ensures_bind (h.mirrors.ensures
      (avoids_removeUnreferencedRecoverySlots h.mirrors.root.mem _) hP) ?_
    intro _ d' hmirrors
    exact ensures_pure (hP d' hmirrors) ⟨⟨hmirrors, h.linked⟩, Or.inl rfl⟩
  | some recovery =>
    refine (h.commitRecovery hof hrecovery).mono ?_
    rintro next d' ⟨hnext, hrecovers⟩
    exact ⟨hnext, Or.inr hrecovers⟩

theorem Faithful.openCommitted (h : store.Faithful config d) (intent : Option RotationIntent) :
    Action.Ensures (store.rootState.Resumed config)
      (openCommitted config store.manifestSlots store.currentSlot store.current intent)
      (fun next d' => store.Reopens next config d') d := by
  have hfile : ∀ name, store.current.Names name → name.IsRootFile := fun _ hname => hname.rootFile
  have hP : ∀ d', store.Mirrors config d' → store.rootState.Resumed config d' :=
    fun d' => h.resumed
  unfold Historian.openCommitted
  refine ensures_ensure_bind (hP d h.mirrors) ?_
  intro activeConfig _
  refine ensures_bind ((h.mirrors.ensures
    (avoids_mapError (avoids_openManifestRoot hfile activeConfig _)) hP).yields
    (yields_mapError (yields_openManifestRoot activeConfig _))) ?_
  rintro ⟨journal, plan⟩ d' ⟨hmirrors, hcutoff, -⟩
  refine ensures_look_bind (hP d' hmirrors) ?_
  intro read hread
  have hstore : store.Faithful config d' := ⟨hmirrors, h.linked⟩
  obtain ⟨hfaithful, hstate, hof⟩ := hstore.read hcutoff hread
  have hnext := hfaithful.convergeRecovery hof read.recoveryPlan
  rw [hstate] at hnext
  refine hnext.mono ?_
  intro next d' hreopens
  have hsame := hreopens.state
  rw [hstate] at hsame
  exact ⟨hreopens.faithful, hsame⟩

/-- Every stop of an open leaves the state that the directory denotes, or the one behind its
recovery; a store that is opened has this state in memory. -/
theorem Faithful.open (h : store.Faithful config d) :
    Action.Ensures (store.rootState.Resumed config) (ManifestStore.open config)
      (fun next d' => store.Reopens next config d') d := by
  have hfile : ∀ name, store.current.Names name → name.IsRootFile := fun _ hname => hname.rootFile
  have hP : ∀ d', store.Mirrors config d' → store.rootState.Resumed config d' :=
    fun d' => h.resumed
  unfold ManifestStore.open
  refine ensures_bind (h.mirrors.ensures (avoids_openFormat hfile config) hP) ?_
  intro inventory d' hmirrors
  refine ensures_bind (hmirrors.convergeRotation inventory hP) ?_
  rintro converged d' ⟨hslots, hmirrors⟩
  unfold openRoot
  rw [hslots]
  refine ensures_ensure_bind (hP d' hmirrors) ?_
  intro selected hselected
  have hroot := selectCurrentManifest_some.mpr hmirrors.root.selects
  rw [hselected, Except.ok.injEq] at hroot
  rw [hroot]
  refine ensures_ensure_bind (hP d' hmirrors) ?_
  intro _ _
  have hstore : store.Faithful config d' := ⟨hmirrors, h.linked⟩
  refine ensures_bind (hstore.openCommitted converged.committedIntent) ?_
  intro next d' hnext
  have hreopens : ∀ d', next.Mirrors config d' → store.Reopens next config d' :=
    fun d' hmirrors => ⟨⟨hmirrors, hnext.faithful.linked⟩, hnext.state⟩
  refine ensures_bind (hnext.faithful.mirrors.ensures
    (avoids_finishOpen hnext.faithful.mirrors.root.mem converged.committedIntent)
    fun d' hmirrors => (hreopens d' hmirrors).resumed) ?_
  intro _ d' hmirrors
  exact ensures_pure (hreopens d' hmirrors).resumed (hreopens d' hmirrors)

end ManifestStore

/-- A file that is read back as the registry of a new store. -/
def FirstRegistry (config : ManifestStoreConfig) (reference : RegistryReference)
    (d : StoreDirectory) : Prop :=
  reference.generation = 1 ∧ ∃ bytes, d.lookup (.registry reference.slot) = some bytes ∧
    decodeRegistrySnapshotAtSlot bytes reference.slot =
      .ok ⟨reference, .new config.storeId config.registry.limits⟩

/-- A directory without a root, or one that denotes the first root of a store. -/
def Begins (config : ManifestStoreConfig) (d : StoreDirectory) : Prop :=
  Unmanifested d ∨ ∃ state : RootState, state.First config ∧ state.Denoted config d

section Genesis

variable {config : ManifestStoreConfig} {store : ManifestStore} {d : StoreDirectory}

theorem FirstRegistry.same {reference : RegistryReference} {d' : StoreDirectory}
    (h : FirstRegistry config reference d)
    (hsame : d'.lookup (.registry reference.slot) = d.lookup (.registry reference.slot)) :
    FirstRegistry config reference d' := by
  obtain ⟨hone, bytes, hbytes, hdecoded⟩ := h
  exact ⟨hone, bytes, hsame.trans hbytes, hdecoded⟩

/-- Only one registry has the snapshot of a new store. -/
theorem decodedRegistry_new {bytes : Bytes} {slot : UInt8} {decoded : DecodedRegistry}
    (hdecoded : decodeRegistrySnapshotAtSlot bytes slot = .ok decoded)
    (hsnapshot : decoded.registry.snapshot =
      (SeriesRegistry.new config.storeId config.registry.limits).snapshot) :
    decoded.registry = .new config.storeId config.registry.limits := by
  have hreachable := (decodeRegistrySnapshotAtSlot_sound hdecoded).2.2.2.2.2.1
  exact hreachable.eq_of_snapshot (SeriesRegistry.Reachable.new _ _) hsnapshot

theorem readInterruptedGenesisRegistry_new {found : Option RegistryReference}
    {slots : List UInt8} {reference : RegistryReference}
    (hfound : ∀ prior ∈ found, FirstRegistry config prior d)
    (h : readInterruptedGenesisRegistry d
      (SeriesRegistry.new config.storeId config.registry.limits).snapshot found slots =
        .ok reference) : FirstRegistry config reference d := by
  induction slots generalizing found with
  | nil =>
    cases found with
    | none => cases h
    | some prior =>
      cases h
      exact hfound _ rfl
  | cons slot rest ih =>
    rw [readInterruptedGenesisRegistry, bind_ok] at h
    obtain ⟨bytes, hbytes, h⟩ := h
    cases bytes with
    | none => exact ih hfound h
    | some bytes =>
      simp only [bind_ok, exists_unit, refuse_ok, not_or, not_not] at h
      obtain ⟨-, decoded, hdecoded, ⟨hslot, hone, hsnapshot⟩, h⟩ := h
      refine ih ?_ h
      intro prior hprior
      cases hprior
      obtain ⟨reference, registry⟩ := decoded
      have hnew : registry = _ := decodedRegistry_new hdecoded hsnapshot
      dsimp only at hslot hone
      rw [hnew, ← hslot] at hdecoded
      rw [← hslot] at hbytes
      exact ⟨hone, bytes, (readOptionalBounded_some.mp hbytes).1, hdecoded⟩

/-- The first registry file is there before there is a root. -/
theorem Unmanifested.firstRegistry (h : Unmanifested d) (inventory : Inventory)
    (hregistry : store.registry = .new config.storeId config.registry.limits) :
    Action.Ensures (Begins config) (Historian.genesisRegistry store inventory)
      (fun reference d' => Unmanifested d' ∧ FirstRegistry config reference d') d := by
  have hbegins : Begins config d := Or.inl h
  unfold Historian.genesisRegistry
  rw [hregistry]
  split
  next =>
    unfold publishGenesisRegistry
    rw [hregistry]
    refine ensures_ensure_bind hbegins ?_
    intro prepared hprepared
    obtain ⟨hone, -⟩ := ManifestStore.prepareRegistrySnapshot_ok hprepared
    have hstaged : Unmanifested (Effect.apply d (.put .registryStaging prepared.bytes)) :=
      h.put prepared.bytes (by simp)
    have hdone : Unmanifested (published d .registryStaging (.registry prepared.reference.slot)
        prepared.bytes) := h.publish prepared.bytes (by simp) (by simp)
    unfold ManifestStore.publishPreparedRegistrySnapshot
    refine ensures_bind (ensures_publishReusableSlot hbegins (Or.inl hstaged)
      (fun _ _ => Or.inl hdone) (Q := fun _ d' => Unmanifested d' ∧
        FirstRegistry config prepared.reference d') ?_) ?_
    · intro _ hverify
      simp only [bind_ok, refuse_ok, not_or, not_not] at hverify
      obtain ⟨⟨reference, registry⟩, hdecoded, hreference, hsnapshot⟩ := hverify
      have hnew : registry = _ := decodedRegistry_new hdecoded hsnapshot
      dsimp only at hreference
      rw [hreference, hnew] at hdecoded
      exact ⟨hdone, hone, prepared.bytes, by rw [lookup_published, if_pos rfl], hdecoded⟩
    · intro _ d' hfirst
      exact ensures_pure (Or.inl hfirst.1) hfirst
  next =>
    refine ensures_look hbegins ?_
    intro reference hreference
    exact ⟨h, readInterruptedGenesisRegistry_new (by simp) hreference⟩

/-- A retry state under a root without outcomes has none itself. -/
theorem ValidRoot.unwritten {snapshot : RetryStateSnapshot} {root : ManifestCommit}
    {catalog : Option GenerationCatalogSnapshot} (h : ValidRoot snapshot root catalog)
    (hzero : root.durableCutoff.appendSequence = 0) :
    snapshot.replay = [] ∧ snapshot.guard = [] ∧ root.retryState.generation.val = 1 := by
  have hempty : snapshot.replay = [] := by
    by_contra hne
    have hnewest := List.getLast?_eq_some_getLast hne
    have hsequence := (h.newest _ hnewest).2.1
    obtain ⟨-, -, hpositive⟩ := validateState_bounds h.state
    have hlt := hpositive (snapshot.replay.getLast hne).appendSequence.val
      (List.mem_append_right _ (List.mem_map_of_mem (List.getLast_mem hne)))
    rw [hsequence, hzero] at hlt
    exact absurd hlt (Nat.lt_irrefl 0)
  exact ⟨hempty, h.empty hempty⟩

namespace ManifestStore

/-- The first root is linked to the empty retry state. -/
theorem linked_first (hfirst : store.rootState.First config)
    (hvalid : ValidRoot store.retry store.commit (some store.catalog))
    (hslot : store.current.registry.slot < 3)
    (hjournal : store.journal.durableCutoff = store.current.cutoff)
    (hkept : store.current ∈ store.manifestSlots.retained) : store.Linked := by
  have hcutoff : store.commit.durableCutoff = genesisPlaceholder config.storeId := hfirst.cutoff
  have hzero : store.commit.durableCutoff.appendSequence = 0 := by
    rw [hcutoff]
    rfl
  obtain ⟨hempty, -, hone⟩ := hvalid.unwritten hzero
  have hgeneration : store.commit.manifestGeneration = 1 := hfirst.generation
  have hregistry : store.commit.registryGeneration = 1 := hfirst.registryGeneration
  refine ⟨hvalid, ⟨?_, hslot, ?_, ?_, ?_, ?_, ?_, ?_, ?_⟩, hjournal, hkept⟩
  · rw [hregistry]
    decide
  · rw [hcutoff]
    change (1 : U64) ≠ 0
    decide
  · rw [hregistry, hgeneration]
  · rw [hgeneration, Fin.le_def]
    exact Nat.le_of_eq hone
  · rw [hcutoff]
    exact Nat.le_refl journalV1HeaderLen
  · simp [hempty]
  · simp [hempty]
  · intro outcome houtcome
    rw [hempty] at houtcome
    cases houtcome

end ManifestStore

theorem readReferencedRetry_spelled {owningManifest : ManifestRecord} {storeId : StoreId}
    {options : RetryPersistenceOptions} {catalog : GenerationCatalogSnapshot}
    {snapshot : RetryStateSnapshot}
    (h : readReferencedRetry d owningManifest storeId options catalog = .ok snapshot) :
    ∃ bytes, d.lookup (.retry owningManifest.retry.state.slot) = some bytes ∧
      decodeRetryStateAtSlot bytes owningManifest.retry.state.slot storeId options =
        .ok (owningManifest.retry, snapshot) := by
  unfold readReferencedRetry at h
  simp only [bind_ok, exists_unit, refuse_ok, mapError_ok, pure_ok, not_or, not_not,
    Prod.exists] at h
  obtain ⟨-, bytes, hbytes, -, reference, decoded, hdecoded, ⟨hsame, -⟩, rfl⟩ := h
  rw [hsame] at hdecoded
  exact ⟨bytes, (readRequiredBounded_ok.mp hbytes).1, hdecoded⟩

/-- The first manifest is published when all files of the first root are there. -/
theorem Unmanifested.publishFirst {first : ManifestStore} {prepared : PreparedManifestPublication}
    (h : Unmanifested d) (hstore : store.storeId = config.storeId)
    (hrecord : prepared.record = first.current)
    (hslots : first.manifestSlots =
      (⟨none, none⟩ : ManifestSlots).set prepared.target first.current)
    (hslot : first.currentSlot = prepared.target)
    (hbytes : prepared.bytes = encodeManifest prepared.record)
    (hspelled : first.rootState.Spelled config d) (hlinked : first.Linked)
    (hfirst : first.rootState.First config) :
    Action.Ensures (Begins config) (store.publishPreparedManifest prepared)
      (fun slot d' => slot = prepared.target ∧ first.Faithful config d') d := by
  have hheld : prepared.record.Held d := by
    rw [hrecord]
    refine hspelled.held ?_
    rw [hfirst.recovery]
    exact fun _ hnone => nomatch hnone
  have hone : prepared.record.generation = 1 := by
    rw [hrecord]
    exact hfirst.generation
  have hstaged : Unmanifested (Effect.apply d (.put .manifestStaging prepared.bytes)) :=
    h.put prepared.bytes (by simp)
  have hensures := ManifestStore.ensures_publishPreparedManifest (P := fun d' =>
      Unmanifested d' ∨ RootedAt config.storeId first.manifestSlots first.currentSlot
        first.current d') hstore (h.on config.storeId)
    (selects_first hone prepared.target) hheld hbytes (Or.inl h) (Or.inl hstaged) (by
      intro d' hrooted
      rw [hrecord, ← hslots, ← hslot] at hrooted
      exact Or.inr hrooted)
  have havoids : (store.publishPreparedManifest prepared).Avoids first.current.Refers :=
    avoids_bind (avoids_publishReusableSlot id id) fun _ => avoids_pure _
  have hfaithful : ∀ d', RootedAt config.storeId first.manifestSlots first.currentSlot
      first.current d' → (∀ name, first.current.Refers name → d'.lookup name = d.lookup name) →
      first.Faithful config d' :=
    fun d' hrooted hsame => ⟨⟨hrooted, hspelled.same hsame⟩, hlinked⟩
  refine (hensures.frame havoids).weaken ?_ ?_
  · intro d' hd'
    obtain ⟨hrooted, hsame⟩ := hd'
    rcases hrooted with hnone | hrooted
    · exact Or.inl hnone
    · exact Or.inr ⟨_, hfirst, (hfaithful d' hrooted hsame).denoted⟩
  · intro slot d' hd'
    obtain ⟨⟨hslot', hrooted⟩, hsame⟩ := hd'
    rw [hrecord, ← hslots, ← hslot] at hrooted
    exact ⟨hslot', hfaithful d' hrooted hsame⟩

/-- A new store begins with the first root, and with an empty registry, retry state and catalog. -/
theorem Unmanifested.beginGenesis (h : Unmanifested d) (inventory : Inventory) :
    Action.Ensures (Begins config) (Historian.initializeGenesis config inventory ⟨none, none⟩)
      (fun first d' => first.Faithful config d' ∧ first.rootState.First config) d := by
  have hbegins : ∀ d', Unmanifested d' → Begins config d' := fun _ hnone => Or.inl hnone
  unfold Historian.initializeGenesis
  refine ensures_ensure_bind (Or.inl h) ?_
  intro _ _
  refine ensures_bind
    (h.ensures (avoids_openGenesisJournal manifest_isRootFile inventory) hbegins) ?_
  rintro journal d' ⟨h, -⟩
  refine ensures_ensure_bind (Or.inl h) ?_
  intro _ hjournal
  rw [refuse_ok, not_or, not_not, not_not] at hjournal
  refine ensures_bind (h.firstRegistry inventory rfl) ?_
  rintro registryReference d' ⟨h, hregistry⟩
  refine ensures_bind (h.ensures (S := fun name => name = .registry registryReference.slot)
    (avoids_genesisRetry ?_ ?_ inventory) hbegins) ?_
  · simp
  · simp
  rintro retryReference d' ⟨h, hsame⟩
  have hregistry := hregistry.same (hsame _ rfl)
  refine ensures_look_bind (Or.inl h) ?_
  intro retry hretry
  refine ensures_ensure_bind (Or.inl h) ?_
  intro prepared hprepared
  obtain ⟨hrecord, hbytes, -⟩ := ManifestStore.prepareManifest_ok hprepared
  have hvalid := ManifestStore.readReferencedRetry_valid hretry
  have hunwritten := hvalid.unwritten (by
    change journal.durableCutoff.appendSequence = 0
    rw [hjournal.2]
    rfl)
  let first : ManifestStore :=
    ⟨journal, .new config.storeId config.registry.limits, retry, .empty config.storeId, none,
      (⟨none, none⟩ : ManifestSlots).set prepared.target ⟨1, registryReference,
        journal.durableCutoff, retryReference, none, 0, none⟩, prepared.target,
      ⟨1, registryReference, journal.durableCutoff, retryReference, none, 0, none⟩, .writable⟩
  have hfirst : first.rootState.First config :=
    ⟨rfl, hregistry.1, hjournal.2, rfl, rfl, rfl, rfl, hunwritten.1, hunwritten.2.1, rfl⟩
  have hspelled : first.rootState.Spelled config d' :=
    ⟨hregistry.2, readReferencedRetry_spelled hretry, (fun _ hnone => nomatch hnone),
      (fun _ => rfl), rfl⟩
  obtain ⟨bytes, -, hdecoded⟩ := hregistry.2
  have hkept : first.current ∈ first.manifestSlots.retained := by
    rw [ManifestSlots.mem_retained]
    refine ⟨prepared.target, ?_⟩
    rw [ManifestSlots.get_set, if_pos rfl]
  have hlinked : first.Linked := ManifestStore.linked_first hfirst hvalid
    (decodeRegistrySnapshotAtSlot_sound hdecoded).1 rfl hkept
  refine ensures_bind (h.publishFirst rfl hrecord rfl rfl (by rw [hbytes, hrecord]) hspelled
    hlinked hfirst) ?_
  rintro slot d' ⟨rfl, hfaithful⟩
  exact ensures_pure (Or.inr ⟨_, hfirst, hfaithful.denoted⟩) ⟨hfaithful, hfirst⟩

/-- An open of a directory without a root ends with the first root of a new store. -/
theorem Unmanifested.begin (h : Unmanifested d) : Action.Ensures (Begins config)
    (ManifestStore.open config)
    (fun first d' => first.Faithful config d' ∧ first.rootState.First config) d :=
  h.ensures_open (fun _ hnone => Or.inl hnone) fun inventory _ hnone =>
    hnone.beginGenesis inventory

end Genesis

end Historian
