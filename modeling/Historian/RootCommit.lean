import Historian.RootRun
import Historian.RootState
import Historian.StoreAtRoot

namespace Historian

open Wire Checks Files

/-- What is read out of one file under one name is one value. -/
theorem decoded_unique {ε α : Type} {d : StoreDirectory} {name : Artifact} {bytes bytes' : Bytes}
    {value value' : α} (decode : Bytes → Except ε α) (hbytes : d.lookup name = some bytes)
    (hdecoded : decode bytes = .ok value) (hbytes' : d.lookup name = some bytes')
    (hdecoded' : decode bytes' = .ok value') : value' = value := by
  rw [hbytes, Option.some.injEq] at hbytes'
  rw [← hbytes', hdecoded, Except.ok.injEq] at hdecoded'
  exact hdecoded'.symm

/-- The files of the root hold the registry, the retry state and the catalog of the state. -/
structure RootState.Spelled (state : RootState) (config : ManifestStoreConfig)
    (d : StoreDirectory) : Prop where
  registry : ∃ bytes, d.lookup (.registry state.record.registry.slot) = some bytes ∧
    decodeRegistrySnapshotAtSlot bytes state.record.registry.slot =
      .ok ⟨state.record.registry, state.registry⟩
  retry : ∃ bytes, d.lookup (.retry state.record.retry.state.slot) = some bytes ∧
    decodeRetryStateAtSlot bytes state.record.retry.state.slot config.storeId config.retry =
      .ok (state.record.retry, state.retry)
  catalog : ∀ reference ∈ state.record.catalog, ∃ bytes,
    d.lookup (.catalog reference.slot) = some bytes ∧
      decodeCatalog bytes reference.slot config.storeId = .ok state.catalog
  empty : state.record.catalog = none → state.catalog = .empty config.storeId
  reference : state.catalog.reference = state.record.catalog

namespace RootState.Spelled

variable {config : ManifestStoreConfig} {state other : RootState} {d d' : StoreDirectory}

theorem same (h : state.Spelled config d)
    (hsame : ∀ name, state.record.Refers name → d'.lookup name = d.lookup name) :
    state.Spelled config d' := by
  obtain ⟨registry, hregistry, hdecodedRegistry⟩ := h.registry
  obtain ⟨retry, hretry, hdecodedRetry⟩ := h.retry
  refine ⟨⟨registry, (hsame (.registry _) rfl).trans hregistry, hdecodedRegistry⟩,
    ⟨retry, (hsame (.retry _) rfl).trans hretry, hdecodedRetry⟩, ?_, h.empty, h.reference⟩
  intro reference hreference
  obtain ⟨catalog, hcatalog, hdecoded⟩ := h.catalog reference hreference
  exact ⟨catalog, (hsame (.catalog _) ⟨reference, hreference, rfl⟩).trans hcatalog, hdecoded⟩

/-- Of the configuration only the store and the capacities of the retry state count. -/
theorem ofConfig {config' : ManifestStoreConfig} (h : state.Spelled config d)
    (hstore : config'.storeId = config.storeId) (hretry : config'.retry = config.retry) :
    state.Spelled config' d := by
  refine ⟨h.registry, ?_, ?_, ?_, h.reference⟩
  · rw [hstore, hretry]
    exact h.retry
  · rw [hstore]
    exact h.catalog
  · rw [hstore]
    exact h.empty

/-- A directory spells out one state only under a root. -/
theorem unique (h : state.Spelled config d) (hother : other.Spelled config d)
    (hrecord : other.record = state.record) : other = state := by
  obtain ⟨record, registry, retry, catalog⟩ := state
  obtain ⟨_, registry', retry', catalog'⟩ := other
  dsimp only at hrecord
  subst hrecord
  have hregistries : registry' = registry := by
    obtain ⟨bytes, hbytes, hdecoded⟩ := h.registry
    obtain ⟨bytes', hbytes', hdecoded'⟩ := hother.registry
    have hsame :=
      decoded_unique (decodeRegistrySnapshotAtSlot · _) hbytes hdecoded hbytes' hdecoded'
    exact congrArg DecodedRegistry.registry hsame
  have hretries : retry' = retry := by
    obtain ⟨bytes, hbytes, hdecoded⟩ := h.retry
    obtain ⟨bytes', hbytes', hdecoded'⟩ := hother.retry
    have hsame :=
      decoded_unique (decodeRetryStateAtSlot · _ _ _) hbytes hdecoded hbytes' hdecoded'
    exact congrArg Prod.snd hsame
  have hcatalogs : catalog' = catalog := by
    cases hreference : (RootState.mk _ registry retry catalog).record.catalog with
    | none => exact (hother.empty hreference).trans (h.empty hreference).symm
    | some reference =>
      obtain ⟨bytes, hbytes, hdecoded⟩ := h.catalog reference hreference
      obtain ⟨bytes', hbytes', hdecoded'⟩ := hother.catalog reference hreference
      exact decoded_unique (decodeCatalog · _ _) hbytes hdecoded hbytes' hdecoded'
  rw [hregistries, hretries, hcatalogs]

theorem reachable (h : state.Spelled config d) : state.registry.Reachable := by
  obtain ⟨bytes, -, hdecoded⟩ := h.registry
  exact (decodeRegistrySnapshotAtSlot_sound hdecoded).2.2.2.2.2.1

theorem owned (h : state.Spelled config d) :
    state.retry.storeId = config.storeId ∧ state.retry.options = config.retry := by
  obtain ⟨bytes, -, hdecoded⟩ := h.retry
  obtain ⟨-, -, -, -, -, hstore, hoptions, -⟩ := decodeRetryStateAtSlot_sound hdecoded
  exact ⟨hstore, hoptions⟩

theorem catalog_owned (h : state.Spelled config d) : state.catalog.storeId = config.storeId := by
  cases hreference : state.record.catalog with
  | none =>
    rw [h.empty hreference]
    rfl
  | some reference =>
    obtain ⟨bytes, -, hdecoded⟩ := h.catalog reference hreference
    exact (decodeCatalog_ok.mp hdecoded).1

/-- Files that spell out the state are as the root describes them. -/
theorem held (h : state.Spelled config d)
    (hrecovery : ∀ reference ∈ state.record.recovery,
      Described d (.recovery reference.slot) recoveryStateLen reference.checksum) :
    state.record.Held d := by
  refine ⟨?_, ?_, ?_, hrecovery⟩
  · obtain ⟨bytes, hbytes, hdecoded⟩ := h.registry
    obtain ⟨-, -, -, hlength, hchecksum, -, hmaximum, -⟩ :=
      decodeRegistrySnapshotAtSlot_sound hdecoded
    dsimp only at hlength hchecksum
    rw [hlength, hchecksum, val_ofNat_length hmaximum (by decide)]
    exact ⟨bytes, hbytes, rfl, rfl⟩
  · obtain ⟨bytes, hbytes, hdecoded⟩ := h.retry
    obtain ⟨-, -, -, hlength, hchecksum, -, -, -, -, hmaximum, -⟩ :=
      decodeRetryStateAtSlot_sound hdecoded
    rw [hlength, hchecksum, val_ofNat_length hmaximum (by decide)]
    exact ⟨bytes, hbytes, rfl, rfl⟩
  · intro reference hreference
    obtain ⟨bytes, hbytes, hdecoded⟩ := h.catalog reference hreference
    have hmaximum : bytes.length ≤ maxGenerationCatalogBytes := by
      unfold decodeCatalog at hdecoded
      rw [then_ok, refuse_ok] at hdecoded
      simp only [not_or, Nat.not_lt] at hdecoded
      exact hdecoded.1.2.2.1
    have hnamed := (decodeCatalog_ok.mp hdecoded).2.2.1
    rw [h.reference, Option.mem_def.mp hreference, Option.some.injEq] at hnamed
    rw [hnamed] at hbytes ⊢
    dsimp only at hbytes ⊢
    rw [val_ofNat_length hmaximum (by decide)]
    exact ⟨bytes, hbytes, rfl, rfl⟩

end RootState.Spelled

/-- The directory holds the manifests of the store, and its files what the store has in memory. -/
structure ManifestStore.Mirrors (store : ManifestStore) (config : ManifestStoreConfig)
    (d : StoreDirectory) : Prop where
  root : RootedAt config.storeId store.manifestSlots store.currentSlot store.current d
  spelled : store.rootState.Spelled config d

/-- The slots and the root of a store behind the next publication of a manifest. -/
structure ManifestStore.Turns (store next : ManifestStore) : Prop where
  slots : next.manifestSlots = store.manifestSlots.set (1 - store.currentSlot) next.current
  slot : next.currentSlot = 1 - store.currentSlot

namespace ManifestStore

variable {store next : ManifestStore} {config : ManifestStoreConfig} {d d' : StoreDirectory}
  {P : StoreDirectory → Prop}

theorem Mirrors.rooted (h : store.Mirrors config d) : store.Rooted config.storeId d :=
  ⟨h.root, h.spelled.reference⟩

theorem Mirrors.same (h : store.Mirrors config d)
    (hsame : ∀ name, store.current.Names name → d'.lookup name = d.lookup name) :
    store.Mirrors config d' :=
  ⟨h.root.same hsame, h.spelled.same fun name hname => hsame name (Or.inl hname)⟩

/-- Only the fields of the root and its slots count. -/
theorem Mirrors.congr (h : store.Mirrors config d)
    (hslots : next.manifestSlots = store.manifestSlots)
    (hslot : next.currentSlot = store.currentSlot) (hstate : next.rootState = store.rootState) :
    next.Mirrors config d := by
  have hcurrent : next.current = store.current := congrArg RootState.record hstate
  refine ⟨?_, ?_⟩
  · rw [hslots, hslot, hcurrent]
    exact h.root
  · rw [hstate]
    exact h.spelled

theorem Mirrors.ensures {ε α : Type} {a : Action Artifact Bytes ε α} (h : store.Mirrors config d)
    (havoids : a.Avoids store.current.Names) (hP : ∀ d', store.Mirrors config d' → P d') :
    Action.Ensures P a (fun _ d' => store.Mirrors config d') d := by
  have hensures := havoids.ensures (P := P) fun d' hsame => hP d' (h.same hsame)
  exact hensures.mono fun _ d' hsame => h.same hsame

/-- The files of a next root with the recovery of the old one are as it describes them. -/
theorem Mirrors.heldNext (h : store.Mirrors config d) (hspelled : next.rootState.Spelled config d)
    (hrecovery : next.current.recovery = store.current.recovery) : next.current.Held d := by
  refine hspelled.held ?_
  change ∀ reference ∈ next.current.recovery, _
  rw [hrecovery]
  exact h.root.held.recovery

/-- What no slot of the store refers to is removed. -/
theorem Mirrors.removeUnreferenced (h : store.Mirrors config d) {α : Type}
    {rest : StoreAction α} {Q : α → StoreDirectory → Prop} (storeId : StoreId)
    (hP : ∀ d', store.Mirrors config d' → P d')
    (hrest : ∀ d', store.Mirrors config d' → Action.Ensures P rest Q d') :
    Action.Ensures P (do
        removeUnreferencedCatalogSlots store.manifestSlots
        removeUnreferencedRetrySlots store.manifestSlots
        removeUnreferencedRecoverySlots store.manifestSlots storeId
        rest) Q d := by
  have hmem := h.root.mem
  refine ensures_bind (h.ensures (avoids_removeUnreferencedCatalogSlots hmem) hP) ?_
  intro _ d' hmirrors
  refine ensures_bind (hmirrors.ensures (avoids_removeUnreferencedRetrySlots hmem) hP) ?_
  intro _ d' hmirrors
  refine ensures_bind (hmirrors.ensures (avoids_removeUnreferencedRecoverySlots hmem _) hP) ?_
  intro _ d' hmirrors
  exact hrest d' hmirrors

/-- A file that is published beside the names of the root. -/
theorem Mirrors.publishFile {staging target : Artifact} {bytes : Bytes} {maximum : Nat}
    {verify : Bytes → Except ManifestStoreError Unit} (h : store.Mirrors config d)
    (hstaging : ¬store.current.Names staging) (htarget : ¬store.current.Names target)
    (hP : ∀ d', store.Mirrors config d' → P d') :
    Action.Ensures P (publishReusableSlot staging target bytes maximum verify)
      (fun _ d' => store.Mirrors config d' ∧ d'.lookup target = some bytes ∧
        verify bytes = .ok ()) d := by
  have hstaged : store.Mirrors config (Effect.apply d (.put staging bytes)) := by
    refine h.same ?_
    intro name hname
    apply lookup_untouched
    rintro rfl
    exact hstaging hname
  have hdone : store.Mirrors config (published d staging target bytes) := by
    refine h.same ?_
    intro name hname
    rw [lookup_published, if_neg, if_neg]
    · rintro rfl
      exact hstaging hname
    · rintro rfl
      exact htarget hname
  refine ensures_publishReusableSlot (hP d h) (hP _ hstaged) (fun _ _ => hP _ hdone) ?_
  intro _ hverify
  exact ⟨hdone, by rw [lookup_published, if_pos rfl], hverify⟩

section Manifest

variable {prepared : PreparedManifestPublication}

/-- A manifest whose files are all there is published over the other slot. -/
theorem Mirrors.publishManifest (h : store.Mirrors config d) (hturns : store.Turns next)
    (hrecord : prepared.record = next.current)
    (hprogress : RootProgresses store.current next.current)
    (hspelled : next.rootState.Spelled config d) (hheld : next.current.Held d)
    (hbytes : prepared.bytes = encodeManifest prepared.record)
    (htarget : prepared.target = 1 - store.currentSlot)
    (hP : ∀ d', store.Mirrors config d' → P d') (hdone : ∀ d', next.Mirrors config d' → P d') :
    Action.Ensures P (store.publishPreparedManifest prepared)
      (fun slot d' => slot = 1 - store.currentSlot ∧ next.Mirrors config d') d := by
  let Either : StoreDirectory → Prop := fun d' =>
    RootedAt config.storeId store.manifestSlots store.currentSlot store.current d' ∨
      RootedAt config.storeId next.manifestSlots next.currentSlot next.current d'
  have hselects : (store.manifestSlots.set prepared.target prepared.record).Selects
      prepared.target prepared.record := by
    rw [htarget, hrecord]
    exact h.root.selects.publish hprogress
  have hnext : ∀ d', RootedAt config.storeId
      (store.manifestSlots.set prepared.target prepared.record) prepared.target prepared.record d' →
      RootedAt config.storeId next.manifestSlots next.currentSlot next.current d' := by
    intro d' hrooted
    rw [htarget, hrecord] at hrooted
    rw [hturns.slots, hturns.slot]
    exact hrooted
  have hstaged : Either (Effect.apply d (.put .manifestStaging prepared.bytes)) := by
    refine Or.inl (h.root.same ?_)
    intro name hname
    apply lookup_untouched
    rintro rfl
    exact hname.rootFile
  have hensures := ensures_publishPreparedManifest (P := Either) h.root.valid.store h.root.on
    hselects (by rw [hrecord]; exact hheld) hbytes (Or.inl h.root) hstaged
    fun d' hrooted => Or.inr (hnext d' hrooted)
  have havoids : (store.publishPreparedManifest prepared).Avoids fun name =>
      store.current.Refers name ∨ next.current.Refers name := by
    refine avoids_bind (avoids_publishReusableSlot ?_ ?_) fun _ => avoids_pure _
    · exact fun hname => hname.elim id id
    · exact fun hname => hname.elim id id
  have hnew : ∀ d', RootedAt config.storeId next.manifestSlots next.currentSlot next.current d' →
      (∀ name, store.current.Refers name ∨ next.current.Refers name →
        d'.lookup name = d.lookup name) → next.Mirrors config d' :=
    fun d' hrooted hsame => ⟨hrooted, hspelled.same fun name hname => hsame name (Or.inr hname)⟩
  refine (hensures.frame havoids).weaken ?_ ?_
  · intro d' hd'
    obtain ⟨hrooted, hsame⟩ := hd'
    rcases hrooted with hold | hdone'
    · exact hP d' ⟨hold, h.spelled.same fun name hname => hsame name (Or.inl hname)⟩
    · exact hdone d' (hnew d' hdone' hsame)
  · intro slot d' hd'
    obtain ⟨⟨hslot, hrooted⟩, hsame⟩ := hd'
    exact ⟨hslot.trans htarget, hnew d' (hnext d' hrooted) hsame⟩

/-- The manifest is published, and what no manifest refers to any more is removed. -/
theorem Mirrors.publishAndAdopt (h : store.Mirrors config d) (hturns : store.Turns next)
    (hrecord : prepared.record = next.current)
    (hprogress : RootProgresses store.current next.current)
    (hspelled : next.rootState.Spelled config d) (hheld : next.current.Held d)
    (hbytes : prepared.bytes = encodeManifest prepared.record)
    (htarget : prepared.target = 1 - store.currentSlot)
    (hP : ∀ d', store.Mirrors config d' → P d') (hdone : ∀ d', next.Mirrors config d' → P d') :
    Action.Ensures P (store.publishAndAdoptPreparedManifest prepared)
      (fun adopted d' => store.Adopts prepared.record adopted ∧ next.Mirrors config d') d := by
  unfold publishAndAdoptPreparedManifest
  refine ensures_bind
    (h.publishManifest hturns hrecord hprogress hspelled hheld hbytes htarget hP hdone) ?_
  rintro slot d' ⟨rfl, hmirrors⟩
  rw [hrecord, ← hturns.slots]
  refine hmirrors.removeUnreferenced _ hdone ?_
  intro d' hmirrors
  exact ensures_pure (hdone d' hmirrors) ⟨rfl, hmirrors⟩

end Manifest

/-- The store behind a batch, a registry call, a rotation and a recovery. -/
def batched (store : ManifestStore) (plan : PendingCommitPlan) : ManifestStore :=
  { store.adoptPublishedManifest (1 - store.currentSlot) plan.manifest.record with
    retry := plan.retry }

def registered (store : ManifestStore) (candidate : SeriesRegistry)
    (manifest : PreparedManifestPublication) : ManifestStore :=
  { store.adoptPublishedManifest (1 - store.currentSlot) manifest.record with
    registry := candidate }

def rotated (store : ManifestStore) (plan : RotationPlan) (successor : ActiveJournal) :
    ManifestStore :=
  { store.adoptPublishedManifest (1 - store.currentSlot) plan.manifest.record with
    journal := successor
    catalog := plan.catalog.snapshot }

def recovered (store : ManifestStore) (recovery : RecoveryCommit) : ManifestStore :=
  { store.adoptPublishedManifest (1 - store.currentSlot) recovery.manifest.record with
    recoveryReport := some recovery.artifact.report }

section Batch

variable {cutoff : DurableCutoff} {pending : List PendingRetryOutcome} {plan : PendingCommitPlan}

theorem PendingPlan.rootState (hplan : PendingPlan store cutoff pending plan) :
    (store.batched plan).rootState = ⟨{ store.current with
      generation := plan.manifest.record.generation
      cutoff := cutoff
      retry := plan.retryPublication.reference }, store.registry, plan.retry, store.catalog⟩ := by
  change RootState.mk plan.manifest.record _ _ _ = _
  rw [hplan.record]
  rfl

theorem PendingPlan.commits (hplan : PendingPlan store cutoff pending plan) :
    store.rootState.Commits pending (store.batched plan).rootState := by
  have hadvance := hplan.advance
  rw [hplan.record] at hadvance
  rw [hplan.rootState]
  exact .batch hplan.generation hplan.retryGeneration hplan.accepted hadvance

theorem PendingPlan.journal (hplan : PendingPlan store cutoff pending plan)
    (journal : ActiveJournal) :
    PendingPlan { store with journal := journal } cutoff pending plan :=
  ⟨hplan.accepted, hplan.reached, hplan.advance, hplan.slot, hplan.retryGeneration, hplan.encoded,
    hplan.length, hplan.checksum, hplan.generation, hplan.record, hplan.target, hplan.bytes⟩

theorem Mirrors.commitSyncedPending (h : store.Mirrors config d)
    (hplan : PendingPlan store cutoff pending plan) (hP : ∀ d', store.Mirrors config d' → P d')
    (hdone : ∀ d', (store.batched plan).Mirrors config d' → P d') :
    Action.Ensures P (store.commitSyncedPending plan)
      (fun adopted d' => adopted = store.batched plan ∧ adopted.Mirrors config d') d := by
  have hprogress := hplan.progresses h.rooted
  have hnames : ¬store.current.Names (.retry plan.retryPublication.reference.state.slot) := by
    intro hnamed
    have heq : plan.retryPublication.reference.state.slot = store.current.retry.state.slot :=
      hnamed.refers (by simp)
    exact hplan.unnamed (List.mem_map.mpr ⟨store.current, h.root.mem, heq.symm⟩)
  obtain ⟨howner, hoptions, -⟩ := RetryStateSnapshot.advance_ok hplan.advance
  have hstore : store.retry.storeId = config.storeId := h.spelled.owned.1
  have hretryOptions : store.retry.options = config.retry := h.spelled.owned.2
  unfold ManifestStore.commitSyncedPending publishPreparedRetrySnapshot
  refine ensures_bind (h.publishFile (fun hnamed => hnamed.rootFile) hnames hP) ?_
  rintro _ d' ⟨hmirrors, hlookup, hverify⟩
  simp only [bind_ok, mapError_ok, refuse_ok, not_or, not_not, Prod.exists] at hverify
  obtain ⟨reference, decoded, hdecoded, rfl, rfl⟩ := hverify
  rw [howner, hoptions] at hdecoded
  rw [hstore, hretryOptions] at hdecoded
  have hspelled : (store.batched plan).rootState.Spelled config d' := by
    rw [hplan.rootState]
    exact ⟨hmirrors.spelled.registry, ⟨_, hlookup, hdecoded⟩, hmirrors.spelled.catalog,
      hmirrors.spelled.empty, hmirrors.spelled.reference⟩
  have hrecovery := congrArg ManifestRecord.recovery hplan.record
  have hheld : (store.batched plan).current.Held d' := hmirrors.heldNext hspelled hrecovery
  have hturns : store.Turns (store.batched plan) := ⟨rfl, rfl⟩
  refine ensures_bind (hmirrors.publishAndAdopt hturns rfl hprogress hspelled hheld hplan.bytes
    (hplan.target (h.rooted.nextGeneration hplan.generation)) hP hdone) ?_
  rintro adopted d' ⟨rfl, hadopted⟩
  exact ensures_pure (hdone d' hadopted) ⟨rfl, hadopted⟩

end Batch

section Registry

variable {candidate : SeriesRegistry} {registry : PreparedRegistryPublication}
  {manifest : PreparedManifestPublication}

theorem RegistryCommitPlan.rootState
    (hplan : RegistryCommitPlan store candidate registry manifest)
    (hroot : store.journal.durableCutoff = store.current.cutoff) :
    (store.registered candidate manifest).rootState = ⟨{ store.current with
      generation := manifest.record.generation
      registry := registry.reference }, candidate, store.retry, store.catalog⟩ := by
  change RootState.mk manifest.record _ _ _ = _
  rw [hplan.record, hroot]
  rfl

theorem RegistryCommitPlan.commits
    (hplan : RegistryCommitPlan store candidate registry manifest)
    (hroot : store.journal.durableCutoff = store.current.cutoff) {call : RegistryCall}
    (hcall : candidate = (store.registry.call call).2) :
    store.rootState.Commits [] (store.registered candidate manifest).rootState := by
  rw [hplan.rootState hroot, hcall]
  exact .registry call hplan.generation hplan.registryGeneration

theorem Mirrors.publishRegistry (h : store.Mirrors config d)
    (hplan : RegistryCommitPlan store candidate registry manifest)
    (hroot : store.journal.durableCutoff = store.current.cutoff)
    (hcandidate : candidate.Reachable) (hP : ∀ d', store.Mirrors config d' → P d')
    (hdone : ∀ d', (store.registered candidate manifest).Mirrors config d' → P d') :
    Action.Ensures P (store.publishRegistry candidate registry manifest)
      (fun adopted d' => adopted = store.registered candidate manifest ∧
        adopted.Mirrors config d') d := by
  have hnames : ¬store.current.Names (.registry registry.reference.slot) := by
    intro hnamed
    have heq : registry.reference.slot = store.current.registry.slot := hnamed.refers (by simp)
    exact hplan.unnamed (List.mem_map.mpr ⟨store.current, h.root.mem, heq.symm⟩)
  unfold ManifestStore.publishRegistry publishPreparedRegistrySnapshot
  refine ensures_bind (h.publishFile (fun hnamed => hnamed.rootFile) hnames hP) ?_
  rintro _ d' ⟨hmirrors, hlookup, hverify⟩
  simp only [bind_ok, refuse_ok, not_or, not_not] at hverify
  obtain ⟨⟨reference, decoded⟩, hdecoded, hreference, hsnapshot⟩ := hverify
  dsimp only at hreference hsnapshot
  -- the file is read back as the registry that it was written for
  have hreachable := (decodeRegistrySnapshotAtSlot_sound hdecoded).2.2.2.2.2.1
  have hdecodedRegistry : decoded = candidate := hreachable.eq_of_snapshot hcandidate hsnapshot
  rw [hreference, hdecodedRegistry] at hdecoded
  have hspelled : (store.registered candidate manifest).rootState.Spelled config d' := by
    rw [hplan.rootState hroot]
    exact ⟨⟨_, hlookup, hdecoded⟩, hmirrors.spelled.retry, hmirrors.spelled.catalog,
      hmirrors.spelled.empty, hmirrors.spelled.reference⟩
  have hrecovery := congrArg ManifestRecord.recovery hplan.record
  have hheld : (store.registered candidate manifest).current.Held d' :=
    hmirrors.heldNext hspelled hrecovery
  have hturns : store.Turns (store.registered candidate manifest) := ⟨rfl, rfl⟩
  refine ensures_bind (hmirrors.publishAndAdopt hturns rfl hplan.progresses hspelled hheld
    hplan.bytes (hplan.target (h.rooted.nextGeneration hplan.generation)) hP hdone) ?_
  rintro adopted d' ⟨rfl, hadopted⟩
  exact ensures_pure (hdone d' hadopted) ⟨rfl, hadopted⟩

end Registry

section Rotation

variable {plan : RotationPlan}

theorem RotationCommitPlan.seals {d' : StoreDirectory} (hplan : RotationCommitPlan store d' plan) :
    store.rootState.Seals plan.sealedEntry := by
  obtain ⟨hsource, hfloor, hcutoff, hend⟩ := prepareSealedGeneration_entry hplan.prepared
  rw [hplan.intent] at hsource hcutoff hend
  have hroot := hplan.root
  refine ⟨?_, hfloor, ?_, ?_, hplan.follows⟩
  · rw [hsource]
    exact congrArg (fun cutoff => cutoff.journal.generation) hroot
  · rw [hcutoff]
    exact congrArg DurableCutoff.appendSequence hroot
  · rw [hend]
    exact congrArg DurableCutoff.endOffset hroot

theorem RotationCommitPlan.rootState {d' : StoreDirectory}
    (hplan : RotationCommitPlan store d' plan) (successor : ActiveJournal)
    {reference : GenerationCatalogReference}
    (hreference : plan.catalog.snapshot.reference = some reference) :
    (store.rotated plan successor).rootState = ⟨{ store.current with
      generation := plan.manifest.record.generation
      cutoff := ⟨⟨store.current.cutoff.journal.storeId, plan.intent.successorGeneration⟩, 1,
        store.current.cutoff.appendSequence, Fin.ofNat _ journalV1HeaderLen⟩
      sequenceFloor := store.current.cutoff.appendSequence
      catalog := some reference }, store.registry, store.retry,
      ⟨store.catalog.storeId, some reference, store.catalog.entries ++ [plan.sealedEntry]⟩⟩ := by
  have hcatalog : plan.catalog.snapshot = ⟨store.catalog.storeId, some reference,
      store.catalog.entries ++ [plan.sealedEntry]⟩ := by
    rw [← hplan.owner, ← hreference, ← hplan.entries]
  change RootState.mk plan.manifest.record _ _ plan.catalog.snapshot = _
  rw [hplan.record, hreference, hcatalog]
  rfl

theorem RotationCommitPlan.commits {d' : StoreDirectory}
    (hplan : RotationCommitPlan store d' plan) (successor : ActiveJournal) :
    store.rootState.Commits [] (store.rotated plan successor).rootState := by
  obtain ⟨reference, hreference, -, -, -, -, hnext⟩ := hplan.reference
  rw [hplan.rootState successor hreference]
  exact .rotation hplan.seals hplan.generation hplan.successor hplan.room hnext

theorem Mirrors.publishRotation (h : store.Mirrors config d) {d' : StoreDirectory}
    (hplan : RotationCommitPlan store d' plan) (hP : ∀ d', store.Mirrors config d' → P d')
    (hdone : ∀ successor d'', successor.durableCutoff = plan.manifest.record.cutoff →
      (store.rotated plan successor).Mirrors config d'' → P d'') :
    Action.Ensures P (store.publishRotation plan)
      (fun adopted d'' => ∃ successor, successor.durableCutoff = plan.manifest.record.cutoff ∧
        adopted = store.rotated plan successor ∧ adopted.Mirrors config d'') d := by
  have hprogress := hplan.progresses h.rooted
  have hfile : ∀ name, store.current.Names name → name.IsRootFile := fun _ hname => hname.rootFile
  obtain ⟨reference, hreference, hslot, -⟩ := hplan.reference
  have hnames : ¬store.current.Names (.catalog reference.slot) := by
    intro hnamed
    obtain ⟨named, hnamed, heq⟩ := hnamed.refers (by simp)
    have hmem := mem_catalogSlots h.root.mem hnamed
    rw [← heq] at hmem
    exact (candidateSlot_ok hslot).2 hmem
  unfold ManifestStore.publishRotation
  refine ensures_bind (h.ensures (avoids_publishRotationIntent hfile _) hP) ?_
  intro _ d' hmirrors
  refine ensures_bind (hmirrors.ensures (avoids_publishSealedGeneration hfile _ _) hP) ?_
  intro _ d' hmirrors
  refine ensures_bind
    (hmirrors.ensures (avoids_mapError (avoids_openJournal hfile _)) hP) ?_
  intro successor d' hmirrors
  refine ensures_ensure_bind (hP d' hmirrors) ?_
  intro _ hsuccessor
  rw [refuse_ok, not_not] at hsuccessor
  unfold publishPreparedCatalogSnapshot
  rw [hreference]
  refine ensures_bind (ensures_ensure_bind (hP d' hmirrors) fun found hfound => ?_) ?_
    (R := fun _ d' => store.Mirrors config d' ∧ ∃ bytes,
      d'.lookup (.catalog reference.slot) = some bytes ∧
        decodeCatalog bytes reference.slot config.storeId = .ok plan.catalog.snapshot)
  · cases hfound
    have hstaging : ¬store.current.Names .catalogStaging := fun hnamed => hnamed.rootFile
    refine (hmirrors.publishFile hstaging hnames hP).mono ?_
    rintro _ d' ⟨hmirrors, hlookup, hverify⟩
    simp only [bind_ok, mapError_ok, refuse_ok, not_not] at hverify
    obtain ⟨decoded, hdecoded, rfl⟩ := hverify
    have howner : store.catalog.storeId = config.storeId := h.spelled.catalog_owned
    rw [hplan.owner, howner] at hdecoded
    exact ⟨hmirrors, _, hlookup, hdecoded⟩
  rintro _ d' ⟨hmirrors, hspelledCatalog⟩
  have hspelled : (store.rotated plan successor).rootState.Spelled config d' := by
    have hstate := hplan.rootState successor hreference
    have hsnapshot : plan.catalog.snapshot = ⟨store.catalog.storeId, some reference,
        store.catalog.entries ++ [plan.sealedEntry]⟩ := congrArg RootState.catalog hstate
    rw [hstate]
    refine ⟨hmirrors.spelled.registry, hmirrors.spelled.retry, ?_,
      (by intro hnone; cases hnone), rfl⟩
    intro found hfound
    rw [Option.mem_some_iff] at hfound
    rw [← hfound, ← hsnapshot]
    exact hspelledCatalog
  have hrecovery := congrArg ManifestRecord.recovery hplan.record
  have hheld : (store.rotated plan successor).current.Held d' :=
    hmirrors.heldNext hspelled hrecovery
  have hturns : store.Turns (store.rotated plan successor) := ⟨rfl, rfl⟩
  refine ensures_bind (hmirrors.publishManifest hturns rfl hprogress hspelled hheld hplan.bytes
    (hplan.target (h.rooted.nextGeneration hplan.generation)) hP
    fun d' hmirrors => hdone successor d' hsuccessor hmirrors) ?_
  rintro slot d' ⟨rfl, hadopted⟩
  exact ensures_pure (hdone successor d' hsuccessor hadopted)
    ⟨successor, hsuccessor, rfl, hadopted⟩

theorem Mirrors.finishRotation (h : store.Mirrors config d)
    (hP : ∀ d', store.Mirrors config d' → P d') (sourceGeneration : U64) :
    Action.Ensures P (store.finishRotation sourceGeneration)
      (fun _ d' => store.Mirrors config d') d := by
  have hfile : ∀ name, store.current.Names name → name.IsRootFile := fun _ hname => hname.rootFile
  unfold ManifestStore.finishRotation
  refine ensures_bind (h.ensures (avoids_cleanupCommittedRotation hfile _) hP) ?_
  intro _ d' hmirrors
  refine ensures_bind
    (hmirrors.ensures (avoids_removeUnreferencedCatalogSlots hmirrors.root.mem) hP) ?_
  intro _ d' hmirrors
  refine ensures_bind
    (hmirrors.ensures (avoids_removeUnreferencedRetrySlots hmirrors.root.mem) hP) ?_
  intro _ d' hmirrors
  exact hmirrors.ensures (avoids_removeUnreferencedRecoverySlots hmirrors.root.mem _) hP

end Rotation

end ManifestStore

/-- A directory whose files spell out the state, under a root that a store can go on from. -/
def RootState.Denoted (state : RootState) (config : ManifestStoreConfig) (d : StoreDirectory) :
    Prop :=
  ∃ store : ManifestStore, store.Mirrors config d ∧ store.Linked ∧ store.rootState = state

/-- The directory denotes the state, or what the commit of the batch has made of it. -/
def RootState.Carried (state : RootState) (config : ManifestStoreConfig)
    (batch : List PendingRetryOutcome) (d : StoreDirectory) : Prop :=
  state.Denoted config d ∨ ∃ next, state.Commits batch next ∧ next.Denoted config d

/-- The outcomes that a method is given to commit. -/
def StoreOp.submitted : StoreOp → List PendingRetryOutcome
  | .syncPending pending => pending
  | _ => []

/-- What a usable store has in memory is what its directory denotes. -/
structure ManifestStore.Faithful (store : ManifestStore) (config : ManifestStoreConfig)
    (d : StoreDirectory) : Prop where
  mirrors : store.Mirrors config d
  linked : store.Linked

/-- A directory denotes one state at most. -/
theorem RootState.Denoted.unique {state other : RootState} {config : ManifestStoreConfig}
    {d : StoreDirectory} (h : state.Denoted config d) (hother : other.Denoted config d) :
    other = state := by
  obtain ⟨store, hmirrors, -, rfl⟩ := h
  obtain ⟨store', hmirrors', -, rfl⟩ := hother
  have hslots := hmirrors.root.on.unique hmirrors'.root.on
  have hselects := hmirrors'.root.selects
  rw [hslots] at hselects
  exact hmirrors.spelled.unique hmirrors'.spelled (hmirrors.root.selects.unique hselects).2

theorem RootState.Denoted.manifested {state : RootState} {config : ManifestStoreConfig}
    {d : StoreDirectory} (h : state.Denoted config d) : ¬Unmanifested d := by
  obtain ⟨store, hmirrors, -, -⟩ := h
  intro hnone
  have hslots := hmirrors.root.on.unique (hnone.on config.storeId)
  have hchosen := hmirrors.root.selects.chosen
  rw [← hslots] at hchosen
  generalize store.currentSlot = slot at hchosen
  fin_cases slot
  · cases hchosen
  · cases hchosen

theorem RootState.Denoted.carried {state : RootState} {config : ManifestStoreConfig}
    {d : StoreDirectory} (h : state.Denoted config d) (batch : List PendingRetryOutcome) :
    state.Carried config batch d := Or.inl h

namespace ManifestStore

variable {store : ManifestStore} {config : ManifestStoreConfig} {d : StoreDirectory}

theorem Faithful.denoted (h : store.Faithful config d) : store.rootState.Denoted config d :=
  ⟨store, h.mirrors, h.linked, rfl⟩

/-- What a method leaves: a store that is faithful when it is usable. -/
def UsableFaithful (config : ManifestStoreConfig) (store : ManifestStore) (d : StoreDirectory) :
    Prop :=
  store.ensureUsable = .ok () → store.Faithful config d

theorem usableFaithful_terminal (error : ManifestStoreError) (d : StoreDirectory) :
    UsableFaithful config (store.recordTerminalError error) d :=
  fun husable => absurd husable (recordTerminalError_unusable store error)

theorem Faithful.carried (h : store.Faithful config d) {batch : List PendingRetryOutcome}
    {d' : StoreDirectory} (hmirrors : store.Mirrors config d') :
    store.rootState.Carried config batch d' :=
  Or.inl ⟨store, hmirrors, h.linked, rfl⟩

theorem Faithful.recordActiveError (h : store.Faithful config d) :
    store.recordActiveError.Faithful config d := by
  unfold ManifestStore.recordActiveError
  split
  next => exact h
  next =>
    exact ⟨h.mirrors.congr rfl rfl rfl,
      ⟨h.linked.valid, h.linked.link, h.linked.journal, h.linked.kept⟩⟩

theorem Faithful.keeps_append (h : store.Faithful config d) (frame : PreparedFrameV1) :
    (store.append frame d).Keeps (store.rootState.Carried config []) (UsableFaithful config) d := by
  have hfile : ∀ name, store.current.Names name → name.IsRootFile := fun _ hname => hname.rootFile
  unfold ManifestStore.append
  split
  next => exact keeps_refused (h.carried h.mirrors) fun _ => h
  next =>
    have hpart := (h.mirrors.ensures (avoids_mapError (f := ManifestStoreError.active)
      (avoids_journalAppend hfile store.journal frame)) fun _ hmirrors => hmirrors).yields
      (yields_mapError (yields_journalAppend_cutoff _ _))
    refine keeps_attempt hpart (fun d' => h.carried) ?_ ?_
    · intro _ d' hmirrors _
      have hsame : store.Faithful config d' := ⟨hmirrors, h.linked⟩
      exact hsame.recordActiveError
    · rintro appended d' ⟨hmirrors, hcutoff⟩
      exact keeps_settled (h.carried hmirrors) fun _ =>
        ⟨hmirrors.congr rfl rfl rfl, h.linked.append hcutoff⟩

theorem Faithful.committed (h : store.Faithful config d) {state : RootState}
    {batch : List PendingRetryOutcome} (hcommits : state.Commits batch store.rootState) :
    state.Carried config batch d := Or.inr ⟨_, hcommits, h.denoted⟩

theorem Faithful.ensures_sync (h : store.Faithful config d) :
    Action.Ensures (store.Mirrors config)
      (store.journal.syncPending.mapError ManifestStoreError.active)
      (fun synced d' => store.Mirrors config d' ∧ synced.2.durableCutoff = synced.1) d := by
  have hfile : ∀ name, store.current.Names name → name.IsRootFile := fun _ hname => hname.rootFile
  exact (h.mirrors.ensures (avoids_mapError (avoids_journalSync hfile store.journal))
    fun _ hmirrors => hmirrors).yields (yields_mapError (yields_journalSync_cutoff _))

/-- The root of a batch is published when the journal has reached its cutoff. -/
theorem Faithful.ensures_batch (h : store.Faithful config d) {cutoff : DurableCutoff}
    {pending : List PendingRetryOutcome} {plan : PendingCommitPlan}
    (hpending : PendingPlan store cutoff pending plan) {synced : DurableCutoff × ActiveJournal}
    (hsynced : synced.2.durableCutoff = synced.1) :
    Action.Ensures (store.rootState.Carried config pending) (do
        ensure (refuse (synced.1 ≠ plan.cutoff) .invalidRetry)
        ({ store with journal := synced.2 } : ManifestStore).commitSyncedPending plan)
      (fun adopted d' => adopted.Faithful config d' ∧
        store.rootState.Commits pending adopted.rootState) d := by
  refine ensures_ensure_bind (h.carried h.mirrors) ?_
  intro _ hreached
  rw [refuse_ok, not_not] at hreached
  have hother : ({ store with journal := synced.2 } : ManifestStore).Mirrors config d :=
    h.mirrors.congr rfl rfl rfl
  have hlinked : (({ store with journal := synced.2 } : ManifestStore).batched plan).Linked := by
    have hbatch := h.linked.batch hpending (hsynced.trans hreached)
    rw [hpending.target (h.mirrors.rooted.nextGeneration hpending.generation)] at hbatch
    exact hbatch
  have hdone : ∀ d', (({ store with journal := synced.2 } : ManifestStore).batched
      plan).Mirrors config d' → store.rootState.Carried config pending d' := fun d' hdone =>
    Or.inr ⟨_, hpending.commits, _, hdone, hlinked, rfl⟩
  refine (hother.commitSyncedPending (hpending.journal synced.2)
    (fun d' hsame => h.carried (hsame.congr rfl rfl rfl)) hdone).mono ?_
  rintro adopted d' ⟨rfl, hadopted⟩
  exact ⟨⟨hadopted, hlinked⟩, hpending.commits⟩

theorem Faithful.keeps_syncPending (h : store.Faithful config d)
    (pending : List PendingRetryOutcome) :
    (store.syncPending pending d).Keeps (store.rootState.Carried config pending)
      (UsableFaithful config) d := by
  unfold ManifestStore.syncPending
  split
  next => exact keeps_refused (h.carried h.mirrors) fun _ => h
  next => exact keeps_settled (h.carried h.mirrors) fun _ => h
  next plan hplan =>
    obtain ⟨-, -, cutoff, -, -, hprepared⟩ := planSync_some hplan
    have hpending := prepareSyncedPending_ok hprepared
    refine keeps_attempt h.ensures_sync (fun d' => h.carried) ?_ ?_
    · intro _ d' hmirrors _
      have hsame : store.Faithful config d' := ⟨hmirrors, h.linked⟩
      exact hsame.recordActiveError
    · rintro synced d' ⟨hmirrors, hsynced⟩
      have hsame : store.Faithful config d' := ⟨hmirrors, h.linked⟩
      refine keeps_attempt (hsame.ensures_batch hpending hsynced) (fun _ hcarried => hcarried)
        (fun error d' _ => usableFaithful_terminal error d') ?_
      rintro adopted d' ⟨hadopted, hcommits⟩
      exact keeps_settled (hadopted.committed hcommits) fun _ => hadopted

/-- A synchronisation that succeeds has committed all that it was given. -/
theorem Faithful.syncPending_ok (h : store.Faithful config d)
    {pending : List PendingRetryOutcome} {answer : ManifestCommit × RetryStateSnapshot}
    (hanswer : (store.syncPending pending d).result = .ok answer) :
    pending = [] ∨ ∃ next, store.rootState.Commits pending next ∧
      next.Denoted config (applyAll d (store.syncPending pending d).effects) := by
  unfold ManifestStore.syncPending at hanswer ⊢
  split at hanswer
  next => cases hanswer
  next hplan =>
    -- there was nothing to commit
    refine Or.inl ?_
    unfold planSync at hplan
    simp only [bind_ok, exists_unit, refuse_ok] at hplan
    obtain ⟨-, -, anticipated, -, hplan⟩ := hplan
    split at hplan
    next =>
      rw [then_ok, refuse_ok, not_not] at hplan
      exact hplan.1
    next =>
      rw [bind_ok] at hplan
      obtain ⟨plan, -, hplan⟩ := hplan
      cases hplan
  next plan hplan =>
    obtain ⟨-, -, cutoff, -, -, hprepared⟩ := planSync_some hplan
    have hpending := prepareSyncedPending_ok hprepared
    obtain ⟨synced, first, hfirst, hanswer, hwhole⟩ := attempt_ok hanswer
    obtain ⟨hmirrors, hsynced⟩ := h.ensures_sync.result synced (by rw [hfirst])
    rw [hfirst] at hmirrors
    have hsame : store.Faithful config (applyAll d first) := ⟨hmirrors, h.linked⟩
    obtain ⟨adopted, second, hsecond, -, hrest⟩ := attempt_ok hanswer
    obtain ⟨hadopted, hcommits⟩ := (hsame.ensures_batch hpending hsynced).result adopted
      (by rw [hsecond])
    rw [hsecond] at hadopted
    refine Or.inr ⟨_, hcommits, ?_⟩
    rw [hwhole, hrest, applyAll_append]
    have hnothing : second ++ (adopted.settled (adopted.commit, adopted.retry)).effects = second :=
      List.append_nil _
    rw [hnothing]
    exact hadopted.denoted

theorem Faithful.keeps_applyRegistry {α : Type} (h : store.Faithful config d)
    (operation : SeriesRegistry → Except ModelError (α × SeriesRegistry)) (call : RegistryCall)
    (hcall : ∀ output candidate, operation store.registry = .ok (output, candidate) →
      candidate = (store.registry.call call).2) :
    (store.applyRegistry operation d).Keeps (store.rootState.Carried config [])
      (UsableFaithful config) d := by
  unfold ManifestStore.applyRegistry
  split
  next => exact keeps_refused (h.carried h.mirrors) fun _ => h
  next => exact keeps_settled (h.carried h.mirrors) fun _ => h
  next output candidate registry manifest hplan =>
    obtain ⟨hcommit, restored, hrestored, hoperation⟩ := planRegistry_publish hplan
    have hreachable : store.registry.Reachable := h.mirrors.spelled.reachable
    rw [restoreSnapshot_ok hreachable hrestored] at hoperation
    have hcandidate := hcall output candidate hoperation
    have htarget := hcommit.target (h.mirrors.rooted.nextGeneration hcommit.generation)
    have hlinked : (store.registered candidate manifest).Linked := by
      have hregistry := h.linked.registry hcommit
      rw [htarget] at hregistry
      exact hregistry
    have hdone : ∀ d', (store.registered candidate manifest).Mirrors config d' →
        store.rootState.Carried config [] d' := fun d' hdone =>
      Or.inr ⟨_, hcommit.commits h.linked.journal hcandidate, _, hdone, hlinked, rfl⟩
    have hcandidateReachable : candidate.Reachable := by
      rw [hcandidate]
      exact hreachable.call call
    refine keeps_attempt (h.mirrors.publishRegistry hcommit h.linked.journal hcandidateReachable
      (fun d' => h.carried) hdone) (fun _ hcarried => hcarried)
      (fun error d' _ => usableFaithful_terminal error d') ?_
    rintro adopted d' ⟨rfl, hadopted⟩
    exact keeps_settled (hdone d' hadopted) fun _ => ⟨hadopted, hlinked⟩

theorem Faithful.keeps_rotate (h : store.Faithful config d) :
    (store.rotate d).Keeps (store.rootState.Carried config []) (UsableFaithful config) d := by
  unfold ManifestStore.rotate
  split
  next => exact keeps_refused (h.carried h.mirrors) fun _ => h
  next plan hplan =>
    rw [bind_ok] at hplan
    obtain ⟨-, -, hplan⟩ := hplan
    have hcommit := prepareRotation_ok hplan
    have htarget := hcommit.target (h.mirrors.rooted.nextGeneration hcommit.generation)
    have hlinked : ∀ successor : ActiveJournal,
        successor.durableCutoff = plan.manifest.record.cutoff →
        (store.rotated plan successor).Linked := by
      intro successor hsuccessor
      have hrotation := h.linked.rotation hcommit hsuccessor
      rw [htarget] at hrotation
      exact hrotation
    have hdone : ∀ (successor : ActiveJournal) (d' : StoreDirectory),
        successor.durableCutoff = plan.manifest.record.cutoff →
        (store.rotated plan successor).Mirrors config d' →
          store.rootState.Carried config [] d' := fun successor d' hsuccessor hdone =>
      Or.inr ⟨_, hcommit.commits successor, _, hdone, hlinked successor hsuccessor, rfl⟩
    refine keeps_attempt (h.mirrors.publishRotation hcommit (fun d' => h.carried) hdone)
      (fun _ hcarried => hcarried) (fun error d' _ => usableFaithful_terminal error d') ?_
    rintro adopted d' ⟨successor, hsuccessor, rfl, hadopted⟩
    refine keeps_attempt (hadopted.finishRotation (fun d'' => hdone successor d'' hsuccessor) _)
      (fun _ hcarried => hcarried) (fun error d' _ => usableFaithful_terminal error d') ?_
    intro _ d' hfinished
    exact keeps_settled (hdone successor d' hsuccessor hfinished) fun _ =>
      ⟨hfinished, hlinked successor hsuccessor⟩

/-- Wherever a method stops, the directory denotes the state of before or one commit behind it. -/
theorem Faithful.keeps_run (h : store.Faithful config d) (op : StoreOp) :
    (op.run store d).Keeps (store.rootState.Carried config op.submitted) (UsableFaithful config)
      d := by
  cases op with
  | append frame =>
    obtain ⟨hthroughout, hends⟩ := h.keeps_append frame
    exact ⟨hthroughout, hends⟩
  | syncPending pending =>
    obtain ⟨hthroughout, hends⟩ := h.keeps_syncPending pending
    exact ⟨hthroughout, hends⟩
  | register seriesId binding payload evidence =>
    obtain ⟨hthroughout, hends⟩ := h.keeps_applyRegistry
      (fun registry => registry.register seriesId binding payload evidence)
      (.register seriesId binding payload evidence) fun output candidate hcall => by
        rw [SeriesRegistry.call_register, hcall]
        rfl
    exact ⟨hthroughout, hends⟩
  | revise seriesId expectedRevision payload evidence =>
    obtain ⟨hthroughout, hends⟩ := h.keeps_applyRegistry
      (fun registry => registry.revise seriesId expectedRevision payload evidence)
      (.revise seriesId expectedRevision payload evidence) fun output candidate hcall => by
        rw [SeriesRegistry.call_revise, hcall]
        rfl
    exact ⟨hthroughout, hends⟩
  | retire seriesId expectedRevision evidence =>
    obtain ⟨hthroughout, hends⟩ := h.keeps_applyRegistry
      (fun registry => registry.retire seriesId expectedRevision evidence)
      (.retire seriesId expectedRevision evidence) fun output candidate hcall => by
        rw [SeriesRegistry.call_retire, hcall]
        rfl
    exact ⟨hthroughout, hends⟩
  | rotate =>
    obtain ⟨hthroughout, hends⟩ := h.keeps_rotate
    exact ⟨hthroughout, hends⟩

end ManifestStore

end Historian
