import Historian.RootAvoid

namespace Historian

open Wire Checks Files

theorem retryReferenceProgresses_refl (reference : RetryArtifactReference) :
    retryReferenceProgresses reference reference = true := by
  simp [retryReferenceProgresses]

theorem catalogReferenceProgresses_refl (reference : Option GenerationCatalogReference) :
    catalogReferenceProgresses reference reference = true := by
  cases reference with
  | none => rfl
  | some reference => simp [catalogReferenceProgresses]

theorem recoveryReferenceProgresses_refl (reference : Option RecoveryReference) :
    recoveryReferenceProgresses reference reference = true := by
  cases reference with
  | none => rfl
  | some reference => simp [recoveryReferenceProgresses]

/-- A manifest that is published over a slot is what the directory then has in it. -/
theorem ManifestSlots.On.publish {slots : ManifestSlots} {storeId : StoreId} {d : StoreDirectory}
    {record : ManifestRecord} (h : slots.On storeId d) (hvalid : record.Valid storeId)
    (target : Fin 2) : (slots.set target record).On storeId
      (published d .manifestStaging (.manifest target) (encodeManifest record)) := by
  refine ⟨?_, ?_⟩
  · intro slot found hfound
    rw [lookup_published]
    rw [get_set] at hfound
    by_cases heq : slot = target
    · rw [if_pos heq, Option.some.injEq] at hfound
      rw [if_pos (congrArg Artifact.manifest heq), ← hfound]
      exact ⟨hvalid, rfl⟩
    · rw [if_neg heq] at hfound
      rw [if_neg (by simpa using heq), if_neg (by simp)]
      exact h.present slot found hfound
  · intro slot hnone
    rw [lookup_published]
    rw [get_set] at hnone
    by_cases heq : slot = target
    · rw [if_pos heq] at hnone
      cases hnone
    · rw [if_neg heq] at hnone
      rw [if_neg (by simpa using heq), if_neg (by simp)]
      exact h.absent slot hnone

theorem ManifestRecord.Held.published {root : ManifestRecord} {d : StoreDirectory}
    (h : root.Held d) (target : Fin 2) (bytes : Bytes) :
    root.Held (published d .manifestStaging (.manifest target) bytes) := by
  refine h.same ?_
  intro name hname
  rw [lookup_published, if_neg, if_neg]
  · rintro rfl
    exact hname
  · rintro rfl
    exact hname

section Files

variable {storeId : StoreId} {slots : ManifestSlots} {slot : Fin 2} {root : ManifestRecord}
  {d : StoreDirectory}

/-- A file that is published beside the names of the root has its own length and checksum, and
the root stays. -/
theorem RootedAt.publishFile {staging target : Artifact} {bytes : Bytes} {maximum : Nat}
    {verify : Bytes → Except ManifestStoreError Unit} (length : Nat)
    (h : RootedAt storeId slots slot root d) (hstaging : ¬root.Names staging)
    (htarget : ¬root.Names target)
    (hlength : bytes.length ≤ maximum → verify bytes = .ok () → bytes.length = length) :
    Action.Ensures (Kept storeId root) (publishReusableSlot staging target bytes maximum verify)
      (fun _ d' => RootedAt storeId slots slot root d' ∧
        Described d' target length (crc32c bytes)) d := by
  have hstaged : RootedAt storeId slots slot root (Effect.apply d (.put staging bytes)) := by
    refine h.same ?_
    intro name hname
    apply lookup_untouched
    rintro rfl
    exact hstaging hname
  have hdone : RootedAt storeId slots slot root (published d staging target bytes) := by
    refine h.same ?_
    intro name hname
    rw [lookup_published, if_neg, if_neg]
    · rintro rfl
      exact hstaging hname
    · rintro rfl
      exact htarget hname
  refine ensures_publishReusableSlot h.kept hstaged.kept (fun _ _ => hdone.kept) ?_
  intro hfits hverify
  exact ⟨hdone, bytes, by rw [lookup_published, if_pos rfl], hlength hfits hverify, rfl⟩

end Files

theorem val_ofNat_length {bytes : Bytes} {maximum : Nat} (hfits : bytes.length ≤ maximum)
    (hmaximum : maximum < 2 ^ 64) : (Fin.ofNat (2 ^ 64) bytes.length).val = bytes.length :=
  Nat.mod_eq_of_lt (by omega)

namespace ManifestStore

variable {store : ManifestStore} {storeId : StoreId} {d : StoreDirectory}

/-- The store holds the manifests of its directory, and its catalog is that of its root. -/
structure Rooted (store : ManifestStore) (storeId : StoreId) (d : StoreDirectory) : Prop where
  root : RootedAt storeId store.manifestSlots store.currentSlot store.current d
  catalog : store.catalog.reference = store.current.catalog

/-- The store behind the publication of a manifest. -/
def Adopts (store : ManifestStore) (record : ManifestRecord) (adopted : ManifestStore) : Prop :=
  adopted = store.adoptPublishedManifest (1 - store.currentSlot) record

theorem Rooted.kept (h : store.Rooted storeId d) : Kept storeId store.current d := h.root.kept

theorem Rooted.nextGeneration (h : store.Rooted storeId d) {record : ManifestRecord}
    (hgeneration : store.current.generation.val + 1 = record.generation.val) :
    record.generation ≠ 1 := by
  intro hone
  rw [hone] at hgeneration
  have hpositive := h.root.valid.generation
  have hzero : store.current.generation.val = 0 := by
    have h1 : (1 : U64).val = 1 := rfl
    omega
  exact hpositive (Fin.ext hzero)

/-- A manifest that the slots then select is published over one of them. -/
theorem ensures_publishPreparedManifest {P : StoreDirectory → Prop} {slots : ManifestSlots}
    {prepared : PreparedManifestPublication} (hstore : store.storeId = storeId)
    (hon : slots.On storeId d)
    (hselects : (slots.set prepared.target prepared.record).Selects prepared.target
      prepared.record)
    (hheld : prepared.record.Held d) (hbytes : prepared.bytes = encodeManifest prepared.record)
    (hP : P d) (hstaged : P (Effect.apply d (.put .manifestStaging prepared.bytes)))
    (hdone : ∀ d', RootedAt storeId (slots.set prepared.target prepared.record) prepared.target
      prepared.record d' → P d') :
    Action.Ensures P (store.publishPreparedManifest prepared)
      (fun slot d' => slot = prepared.target ∧
        RootedAt storeId (slots.set prepared.target prepared.record) prepared.target
          prepared.record d') d := by
  have hrooted : (do
      let decoded ← decodeManifest prepared.bytes store.storeId
      refuse (decoded ≠ prepared.record) .invalidManifest) = .ok () →
      RootedAt storeId (slots.set prepared.target prepared.record) prepared.target prepared.record
        (published d .manifestStaging (.manifest prepared.target) prepared.bytes) := by
    intro hverify
    rw [bind_ok] at hverify
    obtain ⟨decoded, hdecoded, hsame⟩ := hverify
    rw [refuse_ok, not_not] at hsame
    rw [hstore, hsame] at hdecoded
    have hvalid := (decodeManifest_ok.mp hdecoded).1
    rw [hbytes]
    exact ⟨hon.publish hvalid _, hselects, hheld.published _ _⟩
  unfold publishPreparedManifest
  refine ensures_bind (ensures_publishReusableSlot hP hstaged ?_ (Q := fun _ d' =>
    RootedAt storeId (slots.set prepared.target prepared.record) prepared.target prepared.record
      d') ?_) ?_
  · intro _ hverify
    exact hdone _ (hrooted hverify)
  · intro _ hverify
    exact hrooted hverify
  · intro _ d' hpublished
    exact ensures_pure (hdone d' hpublished) ⟨rfl, hpublished⟩

theorem Rooted.publishManifest (h : store.Rooted storeId d) {prepared : PreparedManifestPublication}
    (hprogress : RootProgresses store.current prepared.record) (hheld : prepared.record.Held d)
    (hbytes : prepared.bytes = encodeManifest prepared.record)
    (htarget : prepared.target = 1 - store.currentSlot) :
    Action.Ensures (Kept storeId store.current) (store.publishPreparedManifest prepared)
      (fun slot d' => slot = 1 - store.currentSlot ∧
        RootedAt storeId (store.manifestSlots.set slot prepared.record) slot prepared.record d')
      d := by
  have hstaged : RootedAt storeId store.manifestSlots store.currentSlot store.current
      (Effect.apply d (.put .manifestStaging prepared.bytes)) := by
    refine h.root.same ?_
    intro name hname
    apply lookup_untouched
    rintro rfl
    exact hname.rootFile
  have hselects : (store.manifestSlots.set prepared.target prepared.record).Selects
      prepared.target prepared.record := by
    rw [htarget]
    exact h.root.selects.publish hprogress
  have hensures := ensures_publishPreparedManifest h.root.valid.store h.root.on hselects hheld
    hbytes h.kept hstaged.kept fun d' hrooted => hrooted.keptBehind hprogress
  refine hensures.mono ?_
  rintro slot d' ⟨rfl, hrooted⟩
  exact ⟨htarget, hrooted⟩

/-- The manifest is published, and what no manifest refers to any more is removed. -/
theorem Rooted.publishAndAdopt (h : store.Rooted storeId d) {prepared : PreparedManifestPublication}
    (hprogress : RootProgresses store.current prepared.record) (hheld : prepared.record.Held d)
    (hbytes : prepared.bytes = encodeManifest prepared.record)
    (htarget : prepared.target = 1 - store.currentSlot) :
    Action.Ensures (Kept storeId store.current) (store.publishAndAdoptPreparedManifest prepared)
      (fun adopted d' => store.Adopts prepared.record adopted ∧
        RootedAt storeId adopted.manifestSlots adopted.currentSlot adopted.current d') d := by
  unfold publishAndAdoptPreparedManifest
  refine ensures_bind (h.publishManifest hprogress hheld hbytes htarget) ?_
  rintro slot d' ⟨rfl, hrooted⟩
  have hkept := fun d'' (hrooted : RootedAt storeId
      (store.manifestSlots.set (1 - store.currentSlot) prepared.record) (1 - store.currentSlot)
      prepared.record d'') => hrooted.keptBehind hprogress
  refine ensures_bind (hrooted.ensures (avoids_removeUnreferencedCatalogSlots hrooted.mem) hkept) ?_
  intro _ d' hrooted
  refine ensures_bind (hrooted.ensures (avoids_removeUnreferencedRetrySlots hrooted.mem) hkept) ?_
  intro _ d' hrooted
  refine ensures_bind
    (hrooted.ensures (avoids_removeUnreferencedRecoverySlots hrooted.mem _) hkept) ?_
  intro _ d' hrooted
  exact ensures_pure (hkept d' hrooted) ⟨rfl, hrooted⟩

section Batch

variable {cutoff : DurableCutoff} {pending : List PendingRetryOutcome} {plan : PendingCommitPlan}

theorem PendingPlan.unnamed (hplan : PendingPlan store cutoff pending plan) :
    plan.retryPublication.reference.state.slot ∉ store.manifestSlots.retrySlots :=
  (candidateSlot_ok hplan.slot).2

theorem PendingPlan.progresses (hplan : PendingPlan store cutoff pending plan)
    (h : store.Rooted storeId d) : RootProgresses store.current plan.manifest.record := by
  have hne : plan.retryPublication.reference.state.slot ≠ store.current.retry.state.slot := by
    intro heq
    exact hplan.unnamed (List.mem_map.mpr ⟨store.current, h.root.mem, heq.symm⟩)
  refine ⟨hplan.generation, ?_, ?_, ?_⟩
  · rw [hplan.record]
    have hgeneration := hplan.retryGeneration
    unfold retryReferenceProgresses
    rw [if_neg]
    · exact decide_eq_true ⟨hgeneration, hne⟩
    · intro heq
      have hval := congrArg Fin.val heq
      dsimp only at hval
      omega
  · rw [hplan.record]
    exact catalogReferenceProgresses_refl _
  · rw [hplan.record]
    exact recoveryReferenceProgresses_refl _

/-- A batch is committed under a root that keeps every other file. -/
theorem Rooted.commitSyncedPending (h : store.Rooted storeId d)
    (hplan : PendingPlan store cutoff pending plan) :
    Action.Ensures (Kept storeId store.current) (store.commitSyncedPending plan)
      (fun adopted d' => adopted.Rooted storeId d' ∧
        RootProgresses store.current adopted.current) d := by
  have hprogress := hplan.progresses h
  have hnames : ¬store.current.Names (.retry plan.retryPublication.reference.state.slot) := by
    intro hnamed
    have heq : plan.retryPublication.reference.state.slot = store.current.retry.state.slot :=
      hnamed.refers (by simp)
    exact hplan.unnamed (List.mem_map.mpr ⟨store.current, h.root.mem, heq.symm⟩)
  have hlength : plan.retryPublication.bytes.length ≤ maxRetryStateBytes →
      plan.retryPublication.bytes.length = plan.retryPublication.reference.length.val := by
    intro hfits
    rw [hplan.length]
    exact (val_ofNat_length hfits (by decide)).symm
  unfold ManifestStore.commitSyncedPending publishPreparedRetrySnapshot
  refine ensures_bind (h.root.publishFile _ (fun hnamed => hnamed.rootFile) hnames
    fun hfits _ => hlength hfits) ?_
  rintro _ d' ⟨hrooted, hretry⟩
  have hheld : plan.manifest.record.Held d' := by
    rw [hplan.record]
    refine ⟨hrooted.held.registry, ?_, hrooted.held.catalog, hrooted.held.recovery⟩
    dsimp only
    rw [hplan.checksum]
    exact hretry
  have hstore : store.Rooted storeId d' := ⟨hrooted, h.catalog⟩
  refine ensures_bind (hstore.publishAndAdopt hprogress hheld hplan.bytes
    (hplan.target (h.nextGeneration hplan.generation))) ?_
  rintro adopted d' ⟨rfl, hadopted⟩
  refine ensures_pure (hadopted.keptBehind hprogress) ⟨⟨hadopted, ?_⟩, hprogress⟩
  change store.catalog.reference = plan.manifest.record.catalog
  rw [hplan.record]
  exact h.catalog

end Batch

section Registry

variable {candidate : SeriesRegistry} {registry : PreparedRegistryPublication}
  {manifest : PreparedManifestPublication}

theorem RegistryCommitPlan.progresses
    (hplan : RegistryCommitPlan store candidate registry manifest) :
    RootProgresses store.current manifest.record := by
  refine ⟨hplan.generation, ?_, ?_, ?_⟩
  · rw [hplan.record]
    exact retryReferenceProgresses_refl _
  · rw [hplan.record]
    exact catalogReferenceProgresses_refl _
  · rw [hplan.record]
    exact recoveryReferenceProgresses_refl _

theorem Rooted.publishRegistry (h : store.Rooted storeId d)
    (hplan : RegistryCommitPlan store candidate registry manifest) :
    Action.Ensures (Kept storeId store.current) (store.publishRegistry candidate registry manifest)
      (fun adopted d' => adopted.Rooted storeId d' ∧
        RootProgresses store.current adopted.current) d := by
  have hnames : ¬store.current.Names (.registry registry.reference.slot) := by
    intro hnamed
    have heq : registry.reference.slot = store.current.registry.slot := hnamed.refers (by simp)
    exact hplan.unnamed (List.mem_map.mpr ⟨store.current, h.root.mem, heq.symm⟩)
  have hlength : registry.bytes.length ≤ maxRegistrySnapshotBytes →
      registry.bytes.length = registry.reference.length.val := by
    intro hfits
    rw [hplan.length]
    exact (val_ofNat_length hfits (by decide)).symm
  unfold ManifestStore.publishRegistry publishPreparedRegistrySnapshot
  refine ensures_bind (h.root.publishFile _ (fun hnamed => hnamed.rootFile) hnames
    fun hfits _ => hlength hfits) ?_
  rintro _ d' ⟨hrooted, hregistry⟩
  have hheld : manifest.record.Held d' := by
    rw [hplan.record]
    refine ⟨?_, hrooted.held.retry, hrooted.held.catalog, hrooted.held.recovery⟩
    dsimp only
    rw [hplan.checksum]
    exact hregistry
  have hstore : store.Rooted storeId d' := ⟨hrooted, h.catalog⟩
  refine ensures_bind (hstore.publishAndAdopt hplan.progresses hheld hplan.bytes
    (hplan.target (h.nextGeneration hplan.generation))) ?_
  rintro adopted d' ⟨rfl, hadopted⟩
  refine ensures_pure (hadopted.keptBehind hplan.progresses) ⟨⟨hadopted, ?_⟩, hplan.progresses⟩
  change store.catalog.reference = manifest.record.catalog
  rw [hplan.record]
  exact h.catalog

end Registry

section Rotation

variable {plan : RotationPlan}

theorem RotationCommitPlan.unnamed (hplan : RotationCommitPlan store d plan)
    {reference : GenerationCatalogReference} (hreference : plan.catalog.snapshot.reference =
      some reference) : reference.slot ∉ store.manifestSlots.catalogSlots := by
  obtain ⟨found, hfound, hslot, -⟩ := hplan.reference
  rw [hreference, Option.some.injEq] at hfound
  rw [hfound]
  exact (candidateSlot_ok hslot).2

theorem mem_catalogSlots {slots : ManifestSlots} {root : ManifestRecord}
    (hroot : root ∈ slots.retained) {reference : GenerationCatalogReference}
    (hreference : root.catalog = some reference) : reference.slot ∈ slots.catalogSlots := by
  refine List.mem_filterMap.mpr ⟨root, hroot, ?_⟩
  rw [hreference]
  rfl

theorem RotationCommitPlan.progresses (hplan : RotationCommitPlan store d plan)
    {d' : StoreDirectory} (h : store.Rooted storeId d') :
    RootProgresses store.current plan.manifest.record := by
  obtain ⟨reference, hreference, hslot, -, -, -, hnext⟩ := hplan.reference
  rw [h.catalog] at hnext
  refine ⟨hplan.generation, ?_, ?_, ?_⟩
  · rw [hplan.record]
    exact retryReferenceProgresses_refl _
  · rw [hplan.record]
    dsimp only
    rw [hreference]
    cases hcatalog : store.current.catalog with
    | none =>
      rw [hcatalog, nextCatalogGeneration, Option.some.injEq] at hnext
      exact decide_eq_true hnext.symm
    | some older =>
      rw [hcatalog, nextCatalogGeneration, checkedAdd_eq_some] at hnext
      have hne : older.slot ≠ reference.slot := by
        intro heq
        have hmem := mem_catalogSlots h.root.mem hcatalog
        rw [heq] at hmem
        exact (candidateSlot_ok hslot).2 hmem
      unfold catalogReferenceProgresses
      dsimp only
      rw [if_neg]
      · exact decide_eq_true ⟨hnext, hne⟩
      · intro heq
        have hval := congrArg Fin.val heq
        omega
  · rw [hplan.record]
    exact recoveryReferenceProgresses_refl _

/-- Up to its commit a rotation writes beside the files of the root. -/
theorem Rooted.publishRotation (h : store.Rooted storeId d)
    (hplan : RotationCommitPlan store d plan) :
    Action.Ensures (Kept storeId store.current) (store.publishRotation plan)
      (fun adopted d' => adopted.Rooted storeId d' ∧
        RootProgresses store.current adopted.current) d := by
  have hprogress := hplan.progresses h
  have hfile : ∀ name, store.current.Names name → name.IsRootFile := fun _ hname => hname.rootFile
  have hkept : ∀ d', RootedAt storeId store.manifestSlots store.currentSlot store.current d' →
      Kept storeId store.current d' := fun _ hrooted => hrooted.kept
  obtain ⟨reference, hreference, hslot, hnumber, hlength, hchecksum, -⟩ := hplan.reference
  have hnames : ¬store.current.Names (.catalog reference.slot) := by
    intro hnamed
    obtain ⟨named, hnamed, heq⟩ := hnamed.refers (by simp)
    have hmem := mem_catalogSlots h.root.mem hnamed
    rw [← heq] at hmem
    exact (candidateSlot_ok hslot).2 hmem
  unfold ManifestStore.publishRotation
  refine ensures_bind (h.root.ensures (avoids_publishRotationIntent hfile _) hkept) ?_
  intro _ d' hrooted
  refine ensures_bind (hrooted.ensures (avoids_publishSealedGeneration hfile _ _) hkept) ?_
  intro _ d' hrooted
  refine ensures_bind (hrooted.ensures (avoids_mapError (avoids_openJournal hfile _)) hkept) ?_
  intro successor d' hrooted
  refine ensures_ensure_bind hrooted.kept ?_
  intro _ _
  unfold publishPreparedCatalogSnapshot
  rw [hreference]
  refine ensures_bind (ensures_ensure_bind hrooted.kept fun found hfound => ?_) ?_
    (R := fun _ d' => RootedAt storeId store.manifestSlots store.currentSlot store.current d' ∧
      Described d' (.catalog reference.slot) reference.length.val reference.checksum)
  · cases hfound
    rw [hchecksum]
    refine hrooted.publishFile _ (fun hnamed => hnamed.rootFile) hnames fun hfits _ => ?_
    rw [hlength]
    exact (val_ofNat_length hfits (by decide)).symm
  rintro _ d' ⟨hrooted, hcatalog⟩
  have hheld : plan.manifest.record.Held d' := by
    rw [hplan.record]
    refine ⟨hrooted.held.registry, hrooted.held.retry, ?_, hrooted.held.recovery⟩
    intro found hfound
    dsimp only at hfound
    rw [hreference, Option.mem_some_iff] at hfound
    rw [← hfound]
    exact hcatalog
  have hstore : store.Rooted storeId d' := ⟨hrooted, h.catalog⟩
  refine ensures_bind (hstore.publishManifest hprogress hheld hplan.bytes
    (hplan.target (h.nextGeneration hplan.generation))) ?_
  rintro slot d' ⟨rfl, hadopted⟩
  refine ensures_pure (hadopted.keptBehind hprogress) ⟨⟨hadopted, ?_⟩, hprogress⟩
  change plan.catalog.snapshot.reference = plan.manifest.record.catalog
  rw [hplan.record]

/-- Behind its commit a rotation removes nothing that a manifest refers to. -/
theorem Rooted.finishRotation (h : store.Rooted storeId d) {before : ManifestRecord}
    (hprogress : RootProgresses before store.current) (sourceGeneration : U64) :
    Action.Ensures (Kept storeId before) (store.finishRotation sourceGeneration)
      (fun _ d' => store.Rooted storeId d') d := by
  have hfile : ∀ name, store.current.Names name → name.IsRootFile := fun _ hname => hname.rootFile
  have hkept : ∀ d', RootedAt storeId store.manifestSlots store.currentSlot store.current d' →
      Kept storeId before d' := fun _ hrooted => hrooted.keptBehind hprogress
  unfold ManifestStore.finishRotation
  refine ensures_bind (h.root.ensures (avoids_cleanupCommittedRotation hfile _) hkept) ?_
  intro _ d' hrooted
  refine ensures_bind (hrooted.ensures (avoids_removeUnreferencedCatalogSlots hrooted.mem) hkept) ?_
  intro _ d' hrooted
  refine ensures_bind (hrooted.ensures (avoids_removeUnreferencedRetrySlots hrooted.mem) hkept) ?_
  intro _ d' hrooted
  refine (hrooted.ensures (avoids_removeUnreferencedRecoverySlots hrooted.mem _) hkept).mono ?_
  intro _ d' hrooted
  exact ⟨hrooted, h.catalog⟩

end Rotation

end ManifestStore

end Historian
