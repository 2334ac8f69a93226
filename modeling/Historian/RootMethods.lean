import Historian.RootPublication

namespace Historian

open Wire Checks Files

/-- At every stop of the method the directory satisfies `P`, and its end satisfies `Q`. -/
structure Answer.Keeps {α : Type} (answer : Answer α) (P : StoreDirectory → Prop)
    (Q : ManifestStore → StoreDirectory → Prop) (d : StoreDirectory) : Prop where
  throughout : Throughout P d answer.effects
  ends : Q answer.store (applyAll d answer.effects)

namespace ManifestStore

variable {store : ManifestStore} {storeId : StoreId} {d : StoreDirectory}
  {P : StoreDirectory → Prop} {Q : ManifestStore → StoreDirectory → Prop}

theorem keeps_refused {α : Type} {error : ManifestStoreError} (hP : P d) (hQ : Q store d) :
    (store.refused error : Answer α).Keeps P Q d := ⟨hP, hQ⟩

theorem keeps_settled {α : Type} {output : α} (hP : P d) (hQ : Q store d) :
    (store.settled output).Keeps P Q d := ⟨hP, hQ⟩

/-- A part with an invariant of its own, and then the rest of the method. -/
theorem keeps_attempt {α β : Type} {onError : ManifestStoreError → ManifestStore}
    {part : StoreAction β} {next : β → StoreDirectory → Answer α} {I : StoreDirectory → Prop}
    {R : β → StoreDirectory → Prop} (hpart : Action.Ensures I part R d)
    (hI : ∀ d', I d' → P d') (herror : ∀ error d', I d' → Q (onError error) d')
    (hnext : ∀ x d', R x d' → (next x d').Keeps P Q d') :
    (attempt onError part next d).Keeps P Q d := by
  obtain ⟨hthroughout, hresult⟩ := hpart
  unfold attempt
  rcases h : part d with ⟨r, effects⟩
  rw [h] at hthroughout hresult
  cases r with
  | error e => exact ⟨hthroughout.mono hI, herror e _ hthroughout.after⟩
  | ok x =>
    obtain ⟨hrest, hends⟩ := hnext x _ (hresult x rfl)
    refine ⟨throughout_append.mpr ⟨hthroughout.mono hI, hrest⟩, ?_⟩
    rw [applyAll_append]
    exact hends

/-- A usable store holds the manifests of its directory. -/
def UsableRooted (storeId : StoreId) (store : ManifestStore) (d : StoreDirectory) : Prop :=
  store.ensureUsable = .ok () → store.Rooted storeId d

theorem Rooted.recordActiveError (h : store.Rooted storeId d) :
    store.recordActiveError.Rooted storeId d := by
  unfold ManifestStore.recordActiveError
  split
  next => exact h
  next => exact ⟨h.root, h.catalog⟩

theorem recordTerminalError_unusable (store : ManifestStore) (error : ManifestStoreError) :
    (store.recordTerminalError error).ensureUsable ≠ .ok () := by
  unfold recordTerminalError ensureUsable
  dsimp only
  split
  next hwritable =>
    split at hwritable
    next => cases hwritable
    next => cases hwritable
  next => exact fun h => nomatch h
  next => exact fun h => nomatch h

theorem usableRooted_terminal (error : ManifestStoreError) (d : StoreDirectory) :
    UsableRooted storeId (store.recordTerminalError error) d :=
  fun husable => absurd husable (recordTerminalError_unusable store error)

theorem Rooted.ensures {ε α : Type} {a : Action Artifact Bytes ε α} (h : store.Rooted storeId d)
    (havoids : ∀ {S : Artifact → Prop}, (∀ name, S name → name.IsRootFile) → a.Avoids S) :
    Action.Ensures (store.Rooted storeId) a (fun _ d' => store.Rooted storeId d') d := by
  have hensures := h.root.ensures (havoids fun _ (hname : store.current.Names _) => hname.rootFile)
    fun d' hrooted => (⟨hrooted, h.catalog⟩ : store.Rooted storeId d')
  exact hensures.mono fun _ d' hrooted => ⟨hrooted, h.catalog⟩

theorem Rooted.keeps_append (h : store.Rooted storeId d) (frame : PreparedFrameV1) :
    (store.append frame d).Keeps (Kept storeId store.current) (UsableRooted storeId) d := by
  unfold ManifestStore.append
  split
  next => exact keeps_refused h.kept fun _ => h
  next =>
    refine keeps_attempt (h.ensures fun hS => avoids_mapError (avoids_journalAppend hS _ _))
      (fun _ hrooted => hrooted.kept) ?_ ?_
    · intro _ d' hrooted _
      exact hrooted.recordActiveError
    · intro appended d' hrooted
      exact keeps_settled hrooted.kept fun _ => ⟨hrooted.root, hrooted.catalog⟩

theorem planSync_some {pending : List PendingRetryOutcome} {plan : PendingCommitPlan}
    (h : store.planSync pending = .ok (some plan)) :
    store.ensureUsable = .ok () ∧ pending.length ≤ maxPersistedRetryEntries ∧
      ∃ cutoff, store.journal.pendingDurableCutoff = .ok cutoff ∧ cutoff ≠ store.current.cutoff ∧
        store.prepareSyncedPending cutoff pending = .ok plan := by
  unfold planSync at h
  simp only [bind_ok, exists_unit, refuse_ok, mapError_ok, Nat.not_lt] at h
  obtain ⟨husable, hlen, cutoff, hcutoff, h⟩ := h
  split at h
  next =>
    simp only [bind_ok, exists_unit, pure_ok, reduceCtorEq, and_false] at h
  next hne =>
    simp only [bind_ok, pure_ok, Option.some.injEq] at h
    obtain ⟨found, hfound, rfl⟩ := h
    exact ⟨husable, hlen, cutoff, hcutoff, hne, hfound⟩

theorem Rooted.keeps_syncPending (h : store.Rooted storeId d)
    (pending : List PendingRetryOutcome) :
    (store.syncPending pending d).Keeps (Kept storeId store.current) (UsableRooted storeId) d := by
  unfold ManifestStore.syncPending
  split
  next => exact keeps_refused h.kept fun _ => h
  next => exact keeps_settled h.kept fun _ => h
  next plan hplan =>
    obtain ⟨-, -, cutoff, -, -, hprepared⟩ := planSync_some hplan
    have hpending := prepareSyncedPending_ok hprepared
    refine keeps_attempt (h.ensures fun hS => avoids_mapError (avoids_journalSync hS _))
      (fun _ hrooted => hrooted.kept) ?_ ?_
    · intro _ d' hrooted _
      exact hrooted.recordActiveError
    · intro synced d' hrooted
      -- the new checkpoint changes nothing that the plan or the root depends on
      have hsynced : ({ store with journal := synced.2 } : ManifestStore).Rooted storeId d' :=
        ⟨hrooted.root, hrooted.catalog⟩
      have hplan : PendingPlan { store with journal := synced.2 } cutoff pending plan :=
        ⟨hpending.accepted, hpending.reached, hpending.advance, hpending.slot,
          hpending.retryGeneration, hpending.encoded, hpending.length, hpending.checksum,
          hpending.generation, hpending.record, hpending.target, hpending.bytes⟩
      refine keeps_attempt (I := Kept storeId store.current)
        (ensures_ensure_bind hrooted.kept fun _ _ => hsynced.commitSyncedPending hplan)
        (fun _ hkept => hkept) (fun error d' _ => usableRooted_terminal error d') ?_
      rintro adopted d' ⟨hadopted, hprogress⟩
      exact keeps_settled (hadopted.root.keptBehind hprogress) fun _ => hadopted

theorem Rooted.keeps_applyRegistry {α : Type} (h : store.Rooted storeId d)
    (operation : SeriesRegistry → Except ModelError (α × SeriesRegistry)) :
    (store.applyRegistry operation d).Keeps (Kept storeId store.current) (UsableRooted storeId)
      d := by
  unfold ManifestStore.applyRegistry
  split
  next => exact keeps_refused h.kept fun _ => h
  next => exact keeps_settled h.kept fun _ => h
  next output candidate registry manifest hplan =>
    refine keeps_attempt (h.publishRegistry (planRegistry_publish hplan).1) (fun _ hkept => hkept)
      (fun error d' _ => usableRooted_terminal error d') ?_
    rintro adopted d' ⟨hadopted, hprogress⟩
    exact keeps_settled (hadopted.root.keptBehind hprogress) fun _ => hadopted

theorem Rooted.keeps_rotate (h : store.Rooted storeId d) :
    (store.rotate d).Keeps (Kept storeId store.current) (UsableRooted storeId) d := by
  unfold ManifestStore.rotate
  split
  next => exact keeps_refused h.kept fun _ => h
  next plan hplan =>
    rw [bind_ok] at hplan
    obtain ⟨-, -, hplan⟩ := hplan
    refine keeps_attempt (h.publishRotation (prepareRotation_ok hplan)) (fun _ hkept => hkept)
      (fun error d' _ => usableRooted_terminal error d') ?_
    rintro adopted d' ⟨hadopted, hprogress⟩
    refine keeps_attempt (hadopted.finishRotation hprogress _) (fun _ hkept => hkept)
      (fun error d' _ => usableRooted_terminal error d') ?_
    intro _ d' hfinished
    exact keeps_settled (hfinished.root.keptBehind hprogress) fun _ => hfinished

/-- Whatever a method of the store does, the root of before or its successor stays whole. -/
theorem Rooted.keeps_run (h : store.Rooted storeId d) (op : StoreOp) :
    (op.run store d).Keeps (Kept storeId store.current) (UsableRooted storeId) d := by
  cases op with
  | append frame =>
    obtain ⟨hthroughout, hends⟩ := h.keeps_append frame
    exact ⟨hthroughout, hends⟩
  | syncPending pending =>
    obtain ⟨hthroughout, hends⟩ := h.keeps_syncPending pending
    exact ⟨hthroughout, hends⟩
  | register seriesId binding payload evidence =>
    obtain ⟨hthroughout, hends⟩ := h.keeps_applyRegistry
      fun registry => registry.register seriesId binding payload evidence
    exact ⟨hthroughout, hends⟩
  | revise seriesId expectedRevision payload evidence =>
    obtain ⟨hthroughout, hends⟩ := h.keeps_applyRegistry
      fun registry => registry.revise seriesId expectedRevision payload evidence
    exact ⟨hthroughout, hends⟩
  | retire seriesId expectedRevision evidence =>
    obtain ⟨hthroughout, hends⟩ := h.keeps_applyRegistry
      fun registry => registry.retire seriesId expectedRevision evidence
    exact ⟨hthroughout, hends⟩
  | rotate =>
    obtain ⟨hthroughout, hends⟩ := h.keeps_rotate
    exact ⟨hthroughout, hends⟩

/-- A store that is not usable refuses every method. -/
theorem run_unusable {error : ManifestStoreError} (h : store.ensureUsable = .error error)
    (op : StoreOp) (d : StoreDirectory) :
    (op.run store d).store = store ∧ (op.run store d).effects = [] := by
  have hregistry : ∀ {α : Type}
      (operation : SeriesRegistry → Except ModelError (α × SeriesRegistry)),
      store.applyRegistry operation d = store.refused error := by
    intro α operation
    have hplan : store.planRegistry operation = .error error := by
      rw [planRegistry, h]
      rfl
    unfold applyRegistry
    rw [hplan]
  cases op with
  | append frame =>
    have hpreflight : store.preflightHistoricalDeclaration frame.admission.declaration =
        .error error := by
      rw [preflightHistoricalDeclaration, h]
      rfl
    simp only [StoreOp.run, Answer.forget, ManifestStore.append, hpreflight]
    exact ⟨rfl, rfl⟩
  | syncPending pending =>
    have hplan : store.planSync pending = .error error := by
      rw [planSync, h]
      rfl
    simp only [StoreOp.run, Answer.forget, ManifestStore.syncPending, hplan]
    exact ⟨rfl, rfl⟩
  | register =>
    simp only [StoreOp.run, Answer.forget, register, hregistry]
    exact ⟨rfl, rfl⟩
  | revise =>
    simp only [StoreOp.run, Answer.forget, revise, hregistry]
    exact ⟨rfl, rfl⟩
  | retire =>
    simp only [StoreOp.run, Answer.forget, retire, hregistry]
    exact ⟨rfl, rfl⟩
  | rotate =>
    simp only [StoreOp.run, Answer.forget, ManifestStore.rotate, h]
    exact ⟨rfl, rfl⟩

end ManifestStore

end Historian
