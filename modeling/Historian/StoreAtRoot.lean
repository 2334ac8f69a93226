import Historian.ActiveRoot
import Historian.RootRun
import Historian.WorkerSizes

namespace Historian

open Wire Checks Files

/-- An open store whose journal is durable up to the cutoff of its root. -/
structure ManifestStore.AtRoot (store : ManifestStore) : Prop where
  cutoff : store.journal.durableCutoff = store.current.cutoff
  header : journalV1HeaderLen ≤ store.current.cutoff.endOffset.val

/-- What a usable store is, however its methods ended. -/
def ManifestStore.UsableAtRoot (store : ManifestStore) : Prop :=
  store.ensureUsable = .ok () → store.AtRoot

section Opening

theorem yields_openManifestRoot (config : ActiveJournalConfig) (root : DurableCutoff) :
    Action.Yields (ActiveJournal.openManifestRoot config root) fun opened =>
      opened.1.durableCutoff = root ∧ journalV1HeaderLen ≤ root.endOffset.val := by
  unfold ActiveJournal.openManifestRoot
  refine yields_bind (Q := fun _ => config.recoveryPolicy = .strict) ?_ ?_
  · intro d x hx
    have hchecked := refuse_ok.mp hx
    simp only [not_or, not_not] at hchecked
    exact hchecked.2.1
  · intro _ hpolicy
    rw [hpolicy, openExisting_root]
    intro d opened hopened
    obtain ⟨journal, plan⟩ := opened
    obtain ⟨file, checkpoint, state, suffix, -, -, -, -, hroot, hholds, hjournal, -⟩ :=
      readRoot_ok.mp hopened
    obtain ⟨body, -, -, hend⟩ := hholds.holds
    have hcutoff : journal.durableCutoff = root := by
      rw [hjournal, hroot]
      rfl
    exact ⟨hcutoff, by omega⟩

theorem ManifestStore.AtRoot.adoptRecovery {store : ManifestStore} (h : store.AtRoot)
    {recovery : RecoveryCommit} (hplan : store.RecoveryCommitPlan recovery)
    (inventory : RecoveryInventoryState) (plan : Option ActiveRecoveryPlan) :
    Action.Yields (store.commitRecovery inventory plan recovery) ManifestStore.AtRoot := by
  rw [ManifestStore.commitRecovery_eq]
  refine yields_then fun _ => yields_then fun _ => yields_then fun slot => ?_
  unfold ManifestStore.adoptRecovery
  refine yields_then fun _ => yields_then fun _ => yields_then fun _ => yields_pure ?_
  have hcutoff : recovery.manifest.record.cutoff = store.current.cutoff := by rw [hplan.record]
  refine ⟨?_, ?_⟩
  · exact h.cutoff.trans hcutoff.symm
  · change _ ≤ recovery.manifest.record.cutoff.endOffset.val
    rw [hcutoff]
    exact h.header

theorem yields_openCommitted_atRoot (config : ManifestStoreConfig) (manifestSlots : ManifestSlots)
    (currentSlot : Fin 2) (current : ManifestRecord) (rotationIntent : Option RotationIntent) :
    Action.Yields (openCommitted config manifestSlots currentSlot current rotationIntent)
      ManifestStore.AtRoot := by
  unfold openCommitted
  refine yields_then fun activeConfig => ?_
  refine yields_bind (yields_mapError (yields_openManifestRoot activeConfig _)) ?_
  rintro ⟨journal, recoveryPlan⟩ ⟨hcutoff, hheader⟩
  refine yields_bind (Q := fun read => read.store.AtRoot) ?_ ?_
  · intro d read hread
    obtain ⟨-, -, -, -, -, hcurrent, hjournal, -⟩ := readCommitted_ok hread
    refine ⟨?_, ?_⟩
    · rw [hjournal, hcurrent]
      exact hcutoff
    · rw [hcurrent]
      exact hheader
  · intro read hread
    unfold ManifestStore.convergeRecovery
    refine yields_bind (Q := fun found => ∀ recovery, found = some recovery →
      read.store.RecoveryCommitPlan recovery) ?_ ?_
    · intro d found hfound recovery hrecovery
      subst hrecovery
      exact ManifestStore.planRecovery_some hfound
    · intro found hfound
      cases found with
      | none => exact yields_then fun _ => yields_pure hread
      | some recovery => exact hread.adoptRecovery (hfound recovery rfl) _ _

/-- A store is opened at the cutoff of its root. -/
theorem yields_open_atRoot (config : ManifestStoreConfig) :
    Action.Yields (ManifestStore.open config) ManifestStore.AtRoot := by
  unfold ManifestStore.open
  refine yields_then fun inventory => yields_then fun converged => ?_
  unfold openRoot
  refine yields_then fun selected => ?_
  rcases selected with _ | ⟨currentSlot, current⟩
  · unfold initializeGenesis
    refine yields_then fun _ => yields_then fun journal => ?_
    refine yields_bind (Q := fun _ => journal.durableCutoff = genesisPlaceholder config.storeId)
      ?_ ?_
    · intro d x hx
      have hchecked := refuse_ok.mp hx
      simp only [not_or, not_not] at hchecked
      exact hchecked.2
    · intro _ hcutoff
      refine yields_then fun _ => yields_then fun _ => yields_then fun _ => ?_
      refine yields_then fun _ => yields_then fun _ => yields_pure ⟨rfl, ?_⟩
      change _ ≤ journal.durableCutoff.endOffset.val
      rw [hcutoff]
      exact Nat.le_refl _
  · refine yields_then fun _ => ?_
    exact yields_bind (yields_openCommitted_atRoot config _ _ _ _) fun store hstore =>
      yields_then fun _ => yields_pure hstore

end Opening

section Methods

variable {store : ManifestStore} {d : StoreDirectory}

theorem ManifestStore.usableAtRoot_terminal (error : ManifestStoreError) :
    (store.recordTerminalError error).UsableAtRoot := by
  intro husable
  exact absurd husable (ManifestStore.recordTerminalError_unusable store error)

theorem ManifestStore.AtRoot.recordActiveError (h : store.AtRoot) :
    store.recordActiveError.UsableAtRoot := by
  intro _
  unfold ManifestStore.recordActiveError
  split
  next => exact h
  next => exact ⟨h.cutoff, h.header⟩

theorem yields_journalAppend_cutoff (journal : ActiveJournal) (frame : PreparedFrameV1) :
    Action.Yields (journal.append frame)
      fun appended => appended.2.durableCutoff = journal.durableCutoff := by
  unfold ActiveJournal.append
  refine yields_then fun _ => yields_then fun _ => yields_then fun _ => yields_then fun _ => ?_
  refine yields_then fun _ => yields_then fun _ => yields_then fun _ => yields_then fun _ => ?_
  exact yields_then fun _ => yields_then fun _ => yields_pure rfl

/-- A journal is durable up to the cutoff that its synchronisation returns. -/
theorem yields_journalSync_cutoff (journal : ActiveJournal) :
    Action.Yields journal.syncPending fun synced => synced.2.durableCutoff = synced.1 := by
  unfold ActiveJournal.syncPending
  refine yields_then fun _ => ?_
  split
  next => exact yields_pure rfl
  next => exact yields_then fun _ => yields_then fun _ => yields_then fun _ => yields_pure rfl

theorem yields_publishAndAdopt_current (prepared : PreparedManifestPublication) :
    Action.Yields (store.publishAndAdoptPreparedManifest prepared)
      fun adopted => adopted.journal = store.journal ∧ adopted.current = prepared.record := by
  unfold ManifestStore.publishAndAdoptPreparedManifest
  refine yields_then fun _ => yields_then fun _ => yields_then fun _ => yields_then fun _ => ?_
  exact yields_pure ⟨rfl, rfl⟩

theorem ManifestStore.AtRoot.append (h : store.AtRoot) (frame : PreparedFrameV1) :
    (store.append frame d).store.UsableAtRoot := by
  unfold ManifestStore.append
  split
  next => exact fun _ => h
  next =>
    refine ManifestStore.attempt_leaves (yields_mapError (yields_journalAppend_cutoff _ _)) ?_ ?_ d
    · intro error
      exact h.recordActiveError
    · intro appended d' happended _
      exact ⟨happended.trans h.cutoff, h.header⟩

theorem ManifestStore.AtRoot.syncPending (h : store.AtRoot) (pending : List PendingRetryOutcome) :
    (store.syncPending pending d).store.UsableAtRoot := by
  unfold ManifestStore.syncPending
  split
  next => exact fun _ => h
  next => exact fun _ => h
  next plan hplan =>
    obtain ⟨-, -, cutoff, -, -, hprepared⟩ := ManifestStore.planSync_some hplan
    have hpending := ManifestStore.prepareSyncedPending_ok hprepared
    obtain ⟨-, hbehind, -, -⟩ := validatePendingRetry_behind hpending.accepted
    have hrecord : plan.manifest.record.cutoff = cutoff := by rw [hpending.record]
    have hheader := h.header
    rw [Fin.lt_def] at hbehind
    refine ManifestStore.attempt_leaves (yields_mapError (yields_journalSync_cutoff _)) ?_ ?_ d
    · intro error
      exact h.recordActiveError
    · intro synced d' hsynced
      refine ManifestStore.attempt_leaves (R := fun adopted : ManifestStore => adopted.AtRoot)
        ?_ (fun error => ManifestStore.usableAtRoot_terminal error) (fun _ _ hadopted _ => hadopted)
        d'
      refine yields_bind (Q := fun _ => synced.1 = plan.cutoff) ?_ ?_
      · intro d x hx
        exact not_not.mp (refuse_ok.mp hx)
      · intro _ hreached
        unfold ManifestStore.commitSyncedPending
        refine yields_then fun _ => yields_bind (yields_publishAndAdopt_current _) ?_
        intro adopted hadopted
        refine yields_pure ⟨?_, ?_⟩
        · change adopted.journal.durableCutoff = adopted.current.cutoff
          rw [hadopted.1, hadopted.2, hrecord]
          exact hsynced.trans (hreached.trans hpending.reached)
        · change _ ≤ adopted.current.cutoff.endOffset.val
          rw [hadopted.2, hrecord]
          omega

theorem ManifestStore.AtRoot.applyRegistry {α : Type} (h : store.AtRoot)
    (operation : SeriesRegistry → Except ModelError (α × SeriesRegistry)) :
    (store.applyRegistry operation d).store.UsableAtRoot := by
  unfold ManifestStore.applyRegistry
  split
  next => exact fun _ => h
  next => exact fun _ => h
  next output candidate registry manifest hplan =>
    have hrecord : manifest.record.cutoff = store.journal.durableCutoff := by
      rw [(ManifestStore.planRegistry_publish hplan).1.record]
    refine ManifestStore.attempt_leaves (R := fun adopted : ManifestStore => adopted.AtRoot)
      ?_ (fun error => ManifestStore.usableAtRoot_terminal error) (fun _ _ hadopted _ => hadopted) d
    unfold ManifestStore.publishRegistry
    refine yields_then fun _ => yields_bind (yields_publishAndAdopt_current _) ?_
    intro adopted hadopted
    refine yields_pure ⟨?_, ?_⟩
    · change adopted.journal.durableCutoff = adopted.current.cutoff
      rw [hadopted.1, hadopted.2, hrecord]
    · change _ ≤ adopted.current.cutoff.endOffset.val
      rw [hadopted.2, hrecord, h.cutoff]
      exact h.header

theorem ManifestStore.AtRoot.rotate (h : store.AtRoot) : (store.rotate d).store.UsableAtRoot := by
  unfold ManifestStore.rotate
  split
  next => exact fun _ => h
  next plan hplan =>
    rw [bind_ok] at hplan
    obtain ⟨-, -, hplan⟩ := hplan
    have hrotation := ManifestStore.prepareRotation_ok hplan
    have hpart : Action.Yields (store.publishRotation plan) ManifestStore.AtRoot := by
      unfold ManifestStore.publishRotation
      refine yields_then fun _ => yields_then fun _ => yields_then fun successor => ?_
      refine yields_bind (Q := fun _ =>
        successor.durableCutoff = plan.manifest.record.cutoff) ?_ ?_
      · intro d x hx
        exact not_not.mp (refuse_ok.mp hx)
      · intro _ hsuccessor
        refine yields_then fun _ => yields_then fun _ => yields_pure ⟨hsuccessor, ?_⟩
        change _ ≤ plan.manifest.record.cutoff.endOffset.val
        rw [hrotation.record]
        exact Nat.le_refl _
    refine ManifestStore.attempt_leaves hpart
      (fun error => ManifestStore.usableAtRoot_terminal error) ?_ d
    intro adopted d' hadopted
    refine ManifestStore.attempt_leaves (R := fun _ => True) (fun _ _ _ => trivial) ?_ ?_ d'
    · exact fun error => ManifestStore.usableAtRoot_terminal error
    · exact fun _ _ _ _ => hadopted

/-- No method leaves a usable store anywhere but at the cutoff of its root. -/
theorem ManifestStore.UsableAtRoot.run (h : store.UsableAtRoot) (op : StoreOp) :
    (op.run store d).store.UsableAtRoot := by
  cases hstate : store.ensureUsable with
  | error e =>
    rw [(ManifestStore.run_unusable hstate op d).1]
    exact h
  | ok =>
    have hroot := h hstate
    cases op with
    | append frame => exact hroot.append frame
    | syncPending pending => exact hroot.syncPending pending
    | register => exact hroot.applyRegistry _
    | revise => exact hroot.applyRegistry _
    | retire => exact hroot.applyRegistry _
    | rotate => exact hroot.rotate

end Methods

theorem StoreState.Reachable.usableAtRoot {config : ManifestStoreConfig} {store : ManifestStore}
    {d : StoreDirectory} (h : StoreState.Reachable config (.running store d)) :
    store.UsableAtRoot := by
  generalize hstate : StoreState.running store d = state at h
  induction h generalizing store d with
  | fresh => cases hstate
  | @opened d mode found effects before opens _ =>
    cases hstate
    intro _
    exact yields_open_atRoot { config with mode := mode } d found (by rw [opens])
  | openStopped => cases hstate
  | @stepped found d op before allowed ih =>
    cases hstate
    exact (ih rfl).run op
  | stepStopped => cases hstate
  | torn => cases hstate

end Historian
