import Historian.IngressLine
import Historian.JournalRuns
import Historian.RetryCommits
import Historian.StoreAtRoot
import Historian.WriterSizes

namespace Historian

open Wire Checks Files IngressState

section Sequences

variable {store : ManifestStore} {d : StoreDirectory}

/-- An append of the journal takes the sequence behind the last one. -/
theorem yields_appendSequence (journal : ActiveJournal) {frame : PreparedFrameV1}
    (hbuilt : frame.Built) : Action.Yields (journal.append frame) fun appended =>
      journal.lastAppendSequence.val + 1 = frame.appendSequence.value.val ∧
        appended.2.lastAppendSequence = frame.appendSequence.value := by
  intro d appended happended
  rw [append_eq, run_ensure_bind] at happended
  cases hprepared : journal.prepareAppend frame with
  | error refusal =>
    rw [hprepared] at happended
    cases happended
  | ok prepared =>
    rw [hprepared] at happended
    dsimp only at happended
    rw [run_look_bind] at happended
    cases hfile : (readFile d (.activeJournal journal.identity.generation)).mapError
        ManifestRootOpenError.intoActive with
    | error refusal =>
      rw [hfile] at happended
      cases happended
    | ok file =>
      rw [hfile] at happended
      have htakes := ActiveJournal.prepareAppend_ok hprepared
      obtain ⟨previous, hdecode⟩ := htakes.decodes
      have hsame := Except.ok.inj happended
      rw [← hsame]
      refine ⟨htakes.follows, ?_⟩
      rw [JournalHistory.lastAppendSequence_pushed]
      exact hbuilt.sequence hdecode

theorem append_sequence {frame : PreparedFrameV1} (hbuilt : frame.Built) {endOffset : U64}
    (h : (store.append frame d).result = .ok endOffset) :
    store.journal.lastAppendSequence.val + 1 = frame.appendSequence.value.val ∧
      (store.append frame d).store.journal.lastAppendSequence = frame.appendSequence.value := by
  unfold ManifestStore.append at h ⊢
  split at h
  next => cases h
  next =>
    obtain ⟨appended, effects, hpart, -, heq⟩ := ManifestStore.attempt_ok h
    have hsequence := yields_mapError (f := ManifestStoreError.active)
      (yields_appendSequence store.journal hbuilt) d appended (by rw [hpart])
    rw [heq]
    exact hsequence

/-- A synchronisation of the journal changes its checkpoint, and not its end. -/
theorem yields_syncSequence (journal : ActiveJournal) : Action.Yields journal.syncPending
    fun synced => synced.2.lastAppendSequence = journal.lastAppendSequence := by
  intro d synced hsynced
  rw [syncPending_eq, run_ensure_bind] at hsynced
  cases hprepared : journal.prepareSync with
  | error refusal =>
    rw [hprepared] at hsynced
    cases hsynced
  | ok prepared =>
    rw [hprepared] at hsynced
    cases prepared with
    | none =>
      have hsame := Except.ok.inj hsynced
      rw [← hsame]
    | some next =>
      dsimp only at hsynced
      rw [run_look_bind] at hsynced
      cases hfile : (readFile d (.activeCheckpoint journal.identity.generation)).mapError
          ManifestRootOpenError.intoActive with
      | error refusal =>
        rw [hfile] at hsynced
        cases hsynced
      | ok file =>
        rw [hfile] at hsynced
        obtain ⟨-, hsequence, -⟩ := ActiveJournal.prepareSync_some hprepared
        have hsame := Except.ok.inj hsynced
        rw [← hsame]
        change lastSequence next.appendSequence journal.records = _
        rw [hsequence]
        unfold ActiveJournal.lastAppendSequence lastSequence
        cases journal.records.getLast? with
        | none => rfl
        | some record => rfl

theorem syncPending_sequence (pending : List PendingRetryOutcome) :
    (store.syncPending pending d).store.journal.lastAppendSequence =
      store.journal.lastAppendSequence := by
  unfold ManifestStore.syncPending
  split
  next => rfl
  next => rfl
  next plan _ =>
    refine ManifestStore.attempt_leaves (Q := fun other => other.journal.lastAppendSequence =
      store.journal.lastAppendSequence) (yields_mapError (yields_syncSequence _)) ?_ ?_ d
    · intro error
      rw [recordActiveError_journal]
    · intro synced d' hsynced
      refine ManifestStore.attempt_leaves
        (Q := fun other => other.journal.lastAppendSequence = store.journal.lastAppendSequence)
        (R := fun adopted : ManifestStore => adopted.journal.lastAppendSequence =
          store.journal.lastAppendSequence)
        (yields_then fun _ => ?_) (fun _ => hsynced) (fun _ _ hadopted => hadopted) d'
      unfold ManifestStore.commitSyncedPending
      refine yields_then fun _ => yields_bind (yields_publishAndAdopt _) fun adopted hadopted => ?_
      refine yields_pure ?_
      rw [hadopted]
      exact hsynced

/-- The successor of a rotation starts where the sealed generation ended. -/
theorem rotate_sequence : (store.rotate d).store.journal.lastAppendSequence =
    store.journal.lastAppendSequence := by
  unfold ManifestStore.rotate
  split
  next => rfl
  next plan hplan =>
    rw [bind_ok] at hplan
    obtain ⟨-, -, hplan⟩ := hplan
    have hcommit := ManifestStore.prepareRotation_ok hplan
    have hfloor : store.current.cutoff.appendSequence = store.journal.lastAppendSequence := by
      rw [hcommit.last, hcommit.root]
    have hadopts : Action.Yields (store.publishRotation plan) fun adopted =>
        adopted.journal.lastAppendSequence = store.journal.lastAppendSequence := by
      have hconfig := hcommit.config
      unfold ActiveJournalConfig.manifestGeneration at hconfig
      rw [then_ok, pure_ok] at hconfig
      unfold ManifestStore.publishRotation
      refine yields_then fun _ => yields_then fun _ => ?_
      refine yields_bind (yields_mapError (?_ : Action.Yields _ fun journal =>
        journal.lastAppendSequence = store.journal.lastAppendSequence)) ?_
      · rw [← hconfig.2, ← hfloor]
        change Action.Yields (ActiveJournal.createNew _ _ _) _
        unfold ActiveJournal.createNew
        refine yields_then fun _ => yields_then fun _ => yields_then fun _ => ?_
        exact yields_then fun _ => yields_pure rfl
      · intro successor hsuccessor
        refine yields_then fun _ => yields_then fun _ => yields_then fun _ => ?_
        exact yields_pure hsuccessor
    refine ManifestStore.attempt_leaves (Q := fun other => other.journal.lastAppendSequence =
      store.journal.lastAppendSequence) hadopts ?_ ?_ d
    · intro error
      rfl
    · intro adopted d' hadopted
      refine ManifestStore.attempt_leaves (Q := fun other => other.journal.lastAppendSequence =
        store.journal.lastAppendSequence) (R := fun _ => True) (fun _ _ _ => trivial) ?_ ?_ d'
      · intro error
        exact hadopted
      · intro _ _ _
        exact hadopted

end Sequences

section Opening

/-- The journal of a store ends at the append sequence of its root, and its retry state is
valid. -/
structure ManifestStore.StartsAtRoot (store : ManifestStore) : Prop where
  last : store.journal.lastAppendSequence = store.current.cutoff.appendSequence
  retry : validateState store.retry = .ok ()

theorem readCommitted_retry {config : ManifestStoreConfig} {slots : ManifestSlots} {slot : Fin 2}
    {current : ManifestRecord} {intent : Option RotationIntent} {journal : ActiveJournal}
    {plan : Option ActiveRecoveryPlan} {d : StoreDirectory} {read : CommittedRead}
    (h : readCommitted config slots slot current intent journal plan d = .ok read) :
    validateState read.store.retry = .ok () := by
  unfold readCommitted at h
  simp only [bind_ok, exists_unit] at h
  obtain ⟨registry, -, -, catalog, -, -, inventory, -, -, recoveryInventory, -, -, -, retry, hretry,
    -, -, h⟩ := h
  have hvalid := (ManifestStore.readReferencedRetry_valid hretry).state
  split at h
  next =>
    simp only [bind_ok, pure_ok] at h
    obtain ⟨report, -, rfl⟩ := h
    exact hvalid
  next =>
    simp only [bind_ok, pure_ok] at h
    obtain ⟨report, -, _, -, rfl⟩ := h
    exact hvalid

theorem yields_openManifestRoot_starts (config : ActiveJournalConfig) (root : DurableCutoff) :
    Action.Yields (ActiveJournal.openManifestRoot config root) fun opened =>
      opened.1.lastAppendSequence = root.appendSequence := by
  unfold ActiveJournal.openManifestRoot
  refine yields_bind (Q := fun _ => config.recoveryPolicy = .strict) ?_ ?_
  · intro d x hx
    have hchecked := refuse_ok.mp hx
    simp only [not_or, not_not] at hchecked
    exact hchecked.2.1
  · intro _ hpolicy
    rw [hpolicy, openExisting_root]
    intro d opened hopened
    obtain ⟨journal, plan⟩ := opened
    obtain ⟨file, checkpoint, state, suffix, -, -, -, -, hroot, hholds, hjournal, -⟩ :=
      readRoot_ok.mp hopened
    have hstate : journal.checkpointState.appendSequence = root.appendSequence := by
      rw [hjournal, hroot]
      rfl
    have hlast := hholds.last
    change lastSequence journal.checkpointState.appendSequence journal.records = _
    rw [hstate]
    unfold lastSequence at hlast ⊢
    cases hrecords : journal.records.getLast? with
    | none => rfl
    | some record =>
      rw [hrecords] at hlast
      exact hlast

theorem ManifestStore.StartsAtRoot.adoptRecovery {store : ManifestStore} (h : store.StartsAtRoot)
    {recovery : RecoveryCommit} (hplan : store.RecoveryCommitPlan recovery)
    (inventory : RecoveryInventoryState) (plan : Option ActiveRecoveryPlan) :
    Action.Yields (store.commitRecovery inventory plan recovery) ManifestStore.StartsAtRoot := by
  rw [ManifestStore.commitRecovery_eq]
  refine yields_then fun _ => yields_then fun _ => yields_then fun slot => ?_
  unfold ManifestStore.adoptRecovery
  refine yields_then fun _ => yields_then fun _ => yields_then fun _ => yields_pure ?_
  have hcutoff : recovery.manifest.record.cutoff = store.current.cutoff := by rw [hplan.record]
  refine ⟨?_, h.retry⟩
  change store.journal.lastAppendSequence = recovery.manifest.record.cutoff.appendSequence
  rw [hcutoff]
  exact h.last

theorem yields_openCommitted_starts (config : ManifestStoreConfig) (manifestSlots : ManifestSlots)
    (currentSlot : Fin 2) (current : ManifestRecord) (rotationIntent : Option RotationIntent) :
    Action.Yields (openCommitted config manifestSlots currentSlot current rotationIntent)
      ManifestStore.StartsAtRoot := by
  unfold openCommitted
  refine yields_then fun activeConfig => ?_
  refine yields_bind (yields_mapError (yields_openManifestRoot_starts activeConfig _)) ?_
  rintro ⟨journal, recoveryPlan⟩ hlast
  refine yields_bind (Q := fun read => read.store.StartsAtRoot) ?_ ?_
  · intro d read hread
    obtain ⟨-, -, -, -, -, hcurrent, hjournal, -⟩ := readCommitted_ok hread
    refine ⟨?_, readCommitted_retry hread⟩
    rw [hjournal, hcurrent]
    exact hlast
  · intro read hread
    unfold ManifestStore.convergeRecovery
    refine yields_bind (Q := fun found => ∀ recovery, found = some recovery →
      read.store.RecoveryCommitPlan recovery) ?_ ?_
    · intro d found hfound recovery hrecovery
      subst hrecovery
      exact ManifestStore.planRecovery_some hfound
    · intro found hfound
      cases found with
      | none => exact yields_then fun _ => yields_pure hread
      | some recovery => exact hread.adoptRecovery (hfound recovery rfl) _ _

/-- A store is opened with a journal that ends at its root. -/
theorem yields_open_starts (config : ManifestStoreConfig) :
    Action.Yields (ManifestStore.open config) ManifestStore.StartsAtRoot := by
  unfold ManifestStore.open
  refine yields_then fun inventory => yields_then fun converged => ?_
  unfold openRoot
  refine yields_then fun selected => ?_
  rcases selected with _ | ⟨currentSlot, current⟩
  · unfold initializeGenesis
    refine yields_then fun _ => yields_then fun journal => ?_
    refine yields_bind (Q := fun _ => journal.records = []) ?_ ?_
    · intro d x hx
      have hchecked := refuse_ok.mp hx
      simp only [not_or, not_not] at hchecked
      exact hchecked.1
    · intro _ hrecords
      refine yields_then fun _ => yields_then fun _ => ?_
      refine yields_bind (Q := fun retry => validateState retry = .ok ()) ?_ ?_
      · intro d retry hretry
        exact (ManifestStore.readReferencedRetry_valid hretry).state
      · intro retry hretry
        refine yields_then fun _ => yields_then fun _ => yields_pure ⟨?_, hretry⟩
        change lastSequence journal.checkpointState.appendSequence journal.records =
          journal.checkpointState.appendSequence
        rw [hrecords]
        rfl
  · refine yields_then fun _ => ?_
    exact yields_bind (yields_openCommitted_starts config _ _ _ _) fun store hstore =>
      yields_then fun _ => yields_pure hstore

end Opening

theorem IngressState.stopAll_stopAll (state : IngressState) :
    state.stopAll.stopAll = state.stopAll := by
  unfold IngressState.stopAll stopReceipts
  simp [LatestState.makeUnavailable]

/-- The sequence of the last frame in the worker's journal. -/
def StoreWorker.last (worker : StoreWorker) : Nat := worker.store.journal.lastAppendSequence.val

/-- What becomes of a group: it stays as it is, or it becomes durable as one batch. -/
inductive CommitsGroup (pending : List PendingDurable) (shared : IngressState) :
    List PendingDurable → IngressState → Prop
  | kept : CommitsGroup pending shared pending shared
  | batch (committed : ManifestCommit) (retry : RetryStateSnapshot)
      (accepted : (shared.completeDurableBatch (pending.map (·.batchEntry)) committed retry).1 =
        true) :
      CommitsGroup pending shared []
        (shared.completeDurableBatch (pending.map (·.batchEntry)) committed retry).2

/-- How a turn ends: with an output of which `Q` holds, or with the stop of a state of which `S`
holds. -/
structure Turn.Ends {α : Type} (turn : Turn α) (Q : α → StoreWorker → IngressState → Prop)
    (S : IngressState → Prop) : Prop where
  ok : ∀ output, turn.result = .ok output → Q output turn.worker turn.shared
  error : ∀ error, turn.result = .error error → ∃ before, S before ∧ turn.shared = before.stopAll

namespace Turn

variable {α β : Type} {worker : StoreWorker} {shared : IngressState}
  {Q R : α → StoreWorker → IngressState → Prop} {S : IngressState → Prop}

theorem ends_done {output : α} (h : Q output worker shared) :
    (Turn.done worker shared output).Ends Q S := by
  refine ⟨?_, ?_⟩
  · intro found hfound
    cases hfound
    exact h
  · intro error herror
    cases herror

theorem ends_failed {error : ManifestStoreError} (h : S shared) :
    (Turn.failed worker shared error : Turn α).Ends Q S := by
  refine ⟨?_, ?_⟩
  · intro output houtput
    cases houtput
  · intro _ _
    exact ⟨shared, h, rfl⟩

theorem ends_ofAnswer {answer : Answer α}
    (h : ∀ output, answer.result = .ok output →
      Q output { worker with store := answer.store } shared) (hshared : S shared) :
    (Turn.ofAnswer worker shared answer).Ends Q S := by
  unfold Turn.ofAnswer
  split
  next output houtput =>
    refine ⟨?_, ?_⟩
    · intro found hfound
      cases hfound
      exact h output houtput
    · intro error herror
      cases herror
  next =>
    refine ⟨?_, ?_⟩
    · intro output houtput
      cases houtput
    · intro _ _
      exact ⟨shared, hshared, rfl⟩

theorem Ends.mono {turn : Turn α} (h : turn.Ends Q S)
    (himplies : ∀ output worker shared, Q output worker shared → R output worker shared) :
    turn.Ends R S := ⟨fun output houtput => himplies _ _ _ (h.ok output houtput), h.error⟩

theorem Ends.andThen {turn : Turn α} (h : turn.Ends Q S) {d : StoreDirectory}
    {next : α → StoreWorker → IngressState → StoreDirectory → Turn β}
    {P : β → StoreWorker → IngressState → Prop}
    (hnext : ∀ output worker shared d, Q output worker shared →
      (next output worker shared d).Ends P S) : (turn.andThen d next).Ends P S := by
  unfold Turn.andThen
  split
  next error herror =>
    refine ⟨?_, ?_⟩
    · intro output houtput
      cases houtput
    · intro _ _
      exact h.error error herror
  next output houtput =>
    obtain ⟨hok, herror⟩ := hnext output turn.worker turn.shared (applyAll d turn.effects)
      (h.ok output houtput)
    exact ⟨hok, herror⟩

end Turn

namespace StoreWorker

variable {worker : StoreWorker} {shared : IngressState} {d : StoreDirectory}

/-- What the rest of a round changes neither in the order of the appends nor in the group. -/
def Keeps (worker : StoreWorker) (shared : IngressState) (next : StoreWorker)
    (after : IngressState) : Prop :=
  next.last = worker.last ∧ next.pending = worker.pending ∧ after = shared

/-- What a part of a round that may commit the group leaves. -/
def Flushes (worker : StoreWorker) (shared : IngressState) (next : StoreWorker)
    (after : IngressState) : Prop :=
  next.last = worker.last ∧ CommitsGroup worker.pending shared next.pending after

/-- A state that the runtime is in when its worker gives up. -/
def Reaches (worker : StoreWorker) (shared before : IngressState) : Prop :=
  ∃ pending, CommitsGroup worker.pending shared pending before

theorem reaches_self : worker.Reaches shared shared := ⟨worker.pending, .kept⟩

theorem Flushes.keeps {middle next : StoreWorker} {between after : IngressState}
    (h : worker.Flushes shared middle between) (hkeeps : middle.Keeps between next after) :
    worker.Flushes shared next after := by
  obtain ⟨hlast, hcommits⟩ := h
  obtain ⟨hsame, hpending, rfl⟩ := hkeeps
  refine ⟨hsame.trans hlast, ?_⟩
  rw [hpending]
  exact hcommits

theorem ends_flushPending (hbalanced : shared.Balanced) :
    (worker.flushPending shared d).Ends (fun _ => worker.Flushes shared)
      (worker.Reaches shared) := by
  unfold flushPending
  split
  next => exact Turn.ends_done ⟨rfl, .kept⟩
  next =>
    refine Turn.Ends.andThen (Q := fun _ => worker.Keeps shared)
      (Turn.ends_ofAnswer (fun _ _ => ⟨?_, rfl, rfl⟩) reaches_self) ?_
    · exact congrArg Fin.val (syncPending_sequence _)
    · rintro commit middle between d' ⟨hlast, hpending, rfl⟩
      unfold completeBatch
      rw [hpending]
      split
      next after haccepted =>
        have hcommits : CommitsGroup worker.pending between []
            (between.completeDurableBatch (worker.pending.map (·.batchEntry)) commit.1
              commit.2).2 := .batch commit.1 commit.2 (by rw [haccepted])
        rw [haccepted] at hcommits
        exact Turn.ends_done ⟨hlast, hcommits⟩
      next after hrefused =>
        rcases @completeDurableBatch_whole (fun _ => True) between hbalanced
          (worker.pending.map (·.batchEntry)) commit.1 commit.2 trivial with
          ⟨next, haccepted, -⟩ | hstopped
        · rw [haccepted] at hrefused
          cases hrefused
        · rw [hstopped] at hrefused
          cases hrefused
          refine ⟨?_, ?_⟩
          · intro output houtput
            cases houtput
          · intro error _
            exact ⟨between, reaches_self, stopAll_stopAll between⟩

theorem ends_rotate : (worker.rotate shared d).Ends (fun _ => worker.Keeps shared)
    (· = shared) := by
  unfold rotate
  refine Turn.Ends.andThen (Q := fun _ => worker.Keeps shared) (S := (· = shared))
    (Turn.ends_ofAnswer (fun _ _ => ⟨?_, rfl, rfl⟩) rfl) ?_
  · exact congrArg Fin.val rotate_sequence
  · intro commit middle between d' hkeeps
    exact Turn.ends_done hkeeps

/-- A rotation behind a part that may have committed the group. -/
theorem ends_thenRotate {turn : Turn Unit}
    (h : turn.Ends (fun _ => worker.Flushes shared) (worker.Reaches shared))
    {rotates : StoreWorker → Bool} :
    (turn.andThen d fun _ middle between d =>
      if rotates middle then middle.rotate between d else Turn.done middle between ()).Ends
        (fun _ => worker.Flushes shared) (worker.Reaches shared) := by
  refine h.andThen ?_
  intro _ middle between d' hflushes
  split
  next =>
    have hrotate := @ends_rotate middle between d'
    refine ⟨fun output houtput => hflushes.keeps (hrotate.ok output houtput), ?_⟩
    intro error herror
    obtain ⟨before, rfl, hstopped⟩ := hrotate.error error herror
    exact ⟨before, ⟨_, hflushes.2⟩, hstopped⟩
  next => exact Turn.ends_done hflushes

theorem ends_makeRoom (hbalanced : shared.Balanced) (demanded : Bool) :
    (worker.makeRoom demanded shared d).Ends (fun _ => worker.Flushes shared)
      (worker.Reaches shared) := by
  unfold makeRoom
  split
  next => exact @ends_thenRotate _ _ _ _ (ends_flushPending hbalanced) fun _ => true
  next => exact Turn.ends_done ⟨rfl, .kept⟩

theorem ends_commitGroup (hbalanced : shared.Balanced) (forced demanded : Bool) :
    (worker.commitGroup forced demanded shared d).Ends (fun _ => worker.Flushes shared)
      (worker.Reaches shared) := by
  unfold commitGroup
  refine @ends_thenRotate _ _ _ _ ?_ fun middle => demanded && middle.pending = []
  split
  next => exact ends_flushPending hbalanced
  next => exact Turn.ends_done ⟨rfl, .kept⟩

/-- What an append leaves: the frame takes the sequence behind the last one, whatever becomes of
the group before it. -/
def Appends (worker : StoreWorker) (shared : IngressState) (output : AppendResult)
    (next : StoreWorker) (after : IngressState) : Prop :=
  output.append.appendSequence.val = worker.last + 1 ∧ next.last = worker.last + 1 ∧
    CommitsGroup worker.pending shared next.pending after

theorem ends_appendFrame (slot : Nat) {frame : PreparedFrameV1} (hbuilt : frame.Built)
    (frameLen : Nat) : (worker.appendFrame slot frame frameLen shared d).Ends
      (fun output next after => output.append.appendSequence.val = worker.last + 1 ∧
        next.last = worker.last + 1 ∧ next.pending = worker.pending ∧ after = shared)
      (· = shared) := by
  unfold appendFrame
  refine Turn.Ends.andThen (Q := fun _ middle between =>
    worker.last + 1 = frame.appendSequence.value.val ∧
      middle.last = frame.appendSequence.value.val ∧ middle.pending = worker.pending ∧
      between = shared) (S := (· = shared)) (Turn.ends_ofAnswer ?_ rfl) ?_
  · intro endOffset hok
    obtain ⟨hfollows, hlast⟩ := append_sequence hbuilt hok
    exact ⟨hfollows, congrArg Fin.val hlast, rfl, rfl⟩
  · rintro endOffset middle between d' ⟨hfollows, hlast, hpending, rfl⟩
    exact Turn.ends_done ⟨hfollows.symm, hlast.trans hfollows.symm, hpending, rfl⟩

theorem ends_handleAppend (hbalanced : shared.Balanced) (slot : Nat)
    {prepared : PreparedAdmissionV1} (hbuilt : prepared.admission.Built)
    (hnew : PreparedAdmissionV1.new prepared.admission = .ok prepared) (aged : Bool) :
    (worker.handleAppend slot prepared aged shared d).Ends (worker.Appends shared)
      (worker.Reaches shared) := by
  unfold handleAppend
  split
  next => exact Turn.ends_failed reaches_self
  next frame demanded hplan =>
    have hframe := (planAppend_ok hbuilt hnew hplan).1
    refine (ends_makeRoom hbalanced demanded).andThen ?_
    rintro _ middle between d' ⟨hlast, hcommits⟩
    have happend := @ends_appendFrame middle between d' slot frame hframe prepared.frameLen
    refine ⟨?_, ?_⟩
    · intro output houtput
      obtain ⟨hsequence, hnext, hpending, hshared⟩ := happend.ok output houtput
      rw [hlast] at hsequence hnext
      refine ⟨hsequence, hnext, ?_⟩
      rw [hpending, hshared]
      exact hcommits
    · intro error herror
      obtain ⟨before, rfl, hstopped⟩ := happend.error error herror
      exact ⟨before, ⟨_, hcommits⟩, hstopped⟩

/-- The append joins the group before the group is committed. -/
theorem ends_handlePublished (hbalanced : shared.Balanced) (options : StoreOptions)
    (entry : PublishedAppend) (aged : Bool) :
    (worker.handlePublished options entry aged shared d).Ends
      (fun _ => (worker.join entry).Flushes shared) ((worker.join entry).Reaches shared) := by
  unfold handlePublished
  split
  next => exact Turn.ends_failed reaches_self
  next => exact ends_commitGroup hbalanced _ _

theorem ends_handleBarrier (hbalanced : shared.Balanced) :
    (worker.handleBarrier shared d).Ends (fun _ => worker.Flushes shared)
      (worker.Reaches shared) := by
  unfold handleBarrier
  split
  next => exact Turn.ends_failed reaches_self
  next => exact ends_flushPending hbalanced

theorem operation_journal (operation : RegistryOperation) :
    (operation.op.run worker.store d).store.journal = worker.store.journal := by
  cases operation with
  | register => exact applyRegistry_journal _
  | revise => exact applyRegistry_journal _
  | retire => exact applyRegistry_journal _

theorem ends_handleRegistry (operation : RegistryOperation) :
    (worker.handleRegistry operation shared d).Ends (fun _ => worker.Flushes shared)
      (worker.Reaches shared) := by
  have hkeeps : worker.Flushes shared
      { worker with store := (operation.op.run worker.store d).store } shared := by
    refine ⟨?_, .kept⟩
    unfold last
    rw [operation_journal]
  unfold handleRegistry
  split
  next => exact Turn.ends_failed reaches_self
  next =>
    dsimp only
    split
    next =>
      refine ⟨fun _ _ => hkeeps, ?_⟩
      intro error herror
      cases herror
    next =>
      refine ⟨fun _ _ => hkeeps, ?_⟩
      intro error herror
      cases herror
    next =>
      refine ⟨?_, fun _ _ => ⟨shared, reaches_self, rfl⟩⟩
      intro output houtput
      cases houtput

theorem ends_handleBind (envelope : CollectionEnvelope) :
    (worker.handleBind envelope shared).Ends (fun _ => worker.Flushes shared)
      (worker.Reaches shared) := by
  unfold handleBind
  split
  next => exact Turn.ends_failed reaches_self
  next =>
    split
    next => exact Turn.ends_done ⟨rfl, .kept⟩
    next => exact Turn.ends_done ⟨rfl, .kept⟩
    next => exact Turn.ends_failed reaches_self

end StoreWorker

end Historian
