import Historian.StoreCustody
import Historian.StoreWorker

namespace Historian

open Wire Checks Files

/-- What a failure has made of the state of a store. -/
def StoreFailure.writeState (failure : StoreFailure) : StoreWriteState :=
  if failure.isStoragePressure then .reopenRequired else .faulted

/-- A failure behind the first attempted change is recorded, and the registry and the retry
snapshot are those of before the call. -/
structure ManifestStore.Records (after store : ManifestStore) (failure : StoreFailure) : Prop where
  state : after.writeState = failure.writeState
  registry : after.registry = store.registry
  retry : after.retry = store.retry

/-- A method that fails has changed nothing, or it has recorded its failure. -/
structure IoAnswer.AllOrRefuse {α : Type} (answer : IoAnswer α) (store : ManifestStore)
    (failure : StoreFailure) : Prop where
  refused : answer.attempted = false → answer.store = store ∧ answer.effects = []
  recorded : answer.attempted = true → answer.store.Records store failure

/-- Every method of the store refuses with one error, and so does the binding of a collection. -/
def ManifestStore.Closed (store : ManifestStore) : Prop :=
  ∃ error, (∀ (op : StoreOp) (io : StoreIo) (d : StoreDirectory),
      op.runIo store d io = store.refusedIo error) ∧
    ∀ envelope, store.bind envelope = .error error

/-- A usable store has a usable journal. -/
def ManifestStore.JournalUsable (store : ManifestStore) : Prop :=
  store.writeState = .writable → store.journal.writeState = .writable

namespace ManifestStore

variable {store : ManifestStore} {d : StoreDirectory}

theorem ensureUsable_ok : store.ensureUsable = .ok () ↔ store.writeState = .writable := by
  unfold ensureUsable
  cases store.writeState with
  | writable => simp
  | reopenRequired => simp
  | faulted => simp

theorem recordActiveError_usable (h : store.journal.writeState = .writable) :
    store.recordActiveError = store := by
  unfold ManifestStore.recordActiveError
  rw [h]

theorem classifyManifestIo_refused (operation : FileOperation) (kind : ErrorKind)
    (error : ManifestStoreError) : classifyManifestIo operation kind ≠ .refused error := by
  unfold classifyManifestIo
  split
  next => exact fun h => nomatch h
  next => exact fun h => nomatch h

section Records

variable {failure : StoreFailure}

theorem records_active (h : ∀ error, failure ≠ .refused error) :
    (store.recordActiveFailure failure).Records store failure := by
  cases failure with
  | refused error => exact absurd rfl (h error)
  | io evidence => exact ⟨rfl, rfl, rfl⟩
  | storagePressure evidence => exact ⟨rfl, rfl, rfl⟩

theorem records_terminal (h : ∀ error, failure = .refused error → error.Plain) :
    (store.recordTerminalFailure failure).Records store failure := by
  cases failure with
  | refused error =>
    obtain ⟨hstore, hjournal⟩ := h error rfl
    refine ⟨?_, rfl, rfl⟩
    change (if error = .reopenRequired ∨ error = .active .reopenRequired then
      StoreWriteState.reopenRequired else .faulted) = .faulted
    rw [if_neg]
    intro hasks
    rcases hasks with hasks | hasks
    · exact hstore hasks
    · exact hjournal hasks
  | io evidence => exact ⟨rfl, rfl, rfl⟩
  | storagePressure evidence => exact ⟨rfl, rfl, rfl⟩

theorem Records.trans {base : ManifestStore} {after : ManifestStore}
    (h : after.Records base failure) (hregistry : base.registry = store.registry)
    (hretry : base.retry = store.retry) : after.Records store failure :=
  ⟨h.state, h.registry.trans hregistry, h.retry.trans hretry⟩

/-- A part whose failure is terminal, and then the rest of the method. -/
theorem records_attempt {α β : Type} {base : ManifestStore} {part : StoreAction β}
    {fault : Option StepFault} {next : β → StoreDirectory → IoAnswer α} {Q : β → Prop}
    (hregistry : base.registry = store.registry) (hretry : base.retry = store.retry)
    (hraises : part.Raises ManifestStoreError.Plain) (hyields : part.Yields Q)
    (hnext : ∀ x d' failure, Q x → (next x d').result = .error failure →
      (next x d').store.Records store failure)
    (h : (attemptIo base.recordTerminalFailure part fault next d).result = .error failure) :
    (attemptIo base.recordTerminalFailure part fault next d).store.Records store failure := by
  cases fault with
  | some fault =>
    cases h
    exact (records_terminal fun error herror =>
      absurd herror (classifyManifestIo_refused _ _ error)).trans hregistry hretry
  | none =>
    unfold attemptIo at h ⊢
    rcases hpart : part d with ⟨r, effects⟩
    rw [hpart] at h
    cases r with
    | error error =>
      cases h
      change (base.recordTerminalFailure (.refused error)).Records store (.refused error)
      refine (records_terminal ?_).trans hregistry hretry
      intro error' herror
      cases herror
      exact hraises d error (by rw [hpart])
    | ok x => exact hnext x _ failure (hyields d x (by rw [hpart])) h

/-- A part that creates a file first has attempted a change when it fails, and when what is behind
it fails. -/
theorem attempted_attempt {α β : Type} {onError : StoreFailure → ManifestStore}
    {part : StoreAction β} {fault : Option StepFault} {next : β → StoreDirectory → IoAnswer α}
    (hcreates : CreatesFirst part) : (attemptIo onError part fault next d).attempted = true := by
  cases fault with
  | some fault => rfl
  | none =>
    unfold attemptIo
    rcases hpart : part d with ⟨r, effects⟩
    cases effects with
    | cons effect effects =>
      cases r with
      | error error => simp
      | ok x => simp
    | nil =>
      have hr := hcreates d r hpart
      subst hr
      simp

end Records

theorem settled_succeeds {α : Type} {output : α} {failure : StoreFailure} {P : Prop}
    (h : (store.settledIo output).result = .error failure) : P := by
  cases h

theorem allOrRefuse_refused {α : Type} {error : ManifestStoreError} {failure : StoreFailure} :
    (store.refusedIo error : IoAnswer α).AllOrRefuse store failure :=
  ⟨fun _ => ⟨rfl, rfl⟩, fun h => nomatch h⟩

theorem allOrRefuse_unattempted {α : Type} {reported failure : StoreFailure}
    (h : store.journal.writeState = .writable) :
    (store.recordActiveError.unattempted reported : IoAnswer α).AllOrRefuse store failure := by
  rw [recordActiveError_usable h]
  exact ⟨fun _ => ⟨rfl, rfl⟩, fun h => nomatch h⟩

/-- A method that has attempted a change whenever it fails. -/
theorem allOrRefuse_recorded {α : Type} {answer : IoAnswer α} {failure : StoreFailure}
    (hattempted : answer.attempted = true) (hrecords : answer.store.Records store failure) :
    answer.AllOrRefuse store failure := by
  refine ⟨?_, fun _ => hrecords⟩
  intro hnot
  rw [hattempted] at hnot
  cases hnot

section Journal

/-- The journal's part of a method: without a fault of a step it refuses with nothing changed, and
what it refuses is not the creation of a file. -/
theorem allOrRefuse_journal {α β : Type} {part : JournalAction β} {fault : Option StepFault}
    {next : β → StoreDirectory → IoAnswer α} {failure : StoreFailure}
    (husable : store.journal.writeState = .writable)
    (hpart : ∀ error effects, part d = (.error error, effects) → effects = [])
    (hnext : ∀ x effects failure, fault = none → part d = (.ok x, effects) →
      (next x (applyAll d effects)).result = .error failure →
      (next x (applyAll d effects)).store.Records store failure ∧
        (effects = [] → (next x (applyAll d effects)).attempted = true))
    (h : (attemptIo store.recordActiveFailure (part.mapError .active) fault next d).result =
      .error failure) :
    (attemptIo store.recordActiveFailure (part.mapError .active) fault next d).AllOrRefuse store
      failure := by
  cases fault with
  | some fault =>
    cases h
    exact allOrRefuse_recorded rfl (records_active (classifyManifestIo_refused _ _))
  | none =>
    rcases hrun : part d with ⟨r, effects⟩
    have hmapped : part.mapError ManifestStoreError.active d =
        (r.mapError ManifestStoreError.active, effects) := by
      unfold Action.mapError
      rw [hrun]
    unfold attemptIo at h ⊢
    rw [hmapped] at h ⊢
    cases r with
    | error error =>
      have hnone := hpart error effects hrun
      subst hnone
      refine ⟨?_, ?_⟩
      · intro _
        exact ⟨recordActiveError_usable husable, rfl⟩
      · intro hattempted
        change decide (([] : List StoreEffect).isEmpty = false ∨
          ManifestStoreError.active error = .interruptedPublication) = true at hattempted
        simp at hattempted
    | ok x =>
      obtain ⟨hrecords, hattempted⟩ := hnext x effects failure rfl hrun h
      refine allOrRefuse_recorded ?_ hrecords
      change decide (effects.isEmpty = false ∨
        (next x (applyAll d effects)).attempted = true) = true
      cases effects with
      | nil => exact decide_eq_true (Or.inr (hattempted rfl))
      | cons effect effects => simp

theorem journalAppend_error {journal : ActiveJournal} {frame : PreparedFrameV1}
    {error : ActiveJournalError} {effects : List StoreEffect}
    (h : journal.append frame d = (.error error, effects)) : effects = [] := by
  rw [append_eq, run_ensure_bind] at h
  cases hprepared : journal.prepareAppend frame with
  | error refusal =>
    rw [hprepared] at h
    exact (Prod.mk.inj h).2.symm
  | ok prepared =>
    rw [hprepared] at h
    dsimp only at h
    rw [run_look_bind] at h
    cases hfile : (readFile d (.activeJournal journal.identity.generation)).mapError
        ManifestRootOpenError.intoActive with
    | error refusal =>
      rw [hfile] at h
      exact (Prod.mk.inj h).2.symm
    | ok file =>
      rw [hfile] at h
      cases (Prod.mk.inj h).1

/-- A synchronisation of the journal that fails has changed nothing, and one that succeeds ends at
the cutoff that was planned for it. -/
theorem journalSync_result {journal : ActiveJournal} {r : Except ActiveJournalError _}
    {effects : List StoreEffect} (h : journal.syncPending d = (r, effects)) :
    (∀ error, r = .error error → effects = []) ∧
      ∀ synced cutoff, r = .ok synced → journal.pendingDurableCutoff = .ok cutoff →
        synced.1 = cutoff := by
  refine ⟨?_, ?_⟩
  · intro error hr
    subst hr
    rw [syncPending_eq, run_ensure_bind] at h
    cases hprepared : journal.prepareSync with
    | error refusal =>
      rw [hprepared] at h
      exact (Prod.mk.inj h).2.symm
    | ok next =>
      rw [hprepared] at h
      cases next with
      | none => cases (Prod.mk.inj h).1
      | some next =>
        dsimp only at h
        rw [run_look_bind] at h
        cases hfile : (readFile d (.activeCheckpoint journal.identity.generation)).mapError
            ManifestRootOpenError.intoActive with
        | error refusal =>
          rw [hfile] at h
          exact (Prod.mk.inj h).2.symm
        | ok file =>
          rw [hfile] at h
          cases (Prod.mk.inj h).1
  · intro synced cutoff hr hcutoff
    subst hr
    unfold ActiveJournal.syncPending at h
    unfold ActiveJournal.pendingDurableCutoff at hcutoff
    obtain ⟨_, -, h⟩ := run_ensure_bind_ok.mp h
    rw [bind_ok] at hcutoff
    obtain ⟨_, -, hcutoff⟩ := hcutoff
    split at h
    next hdurable =>
      rw [if_pos hdurable, pure_ok] at hcutoff
      cases (Prod.mk.inj h).1
      exact hcutoff
    next hpending =>
      rw [if_neg hpending, bind_ok] at hcutoff
      obtain ⟨planned, hplanned, hcutoff⟩ := hcutoff
      obtain ⟨next, hnext, h⟩ := run_ensure_bind_ok.mp h
      obtain ⟨file, -, h⟩ := run_look_bind_ok.mp h
      rw [run_emit_bind] at h
      cases (Prod.mk.inj h).1
      rw [pure_ok] at hcutoff
      rw [← hcutoff]
      rw [hplanned] at hnext
      cases hnext
      rfl

end Journal

section Methods

variable {failure : StoreFailure}

theorem allOrRefuse_append (hjournal : store.JournalUsable) {frame : PreparedFrameV1} {io : StoreIo}
    (h : (store.appendIo frame io d).result = .error failure) :
    (store.appendIo frame io d).AllOrRefuse store failure := by
  unfold appendIo at h ⊢
  cases hpreflight : store.preflightHistoricalDeclaration frame.admission.declaration with
  | error error => exact allOrRefuse_refused
  | ok checked =>
    rw [hpreflight] at h
    unfold preflightHistoricalDeclaration at hpreflight
    have husable := hjournal (ensureUsable_ok.mp (then_ok.mp hpreflight).1)
    dsimp only at h ⊢
    cases hprepared : store.journal.prepareAppend frame with
    | error error => exact allOrRefuse_unattempted husable
    | ok prepared =>
      rw [hprepared] at h
      dsimp only at h ⊢
      cases hplan : io.plan with
      | some kind => exact allOrRefuse_unattempted husable
      | none =>
        rw [hplan] at h
        refine allOrRefuse_journal husable (fun _ _ => journalAppend_error) ?_ h
        intro appended effects failure _ _ hsettled
        exact settled_succeeds hsettled

theorem allOrRefuse_applyRegistry {α : Type}
    {operation : SeriesRegistry → Except ModelError (α × SeriesRegistry)} {io : StoreIo}
    (h : (store.applyRegistryIo operation io d).result = .error failure) :
    (store.applyRegistryIo operation io d).AllOrRefuse store failure := by
  unfold applyRegistryIo at h ⊢
  rcases hplan : store.planRegistry operation with error | plan
  · exact allOrRefuse_refused
  cases plan with
  | unchanged output =>
    rw [hplan] at h
    cases h
  | publish output candidate registry manifest =>
    rw [hplan] at h
    refine allOrRefuse_recorded
      (attempted_attempt (createsFirst_publishRegistry (planRegistry_publish hplan).1)) ?_
    exact records_attempt (Q := fun _ => True) rfl rfl (raises_publishRegistry _ _ _)
      (fun _ _ _ => trivial) (fun _ _ _ _ hsettled => settled_succeeds hsettled) h

theorem yields_publishRotation_models (plan : RotationPlan) :
    (store.publishRotation plan).Yields
      fun adopted => adopted.registry = store.registry ∧ adopted.retry = store.retry := by
  unfold publishRotation
  refine yields_then fun _ => yields_then fun _ => yields_then fun _ => yields_then fun _ => ?_
  exact yields_then fun _ => yields_then fun _ => yields_pure ⟨rfl, rfl⟩

theorem allOrRefuse_rotate {io : StoreIo} (h : (store.rotateIo io d).result = .error failure) :
    (store.rotateIo io d).AllOrRefuse store failure := by
  unfold rotateIo at h ⊢
  cases husable : store.ensureUsable with
  | error error => exact allOrRefuse_refused
  | ok checked =>
    rw [husable] at h
    dsimp only at h ⊢
    cases hreads : io.plan with
    | some kind => exact ⟨fun _ => ⟨rfl, rfl⟩, fun hattempted => nomatch hattempted⟩
    | none =>
      rw [hreads] at h
      dsimp only at h ⊢
      rcases hplan : store.prepareRotation d with error | plan
      · exact allOrRefuse_refused
      rw [hplan] at h
      have hcommit := prepareRotation_ok hplan
      refine allOrRefuse_recorded (attempted_attempt (createsFirst_publishRotation plan)) ?_
      refine records_attempt rfl rfl (raises_publishRotation hcommit.createsSuccessor)
        (yields_publishRotation_models plan) ?_ h
      intro adopted d' failure hadopted hfailed
      exact records_attempt (Q := fun _ => True) hadopted.1 hadopted.2 (raises_finishRotation _)
        (fun _ _ _ => trivial) (fun _ _ _ _ hsettled => settled_succeeds hsettled) hfailed

theorem allOrRefuse_syncPending (hjournal : store.JournalUsable)
    {pending : List PendingRetryOutcome} {io : StoreIo}
    (h : (store.syncPendingIo pending io d).result = .error failure) :
    (store.syncPendingIo pending io d).AllOrRefuse store failure := by
  unfold syncPendingIo at h ⊢
  rcases hplan : store.planSync pending with error | found
  · exact allOrRefuse_refused
  rw [hplan] at h
  rcases found with _ | plan
  · cases h
  obtain ⟨hstore, -, cutoff, hcutoff, -, hprepared⟩ := planSync_some hplan
  have husable := hjournal (ensureUsable_ok.mp hstore)
  have hpending := prepareSyncedPending_ok hprepared
  dsimp only at h ⊢
  cases hnext : store.journal.prepareSync with
  | error error => exact allOrRefuse_unattempted husable
  | ok next =>
    rw [hnext] at h
    refine allOrRefuse_journal husable (fun error _ hrun => (journalSync_result hrun).1 error rfl)
      ?_ h
    intro synced effects failure _ hrun hfailed
    -- the journal ends where the plan expects it, so the commit goes on to its first file
    have hreached : refuse (synced.1 ≠ plan.cutoff) ManifestStoreError.invalidRetry = .ok () := by
      rw [refuse_ok, not_not, hpending.reached]
      exact (journalSync_result hrun).2 synced cutoff rfl hcutoff
    have hcreates : CreatesFirst (do
        ensure (refuse (synced.1 ≠ plan.cutoff) .invalidRetry)
        ({ store with journal := synced.2 } : ManifestStore).commitSyncedPending plan) := by
      intro d' r hr
      rw [hreached, run_ensure_bind] at hr
      exact createsFirst_commitSyncedPending hpending d' r hr
    refine ⟨?_, fun _ => attempted_attempt hcreates⟩
    refine records_attempt (Q := fun _ => True) rfl rfl ?_ (fun _ _ _ => trivial)
      (fun _ _ _ _ hsettled => settled_succeeds hsettled) hfailed
    exact raises_bind (raises_ensure (fails_refuse plain_invalidRetry)) fun _ =>
      raises_commitSyncedPending plan

theorem IoAnswer.AllOrRefuse.forget {α : Type} {answer : IoAnswer α}
    (h : ∀ failure, answer.result = .error failure → answer.AllOrRefuse store failure)
    (hfailed : answer.forget.result = .error failure) :
    answer.forget.AllOrRefuse store failure := by
  unfold IoAnswer.forget at hfailed
  cases hresult : answer.result with
  | ok output =>
    rw [hresult] at hfailed
    cases hfailed
  | error reported =>
    rw [hresult] at hfailed
    cases hfailed
    obtain ⟨hrefused, hrecorded⟩ := h _ hresult
    exact ⟨hrefused, hrecorded⟩

theorem allOrRefuse_run (hjournal : store.JournalUsable) {op : StoreOp} {io : StoreIo}
    (h : (op.runIo store d io).result = .error failure) :
    (op.runIo store d io).AllOrRefuse store failure := by
  cases op with
  | append frame => exact IoAnswer.AllOrRefuse.forget (fun _ => allOrRefuse_append hjournal) h
  | syncPending pending =>
    exact IoAnswer.AllOrRefuse.forget (fun _ => allOrRefuse_syncPending hjournal) h
  | register => exact IoAnswer.AllOrRefuse.forget (fun _ => allOrRefuse_applyRegistry) h
  | revise => exact IoAnswer.AllOrRefuse.forget (fun _ => allOrRefuse_applyRegistry) h
  | retire => exact IoAnswer.AllOrRefuse.forget (fun _ => allOrRefuse_applyRegistry) h
  | rotate => exact IoAnswer.AllOrRefuse.forget (fun _ => allOrRefuse_rotate) h

end Methods

end ManifestStore

namespace ManifestStore

section Usable

variable {store : ManifestStore} {d : StoreDirectory}

/-- A method that succeeds has succeeded in its first part. -/
theorem attemptIo_ok {α β : Type} {onError : StoreFailure → ManifestStore} {part : StoreAction β}
    {fault : Option StepFault} {next : β → StoreDirectory → IoAnswer α} {output : α}
    (h : (attemptIo onError part fault next d).result = .ok output) :
    ∃ x d', (part d).1 = .ok x ∧ (next x d').result = .ok output ∧
      (attemptIo onError part fault next d).store = (next x d').store := by
  cases fault with
  | some fault => cases h
  | none =>
    unfold attemptIo at h ⊢
    rcases hpart : part d with ⟨r, effects⟩
    rw [hpart] at h
    cases r with
    | error error => cases h
    | ok x => exact ⟨x, applyAll d effects, rfl, h, rfl⟩

theorem yields_journalAppend_state (journal : ActiveJournal) (frame : PreparedFrameV1) :
    (journal.append frame).Yields fun appended => appended.2.writeState = journal.writeState := by
  unfold ActiveJournal.append
  refine yields_then fun _ => yields_then fun _ => yields_then fun _ => yields_then fun _ => ?_
  refine yields_then fun _ => yields_then fun _ => yields_then fun _ => yields_then fun _ => ?_
  exact yields_then fun _ => yields_then fun _ => yields_pure rfl

theorem yields_journalSync_state (journal : ActiveJournal) :
    journal.syncPending.Yields fun synced => synced.2.writeState = journal.writeState := by
  unfold ActiveJournal.syncPending
  refine yields_then fun _ => ?_
  split
  next => exact yields_pure rfl
  next => exact yields_then fun _ => yields_then fun _ => yields_then fun _ => yields_pure rfl

theorem journalUsable_append (hjournal : store.JournalUsable) {frame : PreparedFrameV1}
    {io : StoreIo} {output : U64} (h : (store.appendIo frame io d).result = .ok output) :
    (store.appendIo frame io d).store.JournalUsable := by
  unfold appendIo at h ⊢
  cases hpreflight : store.preflightHistoricalDeclaration frame.admission.declaration with
  | error error =>
    rw [hpreflight] at h
    cases h
  | ok checked =>
    rw [hpreflight] at h
    dsimp only at h ⊢
    cases hprepared : store.journal.prepareAppend frame with
    | error error =>
      rw [hprepared] at h
      cases h
    | ok prepared =>
      rw [hprepared] at h
      dsimp only at h ⊢
      cases hplan : io.plan with
      | some kind =>
        rw [hplan] at h
        cases h
      | none =>
        rw [hplan] at h
        obtain ⟨appended, d', hpart, -, hstore⟩ := attemptIo_ok h
        dsimp only
        rw [hstore]
        intro hwritable
        exact (yields_mapError (yields_journalAppend_state _ _) d appended hpart).trans
          (hjournal hwritable)

theorem journalUsable_syncPending (hjournal : store.JournalUsable)
    {pending : List PendingRetryOutcome} {io : StoreIo}
    {output : ManifestCommit × RetryStateSnapshot}
    (h : (store.syncPendingIo pending io d).result = .ok output) :
    (store.syncPendingIo pending io d).store.JournalUsable := by
  unfold syncPendingIo at h ⊢
  rcases hplan : store.planSync pending with error | found
  · rw [hplan] at h
    cases h
  rw [hplan] at h
  rcases found with _ | plan
  · exact hjournal
  obtain ⟨hstore, -, -⟩ := planSync_some hplan
  have husable := hjournal (ensureUsable_ok.mp hstore)
  dsimp only at h ⊢
  cases hnext : store.journal.prepareSync with
  | error error =>
    rw [hnext] at h
    cases h
  | ok next =>
    rw [hnext] at h
    obtain ⟨synced, d', hpart, hcommit, hfirst⟩ := attemptIo_ok h
    obtain ⟨adopted, d'', hadopt, -, hsecond⟩ := attemptIo_ok hcommit
    dsimp only at hfirst ⊢
    rw [hfirst, hsecond]
    intro _
    have hsynced := yields_mapError (yields_journalSync_state _) d synced hpart
    have hkept : Action.Yields (do
        ensure (refuse (synced.1 ≠ plan.cutoff) .invalidRetry)
        ({ store with journal := synced.2 } : ManifestStore).commitSyncedPending plan)
        fun adopted => adopted.journal = synced.2 := by
      unfold commitSyncedPending
      refine yields_then fun _ => yields_then fun _ => ?_
      exact yields_bind (yields_publishAndAdopt _) fun _ hadopted => yields_pure hadopted
    change adopted.journal.writeState = _
    rw [hkept d' adopted hadopt]
    exact hsynced.trans husable

theorem journalUsable_applyRegistry (hjournal : store.JournalUsable) {α : Type}
    {operation : SeriesRegistry → Except ModelError (α × SeriesRegistry)} {io : StoreIo}
    {output : α × ManifestCommit} (h : (store.applyRegistryIo operation io d).result = .ok output) :
    (store.applyRegistryIo operation io d).store.JournalUsable := by
  unfold applyRegistryIo at h ⊢
  rcases hplan : store.planRegistry operation with error | plan
  · rw [hplan] at h
    cases h
  rw [hplan] at h
  cases plan with
  | unchanged output => exact hjournal
  | publish output candidate registry manifest =>
    obtain ⟨adopted, d', hadopt, -, hstore⟩ := attemptIo_ok h
    dsimp only
    rw [hstore]
    intro _
    have hkept : (store.publishRegistry candidate registry manifest).Yields
        fun adopted => adopted.journal = store.journal := by
      unfold publishRegistry
      refine yields_then fun _ => yields_bind (yields_publishAndAdopt _) fun _ hadopted => ?_
      exact yields_pure hadopted
    change adopted.journal.writeState = _
    rw [hkept d adopted hadopt]
    exact hjournal (ensureUsable_ok.mp (planRegistry_publish hplan).1.usable)

theorem journalUsable_rotate {io : StoreIo} {output : ManifestCommit}
    (h : (store.rotateIo io d).result = .ok output) :
    (store.rotateIo io d).store.JournalUsable := by
  unfold rotateIo at h ⊢
  cases husable : store.ensureUsable with
  | error error =>
    rw [husable] at h
    cases h
  | ok checked =>
    rw [husable] at h
    dsimp only at h ⊢
    cases hreads : io.plan with
    | some kind =>
      rw [hreads] at h
      cases h
    | none =>
      rw [hreads] at h
      dsimp only at h ⊢
      rcases hplan : store.prepareRotation d with error | plan
      · rw [hplan] at h
        cases h
      rw [hplan] at h
      obtain ⟨adopted, d', hadopt, hfinish, hfirst⟩ := attemptIo_ok h
      obtain ⟨_, d'', -, -, hsecond⟩ := attemptIo_ok hfinish
      dsimp only at hfirst ⊢
      rw [hfirst, hsecond]
      intro _
      have hcreated : (store.publishRotation plan).Yields
          fun adopted => adopted.journal.writeState = .writable := by
        unfold publishRotation
        refine yields_then fun _ => yields_then fun _ => ?_
        refine yields_bind (yields_mapError (yields_openJournal _)) fun successor hopened => ?_
        refine yields_then fun _ => yields_then fun _ => yields_then fun _ => ?_
        exact yields_pure hopened.state
      exact hcreated d adopted hadopt

theorem JournalUsable.forget {α : Type} {answer : IoAnswer α}
    (h : ∀ output, answer.result = .ok output → answer.store.JournalUsable)
    (hsucceeds : answer.forget.result = .ok ()) : answer.forget.store.JournalUsable := by
  unfold IoAnswer.forget at hsucceeds
  cases hresult : answer.result with
  | ok output => exact h output hresult
  | error reported =>
    rw [hresult] at hsucceeds
    cases hsucceeds

/-- However a method ends, a store that is still usable has a usable journal. -/
theorem journalUsable_run (hjournal : store.JournalUsable) (op : StoreOp) (io : StoreIo) :
    (op.runIo store d io).store.JournalUsable := by
  cases hresult : (op.runIo store d io).result with
  | error failure =>
    obtain ⟨hrefused, hrecorded⟩ := allOrRefuse_run hjournal hresult
    cases hattempted : (op.runIo store d io).attempted with
    | false =>
      rw [(hrefused hattempted).1]
      exact hjournal
    | true =>
      intro hwritable
      rw [(hrecorded hattempted).state, StoreFailure.writeState] at hwritable
      split at hwritable
      next => cases hwritable
      next => cases hwritable
  | ok output =>
    cases op with
    | append frame => exact JournalUsable.forget (fun _ => journalUsable_append hjournal) hresult
    | syncPending pending =>
      exact JournalUsable.forget (fun _ => journalUsable_syncPending hjournal) hresult
    | register => exact JournalUsable.forget (fun _ => journalUsable_applyRegistry hjournal) hresult
    | revise => exact JournalUsable.forget (fun _ => journalUsable_applyRegistry hjournal) hresult
    | retire => exact JournalUsable.forget (fun _ => journalUsable_applyRegistry hjournal) hresult
    | rotate => exact JournalUsable.forget (fun _ => journalUsable_rotate) hresult

theorem Live.journalUsable {config : ManifestStoreConfig} (h : Live config store d) :
    store.JournalUsable := by
  induction h with
  | opened opens =>
    intro _
    exact (yields_open config _ _ (by rw [opens])).state
  | stepped before ih => exact journalUsable_run ih _ _

end Usable

section Closed

variable {store : ManifestStore}

theorem closed_of_unusable {error : ManifestStoreError} (h : store.ensureUsable = .error error) :
    store.Closed := by
  refine ⟨error, ?_, ?_⟩
  · intro op io d
    have hregistry : ∀ {α : Type}
        (operation : SeriesRegistry → Except ModelError (α × SeriesRegistry)),
        store.applyRegistryIo operation io d = store.refusedIo error := by
      intro α operation
      have hplan : store.planRegistry operation = .error error := by
        rw [planRegistry, h]
        rfl
      unfold applyRegistryIo
      rw [hplan]
    cases op with
    | append frame =>
      have hpreflight : store.preflightHistoricalDeclaration frame.admission.declaration =
          .error error := by
        rw [preflightHistoricalDeclaration, h]
        rfl
      simp only [StoreOp.runIo, appendIo, hpreflight]
      rfl
    | syncPending pending =>
      have hplan : store.planSync pending = .error error := by
        rw [planSync, h]
        rfl
      simp only [StoreOp.runIo, syncPendingIo, hplan]
      rfl
    | register =>
      simp only [StoreOp.runIo, hregistry]
      rfl
    | revise =>
      simp only [StoreOp.runIo, hregistry]
      rfl
    | retire =>
      simp only [StoreOp.runIo, hregistry]
      rfl
    | rotate =>
      simp only [StoreOp.runIo, rotateIo, h]
      rfl
  · intro envelope
    rw [ManifestStore.bind, h]
    rfl

theorem Records.closed {after : ManifestStore} {failure : StoreFailure}
    (h : after.Records store failure) : after.Closed := by
  have hstate := h.state
  unfold StoreFailure.writeState at hstate
  split at hstate
  next =>
    refine @closed_of_unusable after .reopenRequired ?_
    rw [ensureUsable, hstate]
  next =>
    refine @closed_of_unusable after .faulted ?_
    rw [ensureUsable, hstate]

end Closed

/-- The methods of every open store are all or refuse. A failure in front of the first attempted
change leaves the store and the directory as they are. A failure behind it is recorded, as a
request to reopen just when it is storage pressure; the models are those of before the call; and
from there on every method and every binding refuses. -/
theorem all_or_refuse {config : ManifestStoreConfig} {store : ManifestStore} {d : StoreDirectory}
    (live : Live config store d) (op : StoreOp) (io : StoreIo) {failure : StoreFailure}
    (failed : (op.runIo store d io).result = .error failure) :
    let answer := op.runIo store d io
    (answer.attempted = false →
      answer.store = store ∧ applyAll d answer.effects = d ∧ answer.effects = []) ∧
    (answer.attempted = true →
      answer.store.writeState = (if failure.isStoragePressure then .reopenRequired else .faulted) ∧
      answer.store.registry = store.registry ∧ answer.store.retry = store.retry ∧
      answer.store.Closed) := by
  obtain ⟨hrefused, hrecorded⟩ := allOrRefuse_run live.journalUsable failed
  refine ⟨?_, ?_⟩
  · intro hattempted
    obtain ⟨hstore, heffects⟩ := hrefused hattempted
    refine ⟨hstore, ?_, heffects⟩
    rw [heffects, applyAll_nil]
  · intro hattempted
    have hrecords := hrecorded hattempted
    exact ⟨hrecords.state, hrecords.registry, hrecords.retry, hrecords.closed⟩

/-- The device is full while the first declaration of a new store is written. -/
def sampleFull : StoreIo :=
  ⟨none, some ⟨0, .write, .storageFull, [.put .registryStaging []]⟩, none⟩

theorem all_or_refuse_sample :
    ∃ store, Live sampleStoreConfig store (applyAll ∅ sampleOpened.2) ∧
      (sampleRegister.runIo store (applyAll ∅ sampleOpened.2) sampleFull).effects.length = 1 ∧
      (sampleRegister.runIo store (applyAll ∅ sampleOpened.2) sampleFull).store.writeState =
        .reopenRequired ∧
      (sampleRegister.runIo store (applyAll ∅ sampleOpened.2) sampleFull).store.Closed := by
  have hopens : (sampleOpened.1.toOption.any fun store =>
      decide ((sampleRegister.runIo store (applyAll ∅ sampleOpened.2) sampleFull).result =
          .error (.storagePressure ⟨.write, .storageFull⟩) ∧
        (sampleRegister.runIo store (applyAll ∅ sampleOpened.2) sampleFull).attempted = true ∧
        (sampleRegister.runIo store (applyAll ∅ sampleOpened.2) sampleFull).effects.length = 1)) =
        true := by decide +kernel
  obtain ⟨store, hstore, hfacts⟩ := exists_ok_any hopens
  obtain ⟨hfailed, hattempted, heffects⟩ := of_decide_eq_true hfacts
  have hopened : ManifestStore.open sampleStoreConfig ∅ = (.ok store, sampleOpened.2) := by
    unfold sampleOpened at hstore ⊢
    rw [← hstore]
  have hlive : Live sampleStoreConfig store (applyAll ∅ sampleOpened.2) := .opened hopened
  obtain ⟨hstate, -, -, hclosed⟩ := (all_or_refuse hlive sampleRegister sampleFull hfailed).2
    hattempted
  exact ⟨store, hlive, heffects, hstate, hclosed⟩

end ManifestStore

end Historian
