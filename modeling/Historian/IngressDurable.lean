import Historian.IngressReceipts

namespace Historian

open Checks IngressState

/-- A runtime with the flushes of its worker: the batch between its commit and the completion of
its receipts, and the commits that `sync_pending` has returned. -/
structure FlushingRuntime where
  runtime : Runtime
  synced : Option (List DurableBatchEntry × ManifestCommit × RetryStateSnapshot)
  commits : List ManifestCommit
  deriving DecidableEq

/-- A step of ingress, or one of the two halves of `flush_pending`. What the store answers to a
batch is up to the store. -/
inductive FlushEvent where
  | ingress (event : RuntimeEvent)
  | syncPending (entries : List DurableBatchEntry)
      (result : Option (ManifestCommit × RetryStateSnapshot))
  | completeDurable
  deriving DecidableEq

namespace Runtime

/-- A step beside the batches resolves receipts truthfully and leaves the projection alone. -/
def Resolves (made : ManifestCommit → Prop) (runtime next : Runtime) : Prop :=
  Receipts made runtime.shared.receipts next.shared.receipts ∧
    next.shared.retry = runtime.shared.retry

variable {made : ManifestCommit → Prop} {runtime next : Runtime}

theorem Resolves.unchanged (h : next.shared = runtime.shared) : runtime.Resolves made next := by
  unfold Resolves
  rw [h]
  exact ⟨Receipts.refl _, rfl⟩

theorem resolves_reserve (hrecorded : Recorded made runtime.shared.retry) (submit : Nat)
    (command : IngressCommand) (measured : Except JournalV1Error Nat) :
    runtime.Resolves made (runtime.reserve submit command measured) := by
  unfold Runtime.reserve
  split
  next hreserve =>
    obtain ⟨_, -, -, hretry, -⟩ | ⟨_, _, _, hne, -⟩ := reserve_cases hreserve
    · exact ⟨receipts_reserve hrecorded hreserve, hretry⟩
    · cases hne
  next hreserve =>
    obtain ⟨_, hne, -⟩ | ⟨_, _, _, -, hreserves⟩ := reserve_cases hreserve
    · cases hne
    · exact ⟨receipts_reserve hrecorded hreserve, hreserves.retry⟩

theorem resolves_enqueue (submit : Nat) (command : IngressCommand) (slotIndex terminal : Nat)
    (prepared : PreparedAdmissionV1) :
    runtime.Resolves made (runtime.enqueue submit command slotIndex terminal prepared) := by
  refine ⟨receipts_enqueue, ?_⟩
  unfold Runtime.enqueue
  cases henqueue : runtime.shared.enqueue slotIndex terminal prepared command with
  | mk result shared =>
    obtain rfl | ⟨_, -, hrewrites⟩ := enqueue_cases henqueue
    · rfl
    · exact hrewrites.retry

theorem resolves_rollback (submit : Nat) (command : IngressCommand) (slotIndex : Nat)
    (error : JournalV1Error) :
    runtime.Resolves made (runtime.rollback submit command slotIndex error) := by
  refine ⟨receipts_rollbackPreparation, ?_⟩
  obtain ⟨-, heq⟩ | ⟨_, hrewrites⟩ := rollbackPreparation_cases runtime.shared slotIndex
  · exact congrArg IngressState.retry heq
  · exact hrewrites.retry

theorem resolves_takeNext : runtime.Resolves made runtime.takeNext := by
  obtain ⟨hshared, -⟩ := takeNext_shared runtime
  unfold Resolves
  rw [hshared, receipts_takeNext]
  refine ⟨Receipts.refl _, ?_⟩
  cases htake : runtime.shared.takeNext with
  | mk work shared =>
    obtain ⟨_, _, _, -, -, -, hrewrites⟩ | ⟨-, -, hretry, -⟩ := takeNext_cases htake
    · exact hrewrites.retry
    · exact hretry

theorem resolves_publish (inFlight slotIndex : Nat) (admission : CanonicalAdmission)
    (append : AppendIdentity) :
    runtime.Resolves made (runtime.publish inFlight slotIndex admission append) := by
  have hreceipts : (runtime.shared.preparePublication slotIndex admission).2.receipts =
      runtime.shared.receipts := receipts_preparePublication
  unfold Runtime.publish
  split
  next hprepare =>
    rw [hprepare] at hreceipts
    obtain ⟨-, hretry, -⟩ := preparePublication_cases hprepare
    refine ⟨?_, hretry⟩
    rw [hreceipts]
    exact Receipts.refl _
  next hprepare =>
    rw [hprepare] at hreceipts
    obtain ⟨-, hretry, -⟩ := preparePublication_cases hprepare
    exact ⟨receipts_stopAll _ hreceipts, hretry⟩

theorem resolves_step {event : RuntimeEvent} (hbalanced : runtime.shared.Balanced)
    (hrecorded : Recorded made runtime.shared.retry)
    (hbatch : ∀ entries committed retry, event ≠ .completeDurableBatch entries committed retry)
    (hstep : runtime.step event = some next) : runtime.Resolves made next := by
  cases event with
  | enter command =>
    cases hstep
    exact Resolves.unchanged rfl
  | check submit =>
    simp only [Runtime.step] at hstep
    split at hstep
    next =>
      cases hstep
      unfold Runtime.check
      split
      next => exact Resolves.unchanged rfl
      next => exact Resolves.unchanged rfl
    next => cases hstep
  | measure submit =>
    simp only [Runtime.step] at hstep
    split at hstep
    next => cases hstep; exact Resolves.unchanged rfl
    next => cases hstep
  | reserve submit =>
    simp only [Runtime.step] at hstep
    split at hstep
    next => cases hstep; exact resolves_reserve hrecorded _ _ _
    next => cases hstep
  | prepare submit =>
    simp only [Runtime.step] at hstep
    split at hstep
    next => cases hstep; exact Resolves.unchanged rfl
    next => cases hstep
  | enqueue submit =>
    simp only [Runtime.step] at hstep
    split at hstep
    next => cases hstep; exact resolves_enqueue _ _ _ _ _
    next => cases hstep
  | rollback submit =>
    simp only [Runtime.step] at hstep
    split at hstep
    next => cases hstep; exact resolves_rollback _ _ _ _
    next => cases hstep
  | takeNext =>
    cases hstep
    exact resolves_takeNext
  | append inFlight identity =>
    simp only [Runtime.step] at hstep
    split at hstep
    next => cases hstep; exact Resolves.unchanged rfl
    next => cases hstep
  | publish inFlight =>
    simp only [Runtime.step] at hstep
    split at hstep
    next => cases hstep; exact resolves_publish _ _ _ _
    next => cases hstep
  | completeHandled inFlight =>
    simp only [Runtime.step] at hstep
    split at hstep
    next slotIndex admission append preparation _ =>
      cases hstep
      refine ⟨receipts_completeHandled hbalanced, ?_⟩
      cases hhandled : runtime.shared.completeHandled slotIndex admission append preparation with
      | mk done shared =>
        obtain ⟨-, hretry⟩ | ⟨_, -, hrewrites⟩ := completeHandled_cases hhandled
        · exact hretry
        · exact hrewrites.retry
    next => cases hstep
  | drop inFlight =>
    simp only [Runtime.step] at hstep
    split at hstep
    next => cases hstep; exact ⟨receipts_stopAll _ rfl, rfl⟩
    next => cases hstep
  | completeDurableBatch entries committed retry =>
    exact absurd rfl (hbatch entries committed retry)
  | closeAdmission =>
    cases hstep
    exact ⟨Receipts.refl _, rfl⟩
  | stop =>
    cases hstep
    exact ⟨receipts_stopAll _ rfl, rfl⟩

end Runtime

namespace FlushingRuntime

def setShared (flushing : FlushingRuntime) (shared : IngressState) : FlushingRuntime :=
  { flushing with runtime := { flushing.runtime with shared := shared } }

/-- A store that refuses the batch stops the runtime. -/
def syncPending (flushing : FlushingRuntime) (entries : List DurableBatchEntry) :
    Option (ManifestCommit × RetryStateSnapshot) → FlushingRuntime
  | none => flushing.setShared flushing.runtime.shared.stopAll
  | some (committed, retry) =>
    { flushing with
      synced := some (entries, committed, retry)
      commits := flushing.commits ++ [committed] }

/-- A batch that ingress refuses stops the worker, too. -/
def completeDurable (flushing : FlushingRuntime) (entries : List DurableBatchEntry)
    (committed : ManifestCommit) (retry : RetryStateSnapshot) : FlushingRuntime :=
  match flushing.runtime.shared.completeDurableBatch entries committed retry with
  | (true, shared) => { flushing.setShared shared with synced := none }
  | (false, shared) => { flushing.setShared shared.stopAll with synced := none }

def step (flushing : FlushingRuntime) : FlushEvent → Option FlushingRuntime
  | .ingress (.completeDurableBatch _ _ _) => none
  | .ingress event =>
    (flushing.runtime.step event).map fun next => { flushing with runtime := next }
  | .syncPending entries result =>
    if entries = [] ∨ flushing.synced ≠ none then none
    else some (flushing.syncPending entries result)
  | .completeDurable =>
    match flushing.synced with
    | some (entries, committed, retry) => some (flushing.completeDurable entries committed retry)
    | none => none

def run (flushing : FlushingRuntime) : List FlushEvent → Option FlushingRuntime
  | [] => some flushing
  | event :: rest =>
    match flushing.step event with
    | some next => next.run rest
    | none => none

/-- A runtime right after startup. -/
def Opened (flushing : FlushingRuntime) (retry : RetryStateSnapshot) : Prop :=
  flushing.runtime.Opened retry ∧ flushing.synced = none ∧ flushing.commits = []

/-- A commit that `sync_pending` has returned, or one of an outcome that the store was opened
with. -/
def Made (flushing : FlushingRuntime) (opened : RetryStateSnapshot) (committed : ManifestCommit) :
    Prop :=
  committed ∈ flushing.commits ∨ ∃ outcome ∈ opened.replay, outcome.committed = committed

/-- What every step of a flushing runtime keeps. -/
structure Kept (opened : RetryStateSnapshot) (limits : ByteReservationLimits)
    (flushing : FlushingRuntime) : Prop where
  accounted : flushing.runtime.Accounted limits
  recorded : Recorded (flushing.Made opened) flushing.runtime.shared.retry
  truthful : ∀ receipt ∈ flushing.runtime.shared.receipts, receipt.Truthful (flushing.Made opened)
  synced : ∀ entries committed retry, flushing.synced = some (entries, committed, retry) →
    flushing.Made opened committed

variable {opened : RetryStateSnapshot} {limits : ByteReservationLimits}
  {flushing next : FlushingRuntime}

/-- A stop keeps everything; the batch of the worker may be gone with it. -/
theorem Kept.stopAll (h : flushing.Kept opened limits)
    {synced : Option (List DurableBatchEntry × ManifestCommit × RetryStateSnapshot)}
    (hsynced : synced = none ∨ synced = flushing.synced) :
    ({ flushing.setShared flushing.runtime.shared.stopAll with synced := synced } :
      FlushingRuntime).Kept opened limits := by
  have hstop : flushing.runtime.step .stop =
      some { flushing.runtime with shared := flushing.runtime.shared.stopAll } := rfl
  refine ⟨h.accounted.step hstop, h.recorded,
    (receipts_stopAll flushing.runtime.shared rfl).truthful h.truthful, ?_⟩
  intro entries committed retry heq
  obtain rfl | rfl := hsynced
  · cases heq
  · exact h.synced entries committed retry heq

theorem Kept.ingress (h : flushing.Kept opened limits) {event : RuntimeEvent} {runtime : Runtime}
    (hbatch : ∀ entries committed retry, event ≠ .completeDurableBatch entries committed retry)
    (hstep : flushing.runtime.step event = some runtime) :
    ({ flushing with runtime := runtime } : FlushingRuntime).Kept opened limits ∧
      Receipts (flushing.Made opened) flushing.runtime.shared.receipts runtime.shared.receipts := by
  obtain ⟨hreceipts, hretry⟩ :=
    Runtime.resolves_step h.accounted.balanced h.recorded hbatch hstep
  refine ⟨⟨h.accounted.step hstep, ?_, hreceipts.truthful h.truthful, h.synced⟩, hreceipts⟩
  change Recorded (flushing.Made opened) runtime.shared.retry
  rw [hretry]
  exact h.recorded

theorem Kept.syncPending (h : flushing.Kept opened limits) (entries : List DurableBatchEntry)
    (result : Option (ManifestCommit × RetryStateSnapshot)) :
    (flushing.syncPending entries result).Kept opened limits := by
  unfold FlushingRuntime.syncPending
  split
  next => exact h.stopAll (Or.inr rfl)
  next committed retry =>
    have hmore : ∀ made, flushing.Made opened made →
        FlushingRuntime.Made { flushing with
          synced := some (entries, committed, retry)
          commits := flushing.commits ++ [committed] } opened made :=
      fun made hmade => hmade.imp_left fun hmem => List.mem_append_left _ hmem
    refine ⟨h.accounted, ?_, ?_, ?_⟩
    · intro outcome houtcome
      obtain ⟨hwithin, hmade⟩ := h.recorded outcome houtcome
      exact ⟨hwithin, hmore _ hmade⟩
    · intro receipt hreceipt
      exact (h.truthful receipt hreceipt).mono hmore
    · intro _ _ _ heq
      cases heq
      exact Or.inl (List.mem_append_right _ List.mem_cons_self)

/-- The outcomes that a batch brings in are those of its own commit. -/
theorem recorded_advance {made : ManifestCommit → Prop} {before retry : RetryStateSnapshot}
    {entries : List DurableBatchEntry} {committed : ManifestCommit}
    (hrecorded : Recorded made before) (hmade : made committed)
    (hverified : before.verifiesTransition retry (entries.map (·.pendingOutcome)) committed =
      true) : Recorded made retry := by
  obtain ⟨reference, -, hadvance⟩ := RetryStateSnapshot.verifiesTransition_ok.mp hverified
  obtain ⟨-, -, -, hentries, -, hstate, -⟩ := RetryStateSnapshot.advance_ok hadvance
  intro outcome houtcome
  refine ⟨validateState_within hstate outcome houtcome, ?_⟩
  obtain hold | ⟨hcommitted, -⟩ := advanceEntries_replay hentries houtcome
  · exact (hrecorded outcome hold).2
  · rw [hcommitted]
    exact hmade

theorem Kept.completeDurable (h : flushing.Kept opened limits) {entries : List DurableBatchEntry}
    {committed : ManifestCommit} {retry : RetryStateSnapshot}
    (hmade : flushing.Made opened committed) :
    (flushing.completeDurable entries committed retry).Kept opened limits ∧
      Receipts (flushing.Made opened) flushing.runtime.shared.receipts
        (flushing.completeDurable entries committed retry).runtime.shared.receipts := by
  have hstep : flushing.runtime.step (.completeDurableBatch entries committed retry) =
      some { flushing.runtime with
        shared := (flushing.runtime.shared.completeDurableBatch entries committed retry).2 } := rfl
  have haccounted := h.accounted.step hstep
  unfold FlushingRuntime.completeDurable
  obtain ⟨shared, hwhole, hretry, hreceipts, hverified, -⟩ | hstopped :=
    completeDurableBatch_whole h.accounted.balanced hmade
  · rw [hwhole] at haccounted ⊢
    refine ⟨⟨haccounted, ?_, hreceipts.truthful h.truthful, nofun⟩, hreceipts⟩
    change Recorded (flushing.Made opened) shared.retry
    rw [hretry]
    exact recorded_advance h.recorded hmade hverified
  · rw [hstopped]
    have hfirst := h.stopAll (Or.inl rfl)
    have hreceipts : Receipts (flushing.Made opened) flushing.runtime.shared.receipts
        flushing.runtime.shared.stopAll.receipts := receipts_stopAll _ rfl
    exact ⟨hfirst.stopAll (Or.inl rfl), hreceipts.trans (receipts_stopAll _ rfl)⟩

/-- One step: the invariant, and the receipts that are resolved further. -/
theorem Kept.step (h : flushing.Kept opened limits) {event : FlushEvent}
    (hstep : flushing.step event = some next) :
    next.Kept opened limits ∧
      ∃ made, Receipts made flushing.runtime.shared.receipts next.runtime.shared.receipts := by
  cases event with
  | ingress event =>
    by_cases hbatch : ∃ entries committed retry,
        event = .completeDurableBatch entries committed retry
    · obtain ⟨_, _, _, rfl⟩ := hbatch
      cases hstep
    · push Not at hbatch
      have hstep' : (flushing.runtime.step event).map
          (fun next => { flushing with runtime := next }) = some next := by
        cases event with
        | completeDurableBatch entries committed retry =>
          exact absurd rfl (hbatch entries committed retry)
        | _ => exact hstep
      obtain ⟨runtime, hruntime, rfl⟩ := Option.map_eq_some_iff.mp hstep'
      obtain ⟨hkept, hreceipts⟩ := h.ingress hbatch hruntime
      exact ⟨hkept, _, hreceipts⟩
  | syncPending entries result =>
    simp only [FlushingRuntime.step] at hstep
    split at hstep
    next => cases hstep
    next =>
      cases hstep
      refine ⟨h.syncPending entries result, flushing.Made opened, ?_⟩
      unfold FlushingRuntime.syncPending
      split
      next => exact receipts_stopAll _ rfl
      next => exact Receipts.refl _
  | completeDurable =>
    simp only [FlushingRuntime.step] at hstep
    split at hstep
    next entries committed retry hsynced =>
      cases hstep
      obtain ⟨hkept, hreceipts⟩ := h.completeDurable (h.synced entries committed retry hsynced)
      exact ⟨hkept, _, hreceipts⟩
    next => cases hstep

theorem Kept.run {final : FlushingRuntime} {events : List FlushEvent}
    (h : flushing.Kept opened limits) (hrun : flushing.run events = some final) :
    final.Kept opened limits ∧ ∀ (index : Nat) (receipt : ReceiptState),
      flushing.runtime.shared.receipts[index]? = some receipt →
        ∃ later, final.runtime.shared.receipts[index]? = some later ∧ receipt.Later later := by
  induction events generalizing flushing with
  | nil =>
    cases hrun
    exact ⟨h, fun index receipt hreceipt => ⟨receipt, hreceipt, .refl receipt⟩⟩
  | cons event rest ih =>
    simp only [FlushingRuntime.run] at hrun
    split at hrun
    next next hstep =>
      obtain ⟨hnext, made, hreceipts⟩ := h.step hstep
      obtain ⟨hfinal, hkeeps⟩ := ih hnext hrun
      refine ⟨hfinal, ?_⟩
      intro index receipt hreceipt
      obtain ⟨middle, hmiddle, hlater⟩ := hreceipts.later hreceipt
      obtain ⟨later, hfound, hlater'⟩ := hkeeps index middle hmiddle
      exact ⟨later, hfound, hlater.trans hlater'⟩
    next => cases hrun

/-- Startup holds no receipt, and its projection is the one that was opened. -/
theorem Opened.kept (h : flushing.Opened opened) (hvalid : validateState opened = .ok ()) :
    flushing.Kept opened flushing.runtime.shared.byteLimits := by
  obtain ⟨hopened, hsynced, hcommits⟩ := h
  have haccounted := hopened.accounted hvalid
  obtain ⟨storeId, byteLimits, hinstall, -⟩ := hopened
  unfold installOpenedRetry at hinstall
  split at hinstall
  next => cases hinstall
  next =>
    have hshared := Option.some.inj hinstall
    refine ⟨haccounted, ?_, ?_, ?_⟩
    · rw [← hshared]
      intro outcome houtcome
      exact ⟨validateState_within hvalid outcome houtcome, Or.inr ⟨outcome, houtcome, rfl⟩⟩
    · rw [← hshared]
      exact nofun
    · intro _ _ _ heq
      rw [hsynced] at heq
      cases heq

/-- Receipts are resolved once and truthfully, whatever the order of the steps: a stage that has an
outcome keeps it, a stop included; a durable outcome repeats the handled one within a commit that
was made before; and a batch is taken as a whole or not at all. -/
theorem receipts_resolve_once {opened : RetryStateSnapshot} (hvalid : validateState opened = .ok ())
    {start middle final : FlushingRuntime} (hopened : start.Opened opened)
    {before after : List FlushEvent} (hbefore : start.run before = some middle)
    (hafter : middle.run after = some final) :
    (∀ (index : Nat) (receipt : ReceiptState),
      middle.runtime.shared.receipts[index]? = some receipt →
        ∃ later, final.runtime.shared.receipts[index]? = some later ∧ receipt.Later later) ∧
    (∀ receipt ∈ final.runtime.shared.receipts, ∀ commit,
      receipt.durable = some (.durable commit) →
        receipt.handled = some (.writerHandled commit.append) ∧
        commit.append.journal = commit.committed.durableCutoff.journal ∧
        commit.append.appendSequence ≤ commit.committed.durableCutoff.appendSequence ∧
        commit.append.endOffset ≤ commit.committed.durableCutoff.endOffset ∧
        (commit.committed ∈ final.commits ∨
          ∃ outcome ∈ opened.replay, outcome.committed = commit.committed)) ∧
    ∀ entries committed retry, ∃ done shared,
      final.runtime.shared.completeDurableBatch entries committed retry = (done, shared) ∧
      if done then
        shared.retry = retry ∧ ∀ entry ∈ entries, ∃ slot receipt,
          final.runtime.shared.slot? entry.slot = some slot ∧
          shared.receipts[slot.terminal]? = some receipt ∧
          receipt.durable = some (.durable ⟨entry.append, committed⟩)
      else
        shared.retry = final.runtime.shared.retry ∧ ∀ (index : Nat) (receipt : ReceiptState)
          (commit : DurableCommit), shared.receipts[index]? = some receipt →
            receipt.durable = some (.durable commit) →
            ∃ old, final.runtime.shared.receipts[index]? = some old ∧
              old.durable = some (.durable commit) := by
  obtain ⟨hmiddle, -⟩ := (hopened.kept hvalid).run hbefore
  obtain ⟨hfinal, hlater⟩ := hmiddle.run hafter
  refine ⟨hlater, ?_, ?_⟩
  · intro receipt hreceipt commit hdurable
    obtain ⟨hhandled, hcovered, hmade⟩ := hfinal.truthful receipt hreceipt commit hdurable
    exact ⟨hhandled, hcovered.journal, hcovered.sequence, hcovered.offset, hmade⟩
  · intro entries committed retry
    -- any commit is allowed here, so every one counts as made
    obtain ⟨shared, hdone, hretry, -, -, hresolved⟩ | hstopped :=
      @completeDurableBatch_whole (fun _ => True) _ hfinal.accounted.balanced entries committed
        retry trivial
    · exact ⟨true, shared, hdone, hretry, hresolved⟩
    · exact ⟨false, _, hstopped, rfl, fun _ _ _ => stopAll_durable⟩

def sampleAppend : AppendIdentity := ⟨⟨sampleIdentity 1, 1⟩, 1, 200⟩

def sampleSyncedCommit : ManifestCommit :=
  ⟨2, 1, 0, ⟨⟨sampleIdentity 1, 1⟩, 2, 1, 200⟩, ⟨1, 2⟩, 0, none⟩

/-- The projection behind a batch of the sample admission. -/
def sampleSynced : RetryStateSnapshot :=
  ⟨sampleIdentity 1, Runtime.sampleRetryOptions, some ⟨1, 2⟩,
    [⟨sampleAdmission.retry, 1, 200, sampleSyncedCommit⟩], []⟩

/-- A runtime that opened this projection, with the sample admission submitted to it. -/
def sampleReopened : FlushingRuntime :=
  ⟨⟨{ IngressState.new (sampleIdentity 1) Runtime.sampleByteLimits Runtime.sampleRetryOptions with
      retry := sampleSynced }, [], [], []⟩, none, []⟩

def sampleReplay : List FlushEvent :=
  [.ingress (.enter Runtime.sampleCommand), .ingress (.check 0), .ingress (.measure 0),
    .ingress (.reserve 0)]

/-- A reopened store replays a durable outcome although `sync_pending` has returned nothing. -/
theorem replay_reports_opened_commit :
    sampleReopened.Opened sampleSynced ∧ validateState sampleSynced = .ok () ∧
    ∃ final, sampleReopened.run sampleReplay = some final ∧ final.commits = [] ∧
      ∃ receipt ∈ final.runtime.shared.receipts,
        receipt.durable = some (.durable ⟨sampleAppend, sampleSyncedCommit⟩) := by
  refine ⟨⟨⟨sampleIdentity 1, Runtime.sampleByteLimits, rfl, rfl, rfl, rfl⟩, rfl, rfl⟩,
    by decide +kernel, (sampleReopened.run sampleReplay).getD sampleReopened, ?_⟩
  decide +kernel

/-- The sample admission from its submission to its durable receipt. -/
def sampleFlush : List FlushEvent :=
  sampleReplay ++ [.ingress (.prepare 0), .ingress (.enqueue 0), .ingress .takeNext,
    .ingress (.append 0 sampleAppend), .ingress (.publish 0), .ingress (.completeHandled 0),
    .syncPending [⟨0, sampleAdmission.retry, sampleAppend⟩]
      (some (sampleSyncedCommit, sampleSynced)),
    .completeDurable]

theorem receipts_resolve_once_sample :
    ∃ (final : FlushingRuntime) (receipt : ReceiptState),
      FlushingRuntime.run ⟨Runtime.sampleStart, none, []⟩ sampleFlush = some final ∧
      receipt ∈ final.runtime.shared.receipts ∧
      receipt.durable = some (.durable ⟨sampleAppend, sampleSyncedCommit⟩) ∧
      receipt.handled = some (.writerHandled sampleAppend) := by
  have hopened : FlushingRuntime.Opened ⟨Runtime.sampleStart, none, []⟩ Runtime.sampleRetryState :=
    ⟨⟨sampleIdentity 1, Runtime.sampleByteLimits, rfl, rfl, rfl, rfl⟩, rfl, rfl⟩
  have hreached : (FlushingRuntime.run ⟨Runtime.sampleStart, none, []⟩ sampleFlush).any
      (fun final =>
      final.runtime.shared.receipts.map (·.durable) =
        [some (.durable ⟨sampleAppend, sampleSyncedCommit⟩)]) = true := by decide +kernel
  obtain ⟨final, hrun, hreached⟩ := (Option.any_eq_true _ _).mp hreached
  have hdurable := of_decide_eq_true hreached
  obtain ⟨receipt, hreceipt, hcommit⟩ := List.mem_map.mp (hdurable ▸ List.mem_singleton_self _)
  have hresolved := receipts_resolve_once rfl hopened hrun (show final.run [] = some final from rfl)
  exact ⟨final, receipt, hrun, hreceipt, hcommit,
    (hresolved.2.1 receipt hreceipt _ hcommit).1⟩

end FlushingRuntime

end Historian
