import Historian.WorkerSizes

namespace Historian

open Wire Checks Files IngressState

/-- What a worker does to the shared state: batches are completed, and everything is stopped. -/
inductive IngressState.Settles (state : IngressState) : IngressState → Prop
  | refl : Settles state state
  | stopAll {next : IngressState} (before : Settles state next) : Settles state next.stopAll
  | batch {next : IngressState} (entries : List DurableBatchEntry) (committed : ManifestCommit)
      (retry : RetryStateSnapshot) (before : Settles state next) :
    Settles state (next.completeDurableBatch entries committed retry).2

theorem IngressState.Settles.trans {first second third : IngressState}
    (h : first.Settles second) (h' : second.Settles third) : first.Settles third := by
  induction h' with
  | refl => exact h
  | stopAll _ ih => exact ih.stopAll
  | batch entries committed retry _ ih => exact ih.batch entries committed retry

theorem Runtime.Sized.settles {runtime : Runtime} {storeId : StoreId}
    {limits : ByteReservationLimits} (h : runtime.Sized storeId limits) {next : IngressState}
    (hnext : runtime.shared.Settles next) :
    ({ runtime with shared := next } : Runtime).Sized storeId limits := by
  induction hnext with
  | refl => exact h
  | stopAll _ ih => exact ih.step .stop trivial rfl
  | batch entries committed retry _ ih =>
    exact ih.step (.completeDurableBatch entries committed retry) trivial rfl

/-- The worker of a turn has the limits of `L`, and its shared state goes on from `shared`. -/
structure Turn.From {α : Type} (turn : Turn α) (L : ActiveJournalLimits) (shared : IngressState) :
    Prop where
  limits : turn.worker.store.journal.limits = L
  settles : shared.Settles turn.shared

namespace Turn

variable {α β : Type} {L : ActiveJournalLimits} {shared : IngressState} {worker : StoreWorker}

theorem from_done {output : α} (h : worker.store.journal.limits = L) :
    (Turn.done worker shared output).From L shared := ⟨h, .refl⟩

theorem from_failed {error : ManifestStoreError} (h : worker.store.journal.limits = L) :
    (Turn.failed worker shared error : Turn α).From L shared := ⟨h, .stopAll .refl⟩

theorem from_ofAnswer {answer : Answer α} (h : answer.store.journal.limits = L) :
    (Turn.ofAnswer worker shared answer).From L shared := by
  unfold Turn.ofAnswer
  split
  next => exact ⟨h, .refl⟩
  next => exact ⟨h, .stopAll .refl⟩

theorem From.andThen {turn : Turn α} (h : turn.From L shared) {d : StoreDirectory}
    {next : α → StoreWorker → IngressState → StoreDirectory → Turn β}
    (hnext : ∀ output (worker : StoreWorker) shared d, worker.store.journal.limits = L →
      (next output worker shared d).From L shared) : (turn.andThen d next).From L shared := by
  unfold Turn.andThen
  split
  next => exact ⟨h.limits, h.settles⟩
  next output _ =>
    obtain ⟨hlimits, hsettles⟩ := hnext output turn.worker turn.shared
      (applyAll d turn.effects) h.limits
    exact ⟨hlimits, h.settles.trans hsettles⟩

theorem ofAnswer_ok {answer : Answer α} {output : α}
    (h : (Turn.ofAnswer worker shared answer).result = .ok output) :
    answer.result = .ok output ∧
      (Turn.ofAnswer worker shared answer).worker = { worker with store := answer.store } := by
  unfold Turn.ofAnswer at h ⊢
  split at h
  next found hfound =>
    cases h
    exact ⟨hfound, rfl⟩
  next => cases h

/-- A round that succeeds has succeeded in its first part. -/
theorem andThen_ok {turn : Turn α} {d : StoreDirectory}
    {next : α → StoreWorker → IngressState → StoreDirectory → Turn β} {output : β}
    (h : (turn.andThen d next).result = .ok output) :
    ∃ first, turn.result = .ok first ∧
      (next first turn.worker turn.shared (applyAll d turn.effects)).result = .ok output ∧
      turn.andThen d next =
        { next first turn.worker turn.shared (applyAll d turn.effects) with
          effects := turn.effects ++
            (next first turn.worker turn.shared (applyAll d turn.effects)).effects } := by
  unfold Turn.andThen at h ⊢
  split at h
  next => cases h
  next first hfirst => exact ⟨first, hfirst, h, rfl⟩

end Turn

namespace StoreWorker

variable {worker : StoreWorker} {L : ActiveJournalLimits}

/-- The worker returns because the frame of this append is too large: for the decision about a
rotation, or for the append itself behind it. -/
def StopsForSize (worker : StoreWorker) (prepared : PreparedAdmissionV1) (aged : Bool)
    (shared : IngressState) (d : StoreDirectory) : Prop :=
  (∃ error, worker.planAppend prepared aged = .error error ∧ error.isSize = true) ∨
  ∃ frame demanded error, worker.planAppend prepared aged = .ok (frame, demanded) ∧
    (worker.makeRoom demanded shared d).result = .ok () ∧
    ((worker.makeRoom demanded shared d).worker.store.append frame
      (applyAll d (worker.makeRoom demanded shared d).effects)).result = .error error ∧
    error.isSize = true

theorem from_completeBatch (h : worker.store.journal.limits = L) (shared : IngressState)
    (committed : ManifestCommit) (retry : RetryStateSnapshot) :
    (worker.completeBatch shared committed retry).From L shared := by
  have hbatch : shared.Settles (shared.completeDurableBatch
      (worker.pending.map (·.batchEntry)) committed retry).2 := .batch _ _ _ .refl
  unfold completeBatch
  split
  next next hcomplete =>
    rw [hcomplete] at hbatch
    exact ⟨h, hbatch⟩
  next next hcomplete =>
    rw [hcomplete] at hbatch
    exact ⟨h, hbatch.stopAll⟩

theorem from_flushPending (h : worker.store.journal.limits = L) (shared : IngressState)
    (d : StoreDirectory) : (worker.flushPending shared d).From L shared := by
  unfold flushPending
  split
  next => exact Turn.from_done h
  next =>
    refine (Turn.from_ofAnswer ((syncPending_limits _).trans h)).andThen ?_
    intro commit worker shared d hworker
    exact from_completeBatch hworker shared commit.1 commit.2

theorem from_rotate (h : worker.store.journal.limits = L) (shared : IngressState)
    (d : StoreDirectory) : (worker.rotate shared d).From L shared := by
  unfold rotate
  refine (Turn.from_ofAnswer (rotate_limits.trans h)).andThen ?_
  intro _ worker shared d hworker
  exact Turn.from_done hworker

theorem from_makeRoom (h : worker.store.journal.limits = L) (demanded : Bool)
    (shared : IngressState) (d : StoreDirectory) :
    (worker.makeRoom demanded shared d).From L shared := by
  unfold makeRoom
  split
  next =>
    refine (from_flushPending h shared d).andThen ?_
    intro _ worker shared d hworker
    exact from_rotate hworker shared d
  next => exact Turn.from_done h

theorem from_appendFrame (h : worker.store.journal.limits = L) (slot : Nat)
    (frame : PreparedFrameV1) (frameLen : Nat) (shared : IngressState) (d : StoreDirectory) :
    (worker.appendFrame slot frame frameLen shared d).From L shared := by
  unfold appendFrame
  refine (Turn.from_ofAnswer ((append_limits _).trans h)).andThen ?_
  intro _ worker shared d hworker
  exact Turn.from_done hworker

theorem from_handleAppend (h : worker.store.journal.limits = L) (slot : Nat)
    (prepared : PreparedAdmissionV1) (aged : Bool) (shared : IngressState) (d : StoreDirectory) :
    (worker.handleAppend slot prepared aged shared d).From L shared := by
  unfold handleAppend
  split
  next => exact Turn.from_failed h
  next frame demanded _ =>
    refine (from_makeRoom h demanded shared d).andThen ?_
    intro _ worker shared d hworker
    exact from_appendFrame hworker slot frame prepared.frameLen shared d

theorem from_commitGroup (h : worker.store.journal.limits = L) (forced demanded : Bool)
    (shared : IngressState) (d : StoreDirectory) :
    (worker.commitGroup forced demanded shared d).From L shared := by
  unfold commitGroup
  refine Turn.From.andThen ?_ ?_
  · split
    next => exact from_flushPending h shared d
    next => exact Turn.from_done h
  · intro _ worker shared d hworker
    split
    next => exact from_rotate hworker shared d
    next => exact Turn.from_done hworker

theorem from_handlePublished (h : worker.store.journal.limits = L) (options : StoreOptions)
    (entry : PublishedAppend) (aged : Bool) (shared : IngressState) (d : StoreDirectory) :
    (worker.handlePublished options entry aged shared d).From L shared := by
  unfold handlePublished
  split
  next => exact Turn.from_failed h
  next =>
    have hjoined : (worker.join entry).store.journal.limits = L := h
    exact from_commitGroup hjoined _ _ shared d

theorem from_handleBarrier (h : worker.store.journal.limits = L) (shared : IngressState)
    (d : StoreDirectory) : (worker.handleBarrier shared d).From L shared := by
  unfold handleBarrier
  split
  next => exact Turn.from_failed h
  next => exact from_flushPending h shared d

theorem from_handleRegistry (h : worker.store.journal.limits = L)
    (operation : RegistryOperation) (shared : IngressState) (d : StoreDirectory) :
    (worker.handleRegistry operation shared d).From L shared := by
  have hstore : (operation.op.run worker.store d).store.journal.limits = L :=
    (StoreOp.run_limits operation.op).trans h
  unfold handleRegistry
  split
  next => exact Turn.from_failed h
  next =>
    dsimp only
    split
    next => exact ⟨hstore, .refl⟩
    next => exact ⟨hstore, .refl⟩
    next => exact ⟨hstore, .stopAll .refl⟩

theorem from_handleBind (h : worker.store.journal.limits = L) (envelope : CollectionEnvelope)
    (shared : IngressState) : (worker.handleBind envelope shared).From L shared := by
  unfold handleBind
  split
  next => exact Turn.from_failed h
  next =>
    split
    next => exact Turn.from_done h
    next => exact Turn.from_done h
    next => exact Turn.from_failed h

/-- The decision before an append refuses no frame that an empty generation takes, and builds the
frame that a caller can hold. -/
theorem isSize_planAppend {prepared : PreparedAdmissionV1} {aged : Bool}
    {error : ManifestStoreError} (hbuilt : prepared.admission.Built)
    (hnew : PreparedAdmissionV1.new prepared.admission = .ok prepared)
    (htakes : worker.store.journal.limits.Takes prepared.frameLen)
    (h : worker.planAppend prepared aged = .error error) : error.isSize = false := by
  unfold planAppend at h
  rcases bind_error.mp h with h | ⟨_, -, h⟩
  · obtain ⟨-, rfl⟩ := refuse_error.mp h
    rfl
  rcases bind_error.mp h with h | ⟨sequence, -, h⟩
  · unfold ManifestStore.nextAppendSequence at h
    rcases bind_error.mp h with h | ⟨_, -, h⟩
    · exact isSize_ensureUsable h
    · obtain ⟨journalError, hnext, rfl⟩ := mapError_error.mp h
      exact isSize_nextAppendSequence hnext
  obtain ⟨bytes, hinto, -, -⟩ := PreparedAdmissionV1.intoFrame_of_new hbuilt hnew sequence
  rcases bind_error.mp h with h | ⟨frame, -, h⟩
  · rw [hinto] at h
    cases h
  rcases bind_error.mp h with h | ⟨_, -, h⟩
  · exact isSize_preflight h
  rcases bind_error.mp h with h | ⟨_, -, h⟩
  · exact isSize_requiresRotation htakes h
  · exact absurd h pure_error

theorem planAppend_ok {prepared : PreparedAdmissionV1} {aged : Bool} {frame : PreparedFrameV1}
    {demanded : Bool} (hbuilt : prepared.admission.Built)
    (hnew : PreparedAdmissionV1.new prepared.admission = .ok prepared)
    (h : worker.planAppend prepared aged = .ok (frame, demanded)) :
    frame.Built ∧ frame.bytes.length = prepared.frameLen ∧
      (demanded = false → worker.store.journal.canFit prepared.frameLen = true) := by
  unfold planAppend at h
  obtain ⟨-, h⟩ := then_ok.mp h
  obtain ⟨sequence, -, h⟩ := bind_ok.mp h
  obtain ⟨built, hframe, h⟩ := bind_ok.mp h
  obtain ⟨-, h⟩ := then_ok.mp h
  obtain ⟨required, hrequired, h⟩ := bind_ok.mp h
  rw [pure_ok, Prod.mk.injEq] at h
  obtain ⟨rfl, rfl⟩ := h
  obtain ⟨bytes, hinto, hlen, -⟩ := PreparedAdmissionV1.intoFrame_of_new hbuilt hnew sequence
  rw [mapError_ok] at hframe
  have hsame := Except.ok.inj (hinto.symm.trans hframe)
  subst hsame
  refine ⟨⟨prepared.admission, prepared, hbuilt, hnew, hinto⟩, hlen, ?_⟩
  intro hdemanded
  rw [Bool.or_eq_false_iff] at hdemanded
  have hfit := requiresRotation_ok hrequired
  rw [hdemanded.2] at hfit
  simpa using hfit.symm

/-- Behind the rotation that a decision demands, and without one, the frame fits. -/
theorem canFit_makeRoom {frameLen : Nat} {demanded : Bool} {shared : IngressState}
    {d : StoreDirectory} (htakes : worker.store.journal.limits.Takes frameLen)
    (hfit : demanded = false → worker.store.journal.canFit frameLen = true)
    (hok : (worker.makeRoom demanded shared d).result = .ok ()) :
    (worker.makeRoom demanded shared d).worker.store.journal.canFit frameLen = true := by
  have hlimits := (@from_makeRoom worker _ rfl demanded shared d).limits
  cases demanded with
  | false => exact hfit rfl
  | true =>
    unfold makeRoom at hok hlimits ⊢
    simp only [↓reduceIte] at hok hlimits ⊢
    obtain ⟨_, -, hrotate, heq⟩ := Turn.andThen_ok hok
    unfold rotate at hrotate
    obtain ⟨commit, hanswer, -, heq'⟩ := Turn.andThen_ok hrotate
    have hempty := rotate_empty (Turn.ofAnswer_ok hanswer).1
    refine ActiveJournal.Empty.canFit ?_ (hlimits ▸ htakes)
    rw [heq]
    unfold rotate
    rw [heq']
    change (Turn.ofAnswer _ _ _).worker.store.journal.Empty
    rw [(Turn.ofAnswer_ok hanswer).2]
    exact hempty

/-- A worker never returns for the size of a frame that an empty generation takes. -/
theorem not_stopsForSize {prepared : PreparedAdmissionV1} {aged : Bool} {shared : IngressState}
    {d : StoreDirectory} (hbuilt : prepared.admission.Built)
    (hnew : PreparedAdmissionV1.new prepared.admission = .ok prepared)
    (htakes : worker.store.journal.limits.Takes prepared.frameLen) :
    ¬worker.StopsForSize prepared aged shared d := by
  rintro (⟨error, hplan, hsize⟩ | ⟨frame, demanded, error, hplan, hroom, happend, hsize⟩)
  · rw [isSize_planAppend hbuilt hnew htakes hplan] at hsize
    cases hsize
  · obtain ⟨hframe, hlen, hfit⟩ := planAppend_ok hbuilt hnew hplan
    have hfits := canFit_makeRoom htakes hfit hroom
    have hlimits := (@from_makeRoom worker _ rfl demanded shared d).limits
    rw [← hlen] at hfits htakes
    rw [← hlimits] at htakes
    rw [isSize_append hframe htakes hfits happend] at hsize
    cases hsize

end StoreWorker

namespace Writer

/-- Every command on its way to the worker was accepted within the limits of the options, and the
worker's store has the options' limits. -/
structure Sized (options : StoreOptions) (writer : Writer) : Prop where
  runtime : writer.runtime.Sized options.storeId options.byteLimits
  held : ∀ slot prepared priority barrier,
    writer.coordinator = .holding slot prepared priority barrier →
      prepared.Accepted options.storeId options.byteLimits
  sent : ∀ slot prepared, StoreWorkerMessage.append slot prepared ∈ writer.channel →
    prepared.Accepted options.storeId options.byteLimits
  limits : ∀ worker, writer.worker = some worker →
    worker.store.journal.limits = options.journalLimits

variable {options : StoreOptions} {writer next : Writer}

theorem Sized.exit (h : writer.Sized options) : writer.exit.Sized options where
  runtime := by
    have hstopped := h.runtime.settles (.stopAll .refl)
    exact ⟨hstopped.scope, hstopped.submits, hstopped.slots, fun _ _ hmem => nomatch hmem⟩
  held := fun _ _ _ _ hheld => nomatch hheld
  sent := fun _ _ hmem => nomatch hmem
  limits := fun _ hworker => nomatch hworker

/-- A step that sends nothing to the worker and takes nothing for it. -/
theorem Sized.setRuntime (h : writer.Sized options) {runtime : Runtime} {coordinator : Coordinator}
    (hruntime : runtime.Sized options.storeId options.byteLimits)
    (hcoordinator : ∀ slot prepared priority barrier,
      coordinator ≠ .holding slot prepared priority barrier) :
    ({ writer with runtime := runtime, coordinator := coordinator } : Writer).Sized options where
  runtime := hruntime
  held := fun slot prepared priority barrier hheld =>
    absurd hheld (hcoordinator slot prepared priority barrier)
  sent := h.sent
  limits := h.limits

theorem Sized.send (h : writer.Sized options) {message : StoreWorkerMessage}
    {coordinator : Coordinator}
    (hmessage : ∀ slot prepared, message = .append slot prepared →
      prepared.Accepted options.storeId options.byteLimits)
    (hcoordinator : ∀ slot prepared priority barrier,
      coordinator ≠ .holding slot prepared priority barrier) :
    (writer.send message coordinator).Sized options := by
  unfold Writer.send
  split
  next => exact h.exit
  next =>
    split
    next =>
      refine ⟨h.runtime, ?_, ?_, h.limits⟩
      · intro slot prepared priority barrier hheld
        exact absurd hheld (hcoordinator slot prepared priority barrier)
      · intro slot prepared hmem
        rw [List.mem_append, List.mem_singleton] at hmem
        obtain hmem | hmem := hmem
        · exact h.sent slot prepared hmem
        · exact hmessage slot prepared hmem.symm
    next => exact h.exit

theorem Sized.call (h : writer.Sized options) {message : StoreWorkerMessage}
    (hmessage : ∀ slot prepared, message ≠ .append slot prepared)
    (hcall : writer.call message = some next) : next.Sized options := by
  unfold Writer.call at hcall
  split at hcall
  next =>
    split at hcall
    next =>
      cases hcall
      exact h
    next =>
      split at hcall
      next =>
        cases hcall
        refine ⟨h.runtime, h.held, ?_, h.limits⟩
        intro slot prepared hmem
        rw [List.mem_append, List.mem_singleton] at hmem
        obtain hmem | hmem := hmem
        · exact h.sent slot prepared hmem
        · exact absurd hmem.symm (hmessage slot prepared)
      next =>
        cases hcall
        exact h
  next => cases hcall

theorem Sized.takeNext (h : writer.Sized options) : writer.takeNext.Sized options := by
  have htaken := h.runtime.takeNext
  have hquiet : ∀ coordinator : Coordinator,
      (∀ slot prepared priority barrier, coordinator ≠ .holding slot prepared priority barrier) →
      ({ writer with runtime := writer.runtime.takeNext, coordinator := coordinator } :
        Writer).Sized options := fun coordinator hne => h.setRuntime htaken hne
  unfold Writer.takeNext
  dsimp only
  split
  next slot prepared priority barrier hwork =>
    refine ⟨htaken, ?_, h.sent, h.limits⟩
    intro slot' prepared' priority' barrier' hheld
    cases hheld
    generalize hanswer : writer.runtime.shared.takeNext = answer at hwork
    obtain ⟨work, shared⟩ := answer
    obtain ⟨_, _, old, heq, -, hold, hrewrites⟩ | ⟨hne, -⟩ := takeNext_cases hanswer
    · rw [heq] at hwork
      cases hwork
      exact h.runtime.slots slot old prepared hrewrites.held hold
    · exact absurd hwork (hne slot prepared priority barrier)
  next => exact hquiet _ (by simp)
  next => exact ⟨htaken, h.held, h.sent, h.limits⟩
  next => exact hquiet _ (by simp)
  next => exact (⟨htaken, h.held, h.sent, h.limits⟩ : Sized options
      { writer with runtime := writer.runtime.takeNext }).exit

theorem Sized.settle {α : Type} (h : writer.Sized options) {turn : Turn α}
    {rest : List StoreWorkerMessage}
    (hturn : turn.From options.journalLimits writer.runtime.shared)
    (hrest : ∀ message ∈ rest, message ∈ writer.channel) :
    (writer.settle turn rest).Sized options where
  runtime := h.runtime.settles hturn.settles
  held := h.held
  sent := fun slot prepared hmem => h.sent slot prepared (hrest _ hmem)
  limits := by
    intro found hfound
    simp only [Writer.settle] at hfound
    split at hfound
    next =>
      cases hfound
      exact hturn.limits
    next => cases hfound

theorem Sized.answerAppend (h : writer.Sized options) {turn : Turn AppendResult}
    {rest : List StoreWorkerMessage}
    (hturn : turn.From options.journalLimits writer.runtime.shared)
    (hrest : ∀ message ∈ rest, message ∈ writer.channel) :
    (writer.answerAppend turn rest).Sized options := by
  have hsettled := h.settle hturn hrest
  unfold Writer.answerAppend
  dsimp only
  split
  next result slot priority barrier frameBytes _ _ =>
    split
    next runtime hstep =>
      refine hsettled.setRuntime ?_ (by simp)
      exact hsettled.runtime.step (.append 0 result.append) trivial hstep
    next => exact hsettled.exit
  next => exact hsettled.exit

theorem Sized.answerBarrier (h : writer.Sized options) {turn : Turn Unit}
    {rest : List StoreWorkerMessage}
    (hturn : turn.From options.journalLimits writer.runtime.shared)
    (hrest : ∀ message ∈ rest, message ∈ writer.channel) :
    (writer.answerBarrier turn rest).Sized options := by
  have hsettled := h.settle hturn hrest
  unfold Writer.answerBarrier
  split
  next => exact hsettled.setRuntime hsettled.runtime (by simp)
  next => exact hsettled.exit

theorem Sized.answerShutdown (h : writer.Sized options) {turn : Turn Unit}
    (hturn : turn.From options.journalLimits writer.runtime.shared) :
    (writer.answerShutdown turn).Sized options := by
  have hsettled : (writer.settle turn []).Sized options := by
    refine h.settle hturn ?_
    intro message hmem
    cases hmem
  unfold Writer.answerShutdown
  split
  next =>
    have hended := @Sized.setRuntime _ _ hsettled _ .exited hsettled.runtime (by simp)
    exact ⟨hended.runtime, hended.held, hended.sent, fun _ hworker => nomatch hworker⟩
  next => exact hsettled.exit

theorem Sized.handle (h : writer.Sized options) {worker : StoreWorker} {aged : Bool}
    {message : StoreWorkerMessage} {rest : List StoreWorkerMessage}
    (hworker : writer.worker = some worker)
    (hrest : ∀ message ∈ rest, message ∈ writer.channel) :
    (writer.handle options worker aged rest message).Sized options := by
  have hlimits := h.limits worker hworker
  cases message with
  | append slot prepared =>
    exact h.answerAppend (StoreWorker.from_handleAppend hlimits _ _ _ _ _) hrest
  | published entry =>
    exact h.settle (StoreWorker.from_handlePublished hlimits _ _ _ _ _) hrest
  | barrier => exact h.answerBarrier (StoreWorker.from_handleBarrier hlimits _ _) hrest
  | registry operation => exact h.settle (StoreWorker.from_handleRegistry hlimits _ _ _) hrest
  | bind envelope => exact h.settle (StoreWorker.from_handleBind hlimits _ _) hrest
  | shutdown => exact h.answerShutdown (StoreWorker.from_handleBarrier hlimits _ _)

theorem Sized.preparePublication (h : writer.Sized options) {entry : PublishedAppend}
    (hstep : writer.preparePublication entry = some next) : next.Sized options := by
  unfold Writer.preparePublication at hstep
  rw [Option.map_eq_some_iff] at hstep
  obtain ⟨runtime, hruntime, rfl⟩ := hstep
  have hsized := h.runtime.step (.publish 0) trivial hruntime
  split
  next =>
    exact (⟨hsized, h.held, h.sent, h.limits⟩ : Sized options
      { writer with runtime := runtime }).exit
  next => exact h.setRuntime hsized (by simp)

theorem Sized.finishHandled (h : writer.Sized options) {entry : PublishedAppend}
    (hstep : writer.finishHandled entry = some next) : next.Sized options := by
  unfold Writer.finishHandled at hstep
  split at hstep
  next =>
    rw [Option.map_eq_some_iff] at hstep
    obtain ⟨runtime, hruntime, rfl⟩ := hstep
    have hsized := h.runtime.step (.completeHandled 0) trivial hruntime
    split
    next => exact h.setRuntime hsized (by simp)
    next =>
      exact (⟨hsized, h.held, h.sent, h.limits⟩ : Sized options
        { writer with runtime := runtime }).exit
  next => cases hstep

theorem Sized.step (h : writer.Sized options) {event : WriterEvent} (hevent : event.Lawful)
    (hstep : writer.step options event = some next) : next.Sized options := by
  cases event with
  | submitter event =>
    simp only [Writer.step] at hstep
    split at hstep
    next =>
      rw [Option.map_eq_some_iff] at hstep
      obtain ⟨runtime, hruntime, rfl⟩ := hstep
      exact ⟨h.runtime.step _ hevent hruntime, h.held, h.sent, h.limits⟩
    next => cases hstep
  | registry operation => exact h.call (by simp) hstep
  | bind envelope => exact h.call (by simp) hstep
  | takeNext =>
    simp only [Writer.step] at hstep
    split at hstep
    next =>
      cases hstep
      exact h.takeNext
    next => cases hstep
  | sendAppend =>
    simp only [Writer.step] at hstep
    split at hstep
    next slot prepared priority barrier hholding =>
      cases hstep
      refine h.send ?_ (by simp)
      intro slot' prepared' hmessage
      cases hmessage
      exact h.held slot prepared priority barrier hholding
    next => cases hstep
  | preparePublication =>
    simp only [Writer.step] at hstep
    split at hstep
    next => exact h.preparePublication hstep
    next => cases hstep
  | finishHandled =>
    simp only [Writer.step] at hstep
    split at hstep
    next => exact h.finishHandled hstep
    next => cases hstep
  | sendPublished =>
    simp only [Writer.step] at hstep
    split at hstep
    next =>
      cases hstep
      exact h.send (by simp) (by simp)
    next => cases hstep
  | sendBarrier =>
    simp only [Writer.step] at hstep
    split at hstep
    next =>
      cases hstep
      exact h.send (by simp) (by simp)
    next => cases hstep
  | sendShutdown =>
    simp only [Writer.step] at hstep
    split at hstep
    next =>
      cases hstep
      exact h.send (by simp) (by simp)
    next => cases hstep
  | work aged =>
    simp only [Writer.step] at hstep
    split at hstep
    next worker message rest hworker hchannel =>
      cases hstep
      refine h.handle hworker ?_
      intro other hmem
      rw [hchannel]
      exact List.mem_cons_of_mem message hmem
    next => cases hstep
  | timeout =>
    simp only [Writer.step] at hstep
    split at hstep
    next worker hworker =>
      split at hstep
      next =>
        cases hstep
        exact h.settle (StoreWorker.from_flushPending (h.limits worker hworker) _ _)
          fun _ hmem => hmem
      next => cases hstep
    next => cases hstep
  | dropRuntime =>
    cases hstep
    exact h.exit

theorem Sized.run (h : writer.Sized options) {events : List WriterEvent}
    (hevents : ∀ event ∈ events, event.Lawful)
    (hrun : writer.run options events = some next) : next.Sized options := by
  induction events generalizing writer with
  | nil =>
    cases hrun
    exact h
  | cons event rest ih =>
    simp only [Writer.run] at hrun
    split at hrun
    next middle hstep =>
      exact ih (h.step (hevents event List.mem_cons_self) hstep)
        (fun other hother => hevents other (List.mem_cons_of_mem event hother)) hrun
    next => cases hrun

end Writer

theorem Runtime.sized_installed {storeId : StoreId} {limits : ByteReservationLimits}
    {options : RetryPersistenceOptions} {retry : RetryStateSnapshot} {shared : IngressState}
    (h : (IngressState.new storeId limits options).installOpenedRetry retry = some shared) :
    (⟨shared, [], [], []⟩ : Runtime).Sized storeId limits := by
  unfold IngressState.installOpenedRetry at h
  split at h
  next => cases h
  next =>
    cases h
    refine ⟨⟨rfl, rfl⟩, ?_, ?_, ?_⟩
    · intro phase hphase
      cases hphase
    · intro i slot prepared hslot
      simp only [IngressState.slot?, IngressState.new, List.getElem?_replicate] at hslot
      split at hslot
      next => cases hslot
      next => cases hslot
    · intro slot prepared hmem
      cases hmem

theorem Writer.Sized.open {options : StoreOptions} {d : StoreDirectory} {writer : Writer}
    (h : Writer.open options d = some writer) : writer.Sized options := by
  unfold Writer.open at h
  split at h
  next => cases h
  next store effects hopen =>
    split at h
    next => cases h
    next =>
      rw [Option.map_eq_some_iff] at h
      obtain ⟨shared, hshared, rfl⟩ := h
      refine ⟨Runtime.sized_installed hshared, ?_, ?_, ?_⟩
      · intro slot prepared priority barrier hheld
        cases hheld
      · intro slot prepared hmem
        cases hmem
      · intro worker hworker
        cases hworker
        exact (yields_open options.manifestConfig d store (by rw [hopen])).limits

/-- What the options promise about the size of every command that a submission can be told is
queued: the journal takes it. -/
def StoreOptions.Covers (options : StoreOptions) : Prop :=
  ∀ (admission : CanonicalAdmission) (frameLen : Nat), admission.Built →
    admission.storeId = options.storeId → admissionFrameLenV1 admission = .ok frameLen →
      frameLen ≤ options.byteLimits.total.val → options.journalLimits.Takes frameLen

/-- A submission of this command is told that it is queued, whatever ran before. -/
def StoreOptions.Queues (options : StoreOptions) (prepared : PreparedAdmissionV1) : Prop :=
  ∃ (retry : RetryStateSnapshot) (shared : IngressState) (events : List RuntimeEvent)
    (runtime : Runtime) (submit slot terminal : Nat) (command : IngressCommand),
    (IngressState.new options.storeId options.byteLimits options.retry).installOpenedRetry retry =
      some shared ∧ (∀ event ∈ events, event.Lawful) ∧
    (⟨shared, [], [], []⟩ : Runtime).run events = some runtime ∧
    runtime.submits[submit]? = some (.prepared command slot terminal prepared) ∧
    (runtime.shared.enqueue slot terminal prepared command).1 = .ok ⟨.queued, terminal⟩

namespace StoreOptions

variable (options : StoreOptions)

/-- The shared state of a new store, whose retry file is the first one and holds nothing. -/
def firstShared : IngressState :=
  { IngressState.new options.storeId options.byteLimits options.retry with
    retry := .emptyPersisted options.storeId options.retry ⟨0, 1⟩ }

theorem installs_first :
    (IngressState.new options.storeId options.byteLimits options.retry).installOpenedRetry
      (.emptyPersisted options.storeId options.retry ⟨0, 1⟩) = some options.firstShared := by
  unfold IngressState.installOpenedRetry
  rw [if_neg]
  · rfl
  · simp [IngressState.new, IngressState.activeCount, IngressState.occupied,
      RetryStateSnapshot.emptyPersisted, RetryStateSnapshot.empty]

/-- The first command of a new store takes the first slot, when its bytes are within the total. -/
theorem reserve_first {command : IngressCommand} {frameLen : Nat}
    (hstore : command.admission.storeId = options.storeId)
    (hpriority : command.priority = .protectedClass)
    (hlen : frameLen ≤ options.byteLimits.total.val) :
    options.firstShared.reserve command (.ok frameLen) = (.reserved 0 0 frameLen,
      { options.firstShared.setSlot 0 (some (options.firstShared.freshSlot command frameLen)) with
        reservedBytes := frameLen
        receipts := [.pending] }) := by
  have hopen : options.firstShared.refusal command = none := by
    simp [IngressState.refusal, firstShared, IngressState.new, hstore]
  have hslots : IngressState.classifySlots command.admission.retry options.firstShared.slots =
      none := by
    rw [classifySlots_none]
    simp [firstShared, IngressState.new]
  have hretry : options.firstShared.retry.classify command.admission.retry = .fresh := rfl
  have hroom : options.firstShared.canReserve command.priority frameLen = true := by
    simpa [IngressState.canReserve, firstShared, IngressState.new, hpriority,
      ByteReservationLimits.classCeiling] using hlen
  have hcount : options.firstShared.activeCount ≠ maxOutstandingCommands := by
    simp [IngressState.activeCount, IngressState.occupied, firstShared, IngressState.new,
      maxOutstandingCommands]
  have hfree : options.firstShared.slots.findIdx? (·.isNone) = some 0 := rfl
  have hbytes : options.firstShared.reservedBytes + frameLen = frameLen := Nat.zero_add frameLen
  unfold IngressState.reserve
  simp only [hopen, hslots, hretry]
  unfold IngressState.reserveFresh
  rw [if_neg hcount, if_neg (not_not.mpr hroom), hfree, hbytes]
  rfl

theorem queues_first {admission : CanonicalAdmission} {frameLen : Nat} (hbuilt : admission.Built)
    (hstore : admission.storeId = options.storeId)
    (hmeasure : admissionFrameLenV1 admission = .ok frameLen)
    (hlen : frameLen ≤ options.byteLimits.total.val) :
    ∃ prepared, options.Queues prepared ∧ prepared.frameLen = frameLen := by
  obtain ⟨prepared, hnew, hsame⟩ := hbuilt.prepared
  obtain rfl := Except.ok.inj (hmeasure.symm.trans hsame)
  let command : IngressCommand := ⟨admission, .protectedClass, .group⟩
  let shared := { options.firstShared.setSlot 0
      (some (options.firstShared.freshSlot command prepared.frameLen)) with
    reservedBytes := prepared.frameLen
    receipts := [.pending] }
  have hcheck : options.firstShared.refusal command = none := by
    simp [IngressState.refusal, firstShared, IngressState.new, command, hstore]
  have hreserve : options.firstShared.reserve command (admissionFrameLenV1 admission) =
      (.reserved 0 0 prepared.frameLen, shared) := by
    rw [hmeasure]
    exact options.reserve_first hstore rfl hlen
  refine ⟨prepared, ⟨_, _, [.enter command, .check 0, .measure 0, .reserve 0, .prepare 0],
    ⟨shared, [.prepared command 0 0 prepared], [], []⟩, 0, 0, 0, command, options.installs_first,
    ?_, ?_, rfl, ?_⟩, rfl⟩
  · simp [RuntimeEvent.Lawful, command, hbuilt]
  · simp [Runtime.run, Runtime.step, Runtime.check, Runtime.setSubmit, Runtime.reserve,
      Runtime.prepare, hcheck, hreserve, hnew, command]
  · simp [IngressState.enqueue, shared, IngressState.slot?, IngressState.setSlot, firstShared,
      IngressState.new, maxOutstandingCommands, IngressState.freshSlot, FixedQueue.canPush,
      FixedQueue.new]

end StoreOptions

namespace StoreOptions

variable {options : StoreOptions}

theorem Covers.takes (h : options.Covers) {prepared : PreparedAdmissionV1}
    (haccepted : prepared.Accepted options.storeId options.byteLimits) :
    options.journalLimits.Takes prepared.frameLen := by
  obtain ⟨hmeasure, -⟩ := PreparedAdmissionV1.new_measured haccepted.encoded
  exact h prepared.admission prepared.frameLen haccepted.built haccepted.store hmeasure
    haccepted.bytes

theorem Covers.queued (h : options.Covers) {prepared : PreparedAdmissionV1}
    (hqueues : options.Queues prepared) : options.journalLimits.Takes prepared.frameLen := by
  obtain ⟨retry, shared, events, runtime, submit, slot, terminal, command, hinstall, hlawful, hrun,
    hsubmit, -⟩ := hqueues
  have hsized := (Runtime.sized_installed hinstall).run hlawful hrun
  exact h.takes (hsized.submits _ (List.mem_of_getElem? hsubmit))

theorem Covers.never_stops (h : options.Covers) {d : StoreDirectory} {writer final : Writer}
    {events : List WriterEvent} (hopen : Writer.open options d = some writer)
    (hlawful : ∀ event ∈ events, event.Lawful) (hrun : writer.run options events = some final)
    {worker : StoreWorker} {slot : Nat} {prepared : PreparedAdmissionV1}
    {rest : List StoreWorkerMessage} (aged : Bool) (hworker : final.worker = some worker)
    (hchannel : final.channel = .append slot prepared :: rest) :
    ¬worker.StopsForSize prepared aged final.runtime.shared final.directory := by
  have hsized := (Writer.Sized.open hopen).run hlawful hrun
  have haccepted := hsized.sent slot prepared (hchannel ▸ List.mem_cons_self)
  refine StoreWorker.not_stopsForSize haccepted.built haccepted.encoded ?_
  rw [hsized.limits worker hworker]
  exact h.takes haccepted

/-- The limits alone decide it when the journal takes a frame of all outstanding bytes. -/
theorem covers_of_limits (hrecords : 0 < options.journalLimits.recordLimit)
    (hpayload : options.byteLimits.total.val ≤ options.journalLimits.payloadLimit + 24)
    (hactive : options.byteLimits.total.val + 28 ≤ options.journalLimits.activeBytes) :
    options.Covers := by
  intro admission frameLen _ _ _ hlen
  have hprefix : journalV1FramePrefixLen = 20 := rfl
  have hcrc : journalV1FrameCrcLen = 4 := rfl
  have hheader : journalV1HeaderLen = 28 := rfl
  exact ⟨hrecords, by omega, by omega⟩

end StoreOptions

/-- The options are safe exactly when the journal takes every frame that the outstanding bytes
take: then every command that is told to be queued fits, and the worker never returns for the size
of an append, in any run of the runtime. -/
theorem queued_sizes_never_stop (options : StoreOptions) :
    ((∀ prepared, options.Queues prepared → options.journalLimits.Takes prepared.frameLen) ∧
      ∀ (d : StoreDirectory) (writer final : Writer) (events : List WriterEvent),
        Writer.open options d = some writer → (∀ event ∈ events, event.Lawful) →
        writer.run options events = some final →
        ∀ (worker : StoreWorker) (slot : Nat) (prepared : PreparedAdmissionV1)
          (rest : List StoreWorkerMessage) (aged : Bool), final.worker = some worker →
          final.channel = .append slot prepared :: rest →
            ¬worker.StopsForSize prepared aged final.runtime.shared final.directory) ↔
      options.Covers := by
  constructor
  · rintro ⟨hqueued, -⟩ admission frameLen hbuilt hstore hmeasure hlen
    obtain ⟨prepared, hqueues, rfl⟩ := options.queues_first hbuilt hstore hmeasure hlen
    exact hqueued prepared hqueues
  · intro hcovers
    refine ⟨fun _ hqueues => hcovers.queued hqueues, ?_⟩
    intro d writer final events hopen hlawful hrun worker slot prepared rest aged hworker hchannel
    exact hcovers.never_stops hopen hlawful hrun aged hworker hchannel

/-- Of options whose journal takes a frame of all outstanding bytes, the worker never returns for
the size of an append. -/
theorem limits_never_stop {options : StoreOptions}
    (hrecords : 0 < options.journalLimits.recordLimit)
    (hpayload : options.byteLimits.total.val ≤ options.journalLimits.payloadLimit + 24)
    (hactive : options.byteLimits.total.val + 28 ≤ options.journalLimits.activeBytes)
    {d : StoreDirectory} {writer final : Writer} {events : List WriterEvent}
    (hopen : Writer.open options d = some writer) (hlawful : ∀ event ∈ events, event.Lawful)
    (hrun : writer.run options events = some final) {worker : StoreWorker} {slot : Nat}
    {prepared : PreparedAdmissionV1} {rest : List StoreWorkerMessage} (aged : Bool)
    (hworker : final.worker = some worker)
    (hchannel : final.channel = .append slot prepared :: rest) :
    ¬worker.StopsForSize prepared aged final.runtime.shared final.directory :=
  (StoreOptions.covers_of_limits hrecords hpayload hactive).never_stops hopen hlawful hrun aged
    hworker hchannel

theorem sampleSeries_persisted :
    sampleLimits.maxSeries.val ≤ maxPersistedRegistrySeries := by decide

theorem sampleRevisions_persisted :
    sampleLimits.maxDeclarationRevisions.val ≤ maxPersistedRegistryRevisions := by decide

/-- Options whose journal takes no more than 256 bytes, under 4096 outstanding bytes. -/
def sampleOptions : StoreOptions :=
  ⟨[47], sampleIdentity 1, .createNew,
    ⟨maxAdmissionPayloadV1, 256, 16, Nat.le_refl _, by decide, by decide, by decide⟩,
    Runtime.sampleByteLimits,
    ⟨1000000, 1, 1024, 1000000000, by decide, Nat.one_pos, by decide, by decide, by decide⟩,
    ⟨sampleLimits, sampleSeries_persisted, sampleRevisions_persisted⟩,
    Runtime.sampleRetryOptions, by decide, by decide, by decide⟩

/-- The declaration is registered, and its first admission is queued and sent to the worker. -/
def sampleWriterEvents : List WriterEvent :=
  [.registry (.register (sampleIdentity 1) sampleBinding sampleDeclarationPayload
      ⟨sampleTime, none⟩), .work false,
    .submitter (.enter Runtime.sampleCommand), .submitter (.check 0), .submitter (.measure 0),
    .submitter (.reserve 0), .submitter (.prepare 0), .submitter (.enqueue 0), .takeNext,
    .sendAppend]

/-- Whether the worker refuses the size of the sample admission that waits for it, and stops. -/
def refusesSample (final : Writer) : Bool :=
  match final.worker, final.channel with
  | some worker, [.append 0 prepared] =>
    (match worker.planAppend prepared false with
      | .error error => error.isSize
      | .ok _ => false) &&
    decide (prepared.admission = sampleAdmission ∧
      sampleOptions.journalLimits.activeBytes < journalV1HeaderLen + prepared.frameLen) &&
    (final.step sampleOptions (.work false)).any fun stopped =>
      stopped.worker.isNone && stopped.runtime.shared.closed
  | _, _ => false

theorem refusesSample_iff {final : Writer} (h : refusesSample final = true) :
    ∃ worker prepared stopped, final.worker = some worker ∧
      final.channel = [.append 0 prepared] ∧ prepared.admission = sampleAdmission ∧
      sampleOptions.journalLimits.activeBytes < journalV1HeaderLen + prepared.frameLen ∧
      worker.StopsForSize prepared false final.runtime.shared final.directory ∧
      final.step sampleOptions (.work false) = some stopped ∧ stopped.worker.isNone = true ∧
      stopped.runtime.shared.closed = true := by
  unfold refusesSample at h
  split at h
  next worker prepared hworker hchannel =>
    rw [Bool.and_eq_true, Bool.and_eq_true] at h
    obtain ⟨⟨hplan, hsize⟩, hstopped⟩ := h
    obtain ⟨hadmission, hbytes⟩ := of_decide_eq_true hsize
    obtain ⟨stopped, hstep, hstopped⟩ := (Option.any_eq_true _ _).mp hstopped
    rw [Bool.and_eq_true] at hstopped
    refine ⟨worker, prepared, stopped, hworker, hchannel, hadmission, hbytes, Or.inl ?_, hstep,
      hstopped.1, hstopped.2⟩
    split at hplan
    next error herror => exact ⟨error, herror, hplan⟩
    next => cases hplan
  next => cases h

/-- The options are accepted and the command is queued, but no generation takes its frame: the
worker stops the runtime with a size error. -/
theorem queued_size_stops_writer :
    (StoreOptions.new sampleOptions.directory sampleOptions.storeId sampleOptions.mode
      sampleOptions.journalLimits sampleOptions.byteLimits sampleOptions.groupCommit
      sampleOptions.registry sampleOptions.retry).toOption.isSome = true ∧
    (∀ event ∈ sampleWriterEvents, event.Lawful) ∧
    ∃ writer final worker prepared stopped, Writer.open sampleOptions ∅ = some writer ∧
      writer.run sampleOptions sampleWriterEvents = some final ∧
      final.runtime.submits = [.finished (.ok ⟨.queued, 0⟩)] ∧
      final.worker = some worker ∧ final.channel = [.append 0 prepared] ∧
      prepared.admission = sampleAdmission ∧
      sampleOptions.journalLimits.activeBytes < journalV1HeaderLen + prepared.frameLen ∧
      worker.StopsForSize prepared false final.runtime.shared final.directory ∧
      final.step sampleOptions (.work false) = some stopped ∧ stopped.worker.isNone = true ∧
      stopped.runtime.shared.closed = true := by
  have hlawful : ∀ event ∈ sampleWriterEvents, event.Lawful := by
    have hbuilt := Runtime.sampleCommand_built
    simp [sampleWriterEvents, WriterEvent.Lawful, RuntimeEvent.Lawful, hbuilt]
  refine ⟨by decide, hlawful, ?_⟩
  have hreached : (Writer.open sampleOptions ∅).any (fun writer =>
      (writer.run sampleOptions sampleWriterEvents).any fun final =>
        decide (final.runtime.submits = [.finished (.ok ⟨.queued, 0⟩)]) &&
          refusesSample final) = true := by decide +kernel
  obtain ⟨writer, hopen, hreached⟩ := (Option.any_eq_true _ _).mp hreached
  obtain ⟨final, hrun, hreached⟩ := (Option.any_eq_true _ _).mp hreached
  rw [Bool.and_eq_true] at hreached
  obtain ⟨worker, prepared, stopped, hrest⟩ := refusesSample_iff hreached.2
  exact ⟨writer, final, worker, prepared, stopped, hopen, hrun, of_decide_eq_true hreached.1,
    hrest⟩

end Historian
