import Historian.WriterMoves

namespace Historian

open Checks Files IngressState

namespace Writer

variable {writer next : Writer} {base : Nat} {queued : List Enqueued}

/-- Every step goes on with the course. -/
theorem Course.step {options : StoreOptions} {limits : ByteReservationLimits}
    {durable handled : Nat} (h : writer.Course base queued durable handled)
    (haccounted : writer.runtime.Accounted limits) (hsized : writer.Sized options)
    {event : WriterEvent} (hstep : writer.step options event = some next) :
    next.Advances base (queued ++ writer.enqueues event) durable handled := by
  cases h with
  | flowing flows last => exact flows.step haccounted hsized last hstep
  | halted halted => exact (halted.step haccounted hstep).advances

/-- The admissions of a run in the order in which their slots became queued. -/
def enqueued (options : StoreOptions) (writer : Writer) : List WriterEvent → List Enqueued
  | [] => []
  | event :: rest =>
    match writer.step options event with
    | some next => writer.enqueues event ++ next.enqueued options rest
    | none => []

theorem Course.run {options : StoreOptions} {limits : ByteReservationLimits} {durable handled : Nat}
    {final : Writer} (h : writer.Course base queued durable handled)
    (haccounted : writer.runtime.Accounted limits) (hsized : writer.Sized options)
    {events : List WriterEvent} (hlawful : ∀ event ∈ events, event.Lawful)
    (hrun : writer.run options events = some final) :
    ∃ durable' handled',
      final.Course base (queued ++ writer.enqueued options events) durable' handled' ∧
        final.runtime.Accounted limits := by
  induction events generalizing writer queued durable handled with
  | nil =>
    cases hrun
    refine ⟨durable, handled, ?_, haccounted⟩
    rw [enqueued, List.append_nil]
    exact h
  | cons event rest ih =>
    simp only [Writer.run] at hrun
    split at hrun
    next middle hstep =>
      obtain ⟨durable', handled', hcourse, -⟩ := h.step haccounted hsized hstep
      obtain ⟨later, more, hfinal, haccounted'⟩ := ih hcourse (haccounted.leads (leads_step hstep))
        (hsized.step (hlawful event List.mem_cons_self) hstep)
        (fun other hother => hlawful other (List.mem_cons_of_mem event hother)) hrun
      refine ⟨later, more, ?_, haccounted'⟩
      simp only [enqueued, hstep]
      rw [← List.append_assoc]
      exact hfinal
    next => cases hrun

/-- First in, first out: of the queued admissions a prefix is appended, with consecutive
sequences behind `base`; of the appended ones a prefix is handled, and of the handled ones a
prefix is durable. -/
structure Fifo (base : Nat) (queued : List Enqueued) (durable handled : Nat) (writer : Writer) :
    Prop where
  durable_le : durable ≤ handled
  handled_le : handled ≤ writer.runtime.journal.length
  appended : AppendOrder base queued writer.runtime.journal
  reported : writer.runtime.shared.Reported queued (writer.runtime.journal.map Prod.snd) durable
    handled

theorem Course.fifo {limits : ByteReservationLimits} {durable handled : Nat}
    (h : writer.Course base queued durable handled)
    (haccounted : writer.runtime.Accounted limits) :
    writer.Fifo base queued durable handled := by
  cases h with
  | flowing flows last =>
    exact ⟨Nat.le_add_right _ _, flows.handled_le, flows.appended,
      flows.reported haccounted.balanced⟩
  | halted halted =>
    exact ⟨halted.durable_le, halted.handled_le, halted.appended, halted.ended.reported⟩

end Writer

/-- A runtime that is just open has an empty line behind the root of its store. -/
theorem Writer.Course.open {options : StoreOptions} {d : StoreDirectory} {opened : Writer}
    {worker : StoreWorker} (hopen : Writer.open options d = some opened)
    (hworker : opened.worker = some worker) :
    opened.Course worker.store.current.cutoff.appendSequence.val [] 0 0 ∧
      opened.runtime.Accounted opened.runtime.shared.byteLimits := by
  unfold Writer.open at hopen
  split at hopen
  next => cases hopen
  next store effects hstore =>
    split at hopen
    next => cases hopen
    next =>
      rw [Option.map_eq_some_iff] at hopen
      obtain ⟨shared, hshared, rfl⟩ := hopen
      cases hworker
      obtain ⟨hlast, hvalid⟩ := yields_open_starts options.manifestConfig d store (by rw [hstore])
      obtain ⟨hoptions, hsame⟩ : store.retry.options = options.retry ∧
          shared = { IngressState.new options.storeId options.byteLimits options.retry with
            retry := store.retry } := by
        unfold IngressState.installOpenedRetry at hshared
        split at hshared
        next => cases hshared
        next hchecked =>
          simp only [not_or, not_not] at hchecked
          exact ⟨hchecked.2.2, (Option.some.inj hshared).symm⟩
      have hopened : (⟨shared, [], [], []⟩ : Runtime).Opened store.retry := by
        refine ⟨options.storeId, options.byteLimits, ?_, rfl, rfl, rfl⟩
        rw [hoptions]
        exact hshared
      have haccounted := hopened.accounted hvalid
      refine ⟨?_, haccounted⟩
      have hempty : ∀ slotIndex, shared.slot? slotIndex = none := by
        intro slotIndex
        rw [hsame]
        simp only [IngressState.new, IngressState.slot?, List.getElem?_replicate]
        split
        next => rfl
        next => rfl
      refine @Writer.Course.flowing _ _ _ [] [] ⟨store, [], none⟩ ?_ ?_
      · constructor
        case runs => rfl
        case live =>
          rw [hsame]
          intro hnone
          cases hnone
        case ring =>
          rw [hsame]
          exact FixedQueue.lists_new
        case line =>
          constructor
          case fresh =>
            intro slotIndex slot hslot
            rw [hempty] at hslot
            cases hslot
          case known =>
            intro entry hentry
            cases hentry
          case distinct => exact List.nodup_nil
          case length => rfl
          case settled =>
            intro k append hk
            cases hk
          case stands =>
            intro k place hk
            cases hk
        case carries => rfl
        case appends => rfl
        case appended =>
          refine ⟨List.prefix_refl _, ?_⟩
          intro k entry hk
          cases hk
        case barriers => exact Nat.le_refl _
        case shutdown => simp
        case waits => simp
      · exact congrArg Fin.val hlast

/-- In every run of the runtime, whatever its callers, its coordinator and its worker do in which
order: the admissions are appended in the order in which their slots became queued, with the
sequences behind the root that was opened, they are handled in that order, and what is durable
starts with the first of them and has no hole. A further step handles one admission at most, and
what it makes durable goes on where the durable admissions ended. -/
theorem admissions_are_fifo (options : StoreOptions) {d : StoreDirectory} {opened : Writer}
    {worker : StoreWorker} (hopen : Writer.open options d = some opened)
    (hworker : opened.worker = some worker) {events : List WriterEvent}
    (hlawful : ∀ event ∈ events, event.Lawful) {writer : Writer}
    (hrun : opened.run options events = some writer) :
    ∃ durable handled, writer.Fifo worker.store.current.cutoff.appendSequence.val
        (opened.enqueued options events) durable handled ∧
      ∀ event next, writer.step options event = some next →
        ∃ durable' handled', next.Fifo worker.store.current.cutoff.appendSequence.val
            (opened.enqueued options events ++ writer.enqueues event) durable' handled' ∧
          durable ≤ durable' ∧ handled ≤ handled' ∧ handled' ≤ handled + 1 := by
  obtain ⟨hcourse, haccounted⟩ := Writer.Course.open hopen hworker
  have hsized := Writer.Sized.open hopen
  obtain ⟨durable, handled, hreached, haccounted'⟩ :=
    hcourse.run haccounted hsized hlawful hrun
  rw [List.nil_append] at hreached
  refine ⟨durable, handled, hreached.fifo haccounted', ?_⟩
  intro event next hstep
  obtain ⟨durable', handled', hnext, hnumbers⟩ :=
    hreached.step haccounted' (hsized.run hlawful hrun) hstep
  exact ⟨durable', handled', hnext.fifo (haccounted'.leads (Writer.leads_step hstep)), hnumbers⟩

theorem roomyGroup_le : 4096 ≤ Runtime.sampleByteLimits.total.val := Nat.le_refl _

theorem roomyRecords_le : 3 ≤ maxOutstandingCommands := by decide

/-- Options whose journal takes every frame of the outstanding bytes, with groups of three. -/
def roomyOptions : StoreOptions :=
  { sampleOptions with
    journalLimits := sampleJournalLimits
    groupCommit := { sampleOptions.groupCommit with
      maxRecords := 3
      maxBytes := 4096
      records_pos := Nat.succ_pos 2
      records_le := roomyRecords_le
      bytes_pos := Nat.succ_pos 4095 }
    group_le := roomyGroup_le }

/-- A submission up to the section in which it is queued. -/
def submission (submit : Nat) (command : IngressCommand) : List WriterEvent :=
  [.submitter (.enter command), .submitter (.check submit), .submitter (.measure submit),
    .submitter (.reserve submit), .submitter (.prepare submit)]

/-- The coordinator and the worker deal with the next command. -/
def handling : List WriterEvent :=
  [.takeNext, .sendAppend, .work false, .preparePublication, .finishHandled, .sendPublished,
    .work false]

/-- Three admissions of all classes are queued in another order than they were submitted in, and
two of them are handled. -/
def roomyEvents : List WriterEvent :=
  [.registry (.register (sampleIdentity 1) sampleBinding sampleDeclarationPayload
      ⟨sampleTime, none⟩), .work false] ++
    submission 0 (Runtime.keyedCommand 'a' firstKey_printable .normal) ++
    submission 1 (Runtime.keyedCommand 'b' secondKey_printable .bulk) ++
    submission 2 (Runtime.keyedCommand 'c' thirdKey_printable .protectedClass) ++
    [.submitter (.enqueue 2), .submitter (.enqueue 0), .submitter (.enqueue 1)] ++ handling ++
    handling

theorem roomyEvents_lawful : ∀ event ∈ roomyEvents, event.Lawful := by
  have hfirst := Runtime.keyedCommand_built firstKey_printable .normal
  have hsecond := Runtime.keyedCommand_built secondKey_printable .bulk
  have hthird := Runtime.keyedCommand_built thirdKey_printable .protectedClass
  simp [roomyEvents, submission, handling, WriterEvent.Lawful, RuntimeEvent.Lawful, hfirst,
    hsecond, hthird]

/-- The last admission that was submitted is queued, appended and durable first; the first one is
appended behind it and not durable yet. -/
theorem admissions_are_fifo_sample :
    ∃ opened worker writer durable handled, Writer.open roomyOptions ∅ = some opened ∧
      opened.worker = some worker ∧ opened.run roomyOptions roomyEvents = some writer ∧
      writer.runtime.journal.map (fun entry => (entry.1, entry.2.appendSequence)) =
        [(sampleRetry 'c' thirdKey_printable, 1), (sampleRetry 'a' firstKey_printable, 2)] ∧
      writer.runtime.shared.receipts.map
          (fun receipt => (receipt.handled.isSome, receipt.durable.isSome)) =
        [(true, false), (false, false), (true, true)] ∧
      writer.Fifo worker.store.current.cutoff.appendSequence.val
        (opened.enqueued roomyOptions roomyEvents) durable handled := by
  have hreached : (Writer.open roomyOptions ∅).any (fun opened => opened.worker.isSome &&
      (opened.run roomyOptions roomyEvents).any fun writer =>
        decide (writer.runtime.journal.map (fun entry => (entry.1, entry.2.appendSequence)) =
            [(sampleRetry 'c' thirdKey_printable, 1), (sampleRetry 'a' firstKey_printable, 2)] ∧
          writer.runtime.shared.receipts.map
              (fun receipt => (receipt.handled.isSome, receipt.durable.isSome)) =
            [(true, false), (false, false), (true, true)])) = true := by
    decide +kernel
  obtain ⟨opened, hopen, hreached⟩ := (Option.any_eq_true _ _).mp hreached
  rw [Bool.and_eq_true] at hreached
  obtain ⟨worker, hworker⟩ := Option.isSome_iff_exists.mp hreached.1
  obtain ⟨writer, hrun, hreached⟩ := (Option.any_eq_true _ _).mp hreached.2
  obtain ⟨hjournal, hreceipts⟩ := of_decide_eq_true hreached
  obtain ⟨durable, handled, hfifo, -⟩ :=
    admissions_are_fifo roomyOptions hopen hworker roomyEvents_lawful hrun
  exact ⟨opened, worker, writer, durable, handled, hopen, hworker, hrun, hjournal, hreceipts,
    hfifo⟩

end Historian
