import Historian.WorkerOrder

namespace Historian

open Checks IngressState

theorem FixedQueue.Lists.room {queue : FixedQueue} {items : List Nat} (h : queue.Lists items)
    (hpush : queue.canPush = true) : items.length < maxOutstandingCommands := by
  unfold FixedQueue.canPush at hpush
  rw [h.len] at hpush
  simp only [Bool.and_eq_true, decide_eq_true_eq] at hpush
  exact hpush.1

namespace IngressState

variable {state next : IngressState} {queued : List Enqueued} {appends : List AppendIdentity}
  {durable handled : Nat}

/-- No section fills a slot behind the stop. -/
theorem stopped_section (hsection : state.Section next) (h : state.Stopped) : next.Stopped := by
  have hnone := h.2
  have hrewritten : ∀ {other : IngressState} {slotIndex : Nat} {slot : Slot} {new : Option Slot},
      ¬state.Rewrites other slotIndex slot new := by
    intro other slotIndex slot new hrewrites
    have hheld := hrewrites.held
    rw [hnone] at hheld
    cases hheld
  refine ⟨closed_section hsection h.1, ?_⟩
  have hslots : ∀ {other : IngressState}, other.slots = state.slots →
      ∀ slotIndex, other.slot? slotIndex = none := by
    intro other hsame slotIndex
    unfold slot?
    rw [hsame]
    exact hnone slotIndex
  cases hsection with
  | unchanged => exact hnone
  | reserve command measured =>
    rw [reserve_closed h.1]
    exact hnone
  | enqueue slotIndex terminal prepared command =>
    unfold IngressState.enqueue
    rw [hnone]
    exact slot?_stopAll state
  | rollbackPreparation slotIndex =>
    unfold IngressState.rollbackPreparation
    rw [hnone]
    exact hnone
  | takeNext =>
    cases htake : state.takeNext with
    | mk work other =>
      obtain ⟨_, _, _, -, -, -, hrewrites⟩ | ⟨-, hsame, -⟩ := takeNext_cases htake
      · exact absurd hrewrites hrewritten
      · exact hslots hsame
  | preparePublication slotIndex admission =>
    cases hprepare : state.preparePublication slotIndex admission with
    | mk preparation other => exact hslots (preparePublication_cases hprepare).1
  | unpublished slotIndex admission => exact slot?_stopAll _
  | completeHandled slotIndex admission append preparation =>
    cases hhandled : state.completeHandled slotIndex admission append preparation with
    | mk done other =>
      obtain ⟨hstopped, -⟩ | ⟨_, -, hrewrites⟩ := completeHandled_cases hhandled
      · exact hstopped.2
      · exact absurd hrewrites hrewritten
  | completeDurableBatch entries committed retry =>
    cases hbatch : state.completeDurableBatch entries committed retry with
    | mk done other =>
      obtain ⟨hstopped, -⟩ | hcommits := completeDurableBatch_cases hbatch
      · exact hstopped.2
      · rcases hcommits.slots with hstopped | ⟨-, hsame⟩
        · exact hstopped.2
        · intro slotIndex
          rw [hsame]
          split
          next => rfl
          next => exact hnone slotIndex
  | closeAdmission => exact hnone
  | stopAll => exact slot?_stopAll state

/-- A publication touches the latest observations only, and only when it succeeds. -/
theorem publish_shared (state : IngressState) (slotIndex : Nat) (admission : CanonicalAdmission) :
    (state.preparePublication slotIndex admission).2.slots = state.slots ∧
      (state.preparePublication slotIndex admission).2.queue = state.queue ∧
      (state.preparePublication slotIndex admission).2.latest.current = state.latest.current ∧
      ((state.preparePublication slotIndex admission).1 = none →
        (state.preparePublication slotIndex admission).2 = state) := by
  unfold IngressState.preparePublication
  split
  next =>
    split
    next =>
      split
      next plan _ =>
        have hcurrent : (state.latest.stage plan).2.current = state.latest.current := by
          cases plan with
          | noChange => rfl
          | advance base index candidate => rfl
        exact ⟨rfl, rfl, hcurrent, by simp⟩
      next => exact ⟨rfl, rfl, rfl, fun _ => rfl⟩
    next => exact ⟨rfl, rfl, rfl, fun _ => rfl⟩
  next => exact ⟨rfl, rfl, rfl, fun _ => rfl⟩

/-- A completion that is refused stops the runtime as it was. -/
theorem completeHandled_refused {state : IngressState} (hbalanced : state.Balanced)
    {slotIndex : Nat} {admission : CanonicalAdmission} {append : AppendIdentity}
    {preparation : PreparedPublication}
    (h : (state.completeHandled slotIndex admission append preparation).1 = false) :
    (state.completeHandled slotIndex admission append preparation).2 = state.stopAll := by
  unfold IngressState.completeHandled at h ⊢
  split
  next => rfl
  next slot hslot =>
    split
    next => rfl
    next hvalid =>
      simp only [not_or, not_not] at hvalid
      have hnone := (hbalanced.sound slotIndex slot hslot).no_append (by simp [hvalid.1])
      have hreceipt := hbalanced.receipt hslot
      rw [hnone] at hreceipt
      rw [hslot] at h
      dsimp only at h
      rw [if_neg (by simp [hvalid]), hreceipt] at h
      cases h

end IngressState

namespace Runtime

variable {runtime next final : Runtime}

/-- The runtime gets there with some steps of its own. -/
def Leads (runtime next : Runtime) : Prop := ∃ events, runtime.run events = some next

theorem Leads.refl : runtime.Leads runtime := ⟨[], rfl⟩

theorem Leads.cons {event : RuntimeEvent} (hstep : runtime.step event = some next)
    (h : next.Leads final) : runtime.Leads final := by
  obtain ⟨events, hrun⟩ := h
  refine ⟨event :: events, ?_⟩
  unfold Runtime.run
  rw [hstep]
  exact hrun

theorem Leads.step {event : RuntimeEvent} (hstep : runtime.step event = some next) :
    runtime.Leads next := .cons hstep .refl

theorem Leads.trans (h : runtime.Leads next) (h' : next.Leads final) : runtime.Leads final := by
  obtain ⟨events, hrun⟩ := h
  induction events generalizing runtime with
  | nil =>
    cases hrun
    exact h'
  | cons event rest ih =>
    simp only [Runtime.run] at hrun
    split at hrun
    next middle hstep => exact .cons hstep (ih hrun)
    next => cases hrun

/-- The worker changes the shared state with steps of the runtime. -/
theorem leads_settles {shared : IngressState} (h : runtime.shared.Settles shared) :
    runtime.Leads { runtime with shared := shared } := by
  induction h with
  | refl => exact .refl
  | stopAll _ ih => exact ih.trans (@Leads.step _ _ .stop rfl)
  | batch entries committed retry _ ih =>
    exact ih.trans (@Leads.step _ _ (.completeDurableBatch entries committed retry) rfl)

/-- The end of the coordinator drops every command in flight. -/
theorem leads_exit (runtime : Runtime) :
    runtime.Leads { runtime with shared := runtime.shared.stopAll, writer := [] } := by
  obtain ⟨shared, submits, writer, journal⟩ := runtime
  induction writer generalizing shared with
  | nil => exact @Leads.step _ _ .stop rfl
  | cons command rest ih =>
    have hrest := ih shared.stopAll
    rw [stopAll_stopAll] at hrest
    exact .cons (rfl : Runtime.step _ (.drop 0) = some _) hrest

variable {limits : ByteReservationLimits}

theorem Accounted.leads (h : runtime.Accounted limits) (hleads : runtime.Leads next) :
    next.Accounted limits := by
  obtain ⟨events, hrun⟩ := hleads
  exact h.run hrun

/-- Behind the end no report changes. -/
theorem Accounted.ended_leads {queued : List Enqueued} {appends : List AppendIdentity}
    {durable handled : Nat} (h : runtime.Accounted limits)
    (hended : runtime.shared.Ended queued appends durable handled) (hleads : runtime.Leads next) :
    next.shared.Ended queued appends durable handled := by
  obtain ⟨events, hrun⟩ := hleads
  induction events generalizing runtime with
  | nil =>
    cases hrun
    exact hended
  | cons event rest ih =>
    simp only [Runtime.run] at hrun
    split at hrun
    next middle hstep =>
      have hsection := step_section hstep
      have hstopped := stopped_section hsection hended.stopped
      exact ih (h.step hstep) (hended.later hstopped (extends_section h.balanced hsection)) hrun
    next => cases hrun

/-- The admission that a step puts into the ring. -/
def enqueues (runtime : Runtime) : RuntimeEvent → List Enqueued
  | .enqueue submit =>
    match runtime.submits[submit]? with
    | some (.prepared command slotIndex terminal prepared) =>
      match runtime.shared.slot? slotIndex,
        (runtime.shared.enqueue slotIndex terminal prepared command).1 with
      | some slot, .ok _ => [⟨slot.terminal, slot.qualification⟩]
      | _, _ => []
    | _ => []
  | _ => []

variable {queued : List Enqueued} {done : List AppendIdentity} {places : List Place}
  {items : List Nat}

/-- A submission takes nothing from the coordinator and appends nothing. -/
theorem submitter_keeps {event : RuntimeEvent} (hsubmitter : event.ofSubmitter = true)
    (hstep : runtime.step event = some next) :
    next.writer = runtime.writer ∧ next.journal = runtime.journal := by
  cases event with
  | enter command =>
    cases hstep
    exact ⟨rfl, rfl⟩
  | check submit =>
    simp only [Runtime.step] at hstep
    split at hstep
    next =>
      cases hstep
      unfold Runtime.check
      split
      next => exact ⟨rfl, rfl⟩
      next => exact ⟨rfl, rfl⟩
    next => cases hstep
  | measure submit =>
    simp only [Runtime.step] at hstep
    split at hstep
    next =>
      cases hstep
      exact ⟨rfl, rfl⟩
    next => cases hstep
  | reserve submit =>
    simp only [Runtime.step] at hstep
    split at hstep
    next =>
      cases hstep
      unfold Runtime.reserve
      split
      next => exact ⟨rfl, rfl⟩
      next => exact ⟨rfl, rfl⟩
    next => cases hstep
  | prepare submit =>
    simp only [Runtime.step] at hstep
    split at hstep
    next =>
      cases hstep
      exact ⟨rfl, rfl⟩
    next => cases hstep
  | enqueue submit =>
    simp only [Runtime.step] at hstep
    split at hstep
    next =>
      cases hstep
      exact ⟨rfl, rfl⟩
    next => cases hstep
  | rollback submit =>
    simp only [Runtime.step] at hstep
    split at hstep
    next =>
      cases hstep
      exact ⟨rfl, rfl⟩
    next => cases hstep
  | closeAdmission =>
    cases hstep
    exact ⟨rfl, rfl⟩
  | takeNext => cases hsubmitter
  | append => cases hsubmitter
  | publish => cases hsubmitter
  | completeHandled => cases hsubmitter
  | drop => cases hsubmitter
  | completeDurableBatch => cases hsubmitter
  | stop => cases hsubmitter

/-- A submission leaves the line as it is, or joins it at its end and the ring with it. -/
theorem Accounted.submits (h : runtime.Accounted limits) (hlive : ¬runtime.shared.HasStopped)
    (hline : runtime.shared.Line queued done places) (hring : runtime.shared.queue.Lists items)
    {event : RuntimeEvent} (hsubmitter : event.ofSubmitter = true)
    (hstep : runtime.step event = some next) :
    next.shared.latest = runtime.shared.latest ∧ ∃ slots,
      next.shared.Line (queued ++ runtime.enqueues event) done (places ++ slots.map .queued) ∧
        next.shared.queue.Lists (items ++ slots) := by
  have hquiet : ∀ {after : IngressState}, runtime.enqueues event = [] →
      after.Line queued done places → after.queue = runtime.shared.queue →
      ∃ slots, after.Line (queued ++ runtime.enqueues event) done (places ++ slots.map .queued) ∧
        after.queue.Lists (items ++ slots) := by
    intro after hnone hafter hqueue
    refine ⟨[], ?_, ?_⟩
    · rw [hnone, List.append_nil, List.map_nil, List.append_nil]
      exact hafter
    · rw [hqueue, List.append_nil]
      exact hring
  cases event with
  | enter command =>
    cases hstep
    exact ⟨rfl, hquiet rfl hline rfl⟩
  | check submit =>
    simp only [Runtime.step] at hstep
    split at hstep
    next command _ =>
      cases hstep
      unfold Runtime.check
      split
      next => exact ⟨rfl, hquiet rfl hline rfl⟩
      next => exact ⟨rfl, hquiet rfl hline rfl⟩
    next => cases hstep
  | measure submit =>
    simp only [Runtime.step] at hstep
    split at hstep
    next =>
      cases hstep
      exact ⟨rfl, hquiet rfl hline rfl⟩
    next => cases hstep
  | reserve submit =>
    simp only [Runtime.step] at hstep
    split at hstep
    next command measured _ =>
      cases hstep
      have hreserved := hline.reserve command measured
      have hsame : (runtime.shared.reserve command measured).2.queue = runtime.shared.queue ∧
          (runtime.shared.reserve command measured).2.latest = runtime.shared.latest := by
        obtain ⟨_, -, hsame | ⟨outcome, -, hsame⟩⟩ | ⟨_, _, -, -, -, hsame⟩ :=
          @reserve_next runtime.shared (runtime.shared.reserve command measured).2 command measured
            _ rfl
        · rw [hsame]
          exact ⟨rfl, rfl⟩
        · rw [hsame]
          exact ⟨rfl, rfl⟩
        · rw [hsame]
          exact ⟨rfl, rfl⟩
      unfold Runtime.reserve
      split
      next hreserve =>
        rw [hreserve] at hreserved hsame
        exact ⟨hsame.2, hquiet rfl hreserved hsame.1⟩
      next hreserve =>
        rw [hreserve] at hreserved hsame
        exact ⟨hsame.2, hquiet rfl hreserved hsame.1⟩
    next => cases hstep
  | prepare submit =>
    simp only [Runtime.step] at hstep
    split at hstep
    next =>
      cases hstep
      exact ⟨rfl, hquiet rfl hline rfl⟩
    next => cases hstep
  | enqueue submit =>
    simp only [Runtime.step] at hstep
    split at hstep
    next command slotIndex terminal prepared hsubmit =>
      cases hstep
      have hclaims : runtime.shared.Claimed slotIndex terminal prepared.frameLen :=
        h.claims submit _ hsubmit
      obtain hhalted | ⟨old, hold, hphase, -⟩ := hclaims
      · exact absurd hhalted.1 hlive
      · obtain ⟨after, henqueue, hafter, hqueue, hlatest⟩ :=
          @Line.enqueue _ _ _ _ hline h.balanced _ terminal prepared command _ hold hphase
        have hjoins : runtime.enqueues (.enqueue submit) = [⟨old.terminal, old.qualification⟩] := by
          simp only [enqueues, hsubmit, hold, henqueue]
        have hroom := hring.room (h.balanced.canPush hold (by simp [hphase]))
        have hshared : (runtime.enqueue submit command slotIndex terminal prepared).shared =
            after := by
          unfold Runtime.enqueue
          rw [henqueue]
        rw [hshared, hjoins]
        refine ⟨hlatest, [slotIndex], hafter, ?_⟩
        rw [hqueue]
        exact hring.push hroom slotIndex
    next => cases hstep
  | rollback submit =>
    simp only [Runtime.step] at hstep
    split at hstep
    next command slotIndex error hsubmit =>
      cases hstep
      have hpreparing : ∀ slot, runtime.shared.slot? slotIndex = some slot →
          slot.phase = .preparing := by
        intro slot hslot
        obtain ⟨-, hnone⟩ | ⟨own, hown, hphase, -⟩ := h.inv.submits submit _ _ _ hsubmit rfl
        · rw [hnone] at hslot
          cases hslot
        · rw [hown] at hslot
          cases hslot
          exact hphase
      have hsame : (runtime.shared.rollbackPreparation slotIndex).queue = runtime.shared.queue ∧
          (runtime.shared.rollbackPreparation slotIndex).latest = runtime.shared.latest := by
        unfold IngressState.rollbackPreparation
        split
        next => exact ⟨rfl, rfl⟩
        next => exact ⟨rfl, rfl⟩
      exact ⟨hsame.2, hquiet rfl (hline.rollbackPreparation hpreparing) hsame.1⟩
    next => cases hstep
  | closeAdmission =>
    cases hstep
    exact ⟨rfl, hquiet rfl (hline.unchanged rfl (Extends.refl _)) rfl⟩
  | takeNext => cases hsubmitter
  | append => cases hsubmitter
  | publish => cases hsubmitter
  | completeHandled => cases hsubmitter
  | drop => cases hsubmitter
  | completeDurableBatch => cases hsubmitter
  | stop => cases hsubmitter

end Runtime

namespace Writer

variable {options : StoreOptions} {writer next : Writer}

theorem leads_exit (writer : Writer) : writer.runtime.Leads writer.exit.runtime :=
  Runtime.leads_exit writer.runtime

theorem leads_settle {α : Type} {turn : Turn α} {L : ActiveJournalLimits}
    (h : turn.From L writer.runtime.shared) (rest : List StoreWorkerMessage) :
    writer.runtime.Leads (writer.settle turn rest).runtime :=
  Runtime.leads_settles h.settles

theorem leads_send (message : StoreWorkerMessage) (coordinator : Coordinator) :
    writer.runtime.Leads (writer.send message coordinator).runtime := by
  unfold Writer.send
  split
  next => exact writer.leads_exit
  next =>
    split
    next => exact .refl
    next => exact writer.leads_exit

theorem call_sends {message : StoreWorkerMessage} (h : writer.call message = some next) :
    next.runtime = writer.runtime ∧ next.coordinator = writer.coordinator ∧
      next.worker = writer.worker ∧
      (next.channel = writer.channel ∨ next.channel = writer.channel ++ [message]) := by
  unfold Writer.call at h
  split at h
  next =>
    split at h
    next =>
      cases h
      exact ⟨rfl, rfl, rfl, Or.inl rfl⟩
    next =>
      split at h
      next =>
        cases h
        exact ⟨rfl, rfl, rfl, Or.inr rfl⟩
      next =>
        cases h
        exact ⟨rfl, rfl, rfl, Or.inl rfl⟩
  next => cases h

theorem leads_takeNext (writer : Writer) : writer.runtime.Leads writer.takeNext.runtime := by
  have htakes : writer.runtime.Leads writer.runtime.takeNext :=
    @Runtime.Leads.step _ _ .takeNext rfl
  unfold Writer.takeNext
  dsimp only
  split
  next => exact htakes
  next => exact htakes
  next => exact htakes
  next => exact htakes
  next => exact htakes.trans (Runtime.leads_exit _)

theorem leads_answerAppend {turn : Turn AppendResult} {L : ActiveJournalLimits}
    (h : turn.From L writer.runtime.shared) (rest : List StoreWorkerMessage) :
    writer.runtime.Leads (writer.answerAppend turn rest).runtime := by
  have hsettled := leads_settle h rest
  unfold Writer.answerAppend
  dsimp only
  split
  next =>
    split
    next hstep => exact hsettled.trans (.step hstep)
    next => exact hsettled.trans (Runtime.leads_exit _)
  next => exact hsettled.trans (Runtime.leads_exit _)

/-- Whatever the worker answers, the runtime gets there with steps of its own. -/
theorem leads_handle (worker : StoreWorker) (aged : Bool) (rest : List StoreWorkerMessage)
    (message : StoreWorkerMessage) :
    writer.runtime.Leads (writer.handle options worker aged rest message).runtime := by
  cases message with
  | append slot prepared =>
    exact leads_answerAppend (StoreWorker.from_handleAppend rfl _ _ _ _ _) rest
  | published entry => exact leads_settle (StoreWorker.from_handlePublished rfl _ _ _ _ _) rest
  | barrier =>
    have hsettled := leads_settle (StoreWorker.from_handleBarrier rfl writer.runtime.shared
      writer.directory : (worker.handleBarrier _ _).From _ _) rest
    unfold Writer.handle Writer.answerBarrier
    dsimp only
    split
    next => exact hsettled
    next => exact hsettled.trans (Runtime.leads_exit _)
  | registry operation => exact leads_settle (StoreWorker.from_handleRegistry rfl _ _ _) rest
  | bind envelope => exact leads_settle (StoreWorker.from_handleBind rfl _ _) rest
  | shutdown =>
    have hsettled := leads_settle (StoreWorker.from_handleBarrier rfl writer.runtime.shared
      writer.directory : (worker.handleBarrier _ _).From _ _) []
    unfold Writer.handle Writer.answerShutdown
    dsimp only
    split
    next => exact hsettled
    next => exact hsettled.trans (Runtime.leads_exit _)

/-- Every step of the runtime as a whole is made of steps of its callers and of its state. -/
theorem leads_step {event : WriterEvent} (hstep : writer.step options event = some next) :
    writer.runtime.Leads next.runtime := by
  cases event with
  | submitter event =>
    simp only [Writer.step] at hstep
    split at hstep
    next =>
      rw [Option.map_eq_some_iff] at hstep
      obtain ⟨runtime, hruntime, rfl⟩ := hstep
      exact .step hruntime
    next => cases hstep
  | registry operation =>
    rw [(call_sends hstep).1]
    exact .refl
  | bind envelope =>
    rw [(call_sends hstep).1]
    exact .refl
  | takeNext =>
    simp only [Writer.step] at hstep
    split at hstep
    next =>
      cases hstep
      exact writer.leads_takeNext
    next => cases hstep
  | sendAppend =>
    simp only [Writer.step] at hstep
    split at hstep
    next =>
      cases hstep
      exact leads_send _ _
    next => cases hstep
  | preparePublication =>
    simp only [Writer.step] at hstep
    split at hstep
    next =>
      unfold Writer.preparePublication at hstep
      rw [Option.map_eq_some_iff] at hstep
      obtain ⟨runtime, hruntime, rfl⟩ := hstep
      split
      next => exact .cons hruntime (Runtime.leads_exit _)
      next => exact .step hruntime
    next => cases hstep
  | finishHandled =>
    simp only [Writer.step] at hstep
    split at hstep
    next =>
      unfold Writer.finishHandled at hstep
      split at hstep
      next =>
        rw [Option.map_eq_some_iff] at hstep
        obtain ⟨runtime, hruntime, rfl⟩ := hstep
        split
        next => exact .step hruntime
        next => exact .cons hruntime (Runtime.leads_exit _)
      next => cases hstep
    next => cases hstep
  | sendPublished =>
    simp only [Writer.step] at hstep
    split at hstep
    next =>
      cases hstep
      exact leads_send _ _
    next => cases hstep
  | sendBarrier =>
    simp only [Writer.step] at hstep
    split at hstep
    next =>
      cases hstep
      exact leads_send _ _
    next => cases hstep
  | sendShutdown =>
    simp only [Writer.step] at hstep
    split at hstep
    next =>
      cases hstep
      exact leads_send _ _
    next => cases hstep
  | work aged =>
    simp only [Writer.step] at hstep
    split at hstep
    next =>
      cases hstep
      exact leads_handle _ _ _ _
    next => cases hstep
  | timeout =>
    simp only [Writer.step] at hstep
    split at hstep
    next =>
      split at hstep
      next =>
        cases hstep
        exact leads_settle (StoreWorker.from_flushPending rfl _ _) _
      next => cases hstep
    next => cases hstep
  | dropRuntime =>
    cases hstep
    exact writer.leads_exit

end Writer

end Historian
