import Historian.WriterRuns

namespace Historian

open Checks IngressState

/-- A handled admission waits in its slot. -/
def PendingDurable.place (entry : PendingDurable) : Place := .waiting entry.slot entry.append

/-- The published append that a message carries. -/
def StoreWorkerMessage.entries : StoreWorkerMessage → List PendingDurable
  | .published entry => [entry.pending]
  | _ => []

def StoreWorkerMessage.barriers : StoreWorkerMessage → Nat
  | .barrier => 1
  | _ => 0

namespace Coordinator

def entries : Coordinator → List PendingDurable
  | .handled entry => [entry.pending]
  | _ => []

def barriers : Coordinator → Nat
  | .awaitingBarrier => 1
  | _ => 0

/-- The command that the coordinator has in flight, and it has one at most. -/
def Carries : Coordinator → List InFlightCommand → Prop
  | .holding slot prepared _ _, commands => commands = [.taken slot prepared]
  | .awaitingAppend slot _ _ _, commands => ∃ prepared, commands = [.taken slot prepared]
  | .appended entry, commands =>
    ∃ admission, commands = [.appended entry.slot admission entry.append]
  | .staged entry, commands => ∃ admission preparation,
    commands = [.published entry.slot admission entry.append preparation]
  | _, commands => commands = []

end Coordinator

def InFlightCommand.appends : InFlightCommand → List AppendIdentity
  | .taken _ _ => []
  | .appended _ _ append => [append]
  | .published _ _ append _ => [append]

def InFlightCommand.place (command : InFlightCommand) : Place := .flying command.slotIndex

namespace IngressState

variable {state next : IngressState} {queued : List Enqueued} {done : List AppendIdentity}

/-- What becomes of the group becomes of the front of the line. -/
theorem Line.commits {pending left : List PendingDurable} {places : List Place}
    (h : state.Line queued done (pending.map (·.place) ++ places)) (hbalanced : state.Balanced)
    (hcommits : CommitsGroup pending state left next) :
    ∃ newly, next.Line queued (done ++ newly) (left.map (·.place) ++ places) ∧
      newly ++ left.map (·.append) = pending.map (·.append) ∧ next.Balanced ∧
      next.queue = state.queue ∧ next.latest = state.latest := by
  cases hcommits with
  | kept =>
    refine ⟨[], ?_, rfl, hbalanced, rfl, rfl⟩
    rw [List.append_nil]
    exact h
  | batch committed retry haccepted =>
    have hplaces : pending.map (·.place) = (pending.map (·.batchEntry)).map
        (fun entry => .waiting entry.slot entry.append) := by
      rw [List.map_map]
      rfl
    rw [hplaces] at h
    obtain ⟨hline, hqueue, hlatest⟩ := h.completeDurableBatch hbalanced haccepted
    refine ⟨pending.map (·.append), ?_, ?_, hbalanced.completeDurableBatch, hqueue, hlatest⟩
    · rw [List.map_map] at hline
      exact hline
    · rw [List.map_nil, List.append_nil]

/-- What the receipts report, for the admissions of a line with its group. -/
theorem Line.group_reported {group : List PendingDurable} {places : List Place}
    {appends : List AppendIdentity} (h : state.Line queued done (group.map (·.place) ++ places))
    (hbalanced : state.Balanced)
    (hplaces : ∀ place ∈ places, ∀ slotIndex append, place ≠ .waiting slotIndex append)
    (happends : done ++ group.map (·.append) <+: appends) :
    state.Reported queued appends done.length (done.length + group.length) := by
  have hwaiting : group.map (·.place) = (group.map fun entry => (entry.slot, entry.append)).map
      (fun entry => .waiting entry.1 entry.2) := by
    rw [List.map_map]
    rfl
  have hsame : (group.map fun entry => (entry.slot, entry.append)).map Prod.snd =
      group.map (·.append) := by
    rw [List.map_map]
    rfl
  rw [hwaiting] at h
  rw [← hsame] at happends
  have hreported := h.reported hbalanced hplaces happends
  rw [List.length_map] at hreported
  exact hreported

/-- In a state that nothing leads on from, every admission of the line is durable. -/
theorem Line.stopped {places : List Place} {appends : List AppendIdentity} {durable handled : Nat}
    (h : state.Line queued done places) (stopped : state.Stopped)
    (reported : state.Reported queued appends durable handled) :
    state.Ended queued appends durable handled := by
  refine ⟨stopped, reported, ?_⟩
  intro entry hentry receipt hreceipt
  obtain ⟨k, hk⟩ := List.mem_iff_getElem?.mp hentry
  have hlt := (List.getElem?_eq_some_iff.mp hk).1
  have hlength := h.length
  by_cases hdurable : k < done.length
  · obtain ⟨found, committed, hfound, hknown⟩ := h.settled k _ (List.getElem?_eq_getElem hdurable)
    rw [hk] at hfound
    cases hfound
    rw [hreceipt] at hknown
    cases hknown
    exact ⟨by simp, by simp⟩
  · have hplace := List.getElem?_eq_getElem (show k - done.length < places.length by omega)
    obtain ⟨_, -, slot, hslot, -⟩ := h.stands (k - done.length) _ hplace
    rw [stopped.2] at hslot
    cases hslot

end IngressState

theorem prefix_snoc {α : Type} {front whole : List α} {x : α} (h : front <+: whole)
    (hx : whole[front.length]? = some x) : front ++ [x] <+: whole := by
  obtain ⟨more, rfl⟩ := h
  rw [List.getElem?_append_right (Nat.le_refl _), Nat.sub_self] at hx
  cases more with
  | nil => cases hx
  | cons y more =>
    cases hx
    exact ⟨more, by simp⟩

/-- The appends of a runtime belong to the queued admissions in their order, and their sequences
count on from `base`. -/
structure AppendOrder (base : Nat) (queued : List Enqueued)
    (journal : List (RetryQualification × AppendIdentity)) : Prop where
  ordered : journal.map Prod.fst <+: queued.map (·.qualification)
  numbered : ∀ (k : Nat) (entry : RetryQualification × AppendIdentity),
    journal[k]? = some entry → entry.2.appendSequence.val = base + k + 1

namespace Writer

/-- The handled admissions that are not durable, in the order in which they reach the worker. -/
def group (writer : Writer) (worker : StoreWorker) : List PendingDurable :=
  worker.pending ++ (writer.channel.flatMap (·.entries) ++ writer.coordinator.entries)

/-- The admissions that are not handled. -/
def ahead (writer : Writer) (items : List Nat) : List Place :=
  writer.runtime.writer.map (·.place) ++ items.map .queued

/-- The runtime while its worker runs: durable, handled, in flight and queued admissions stand one
behind the other. -/
structure Flowing (base : Nat) (queued : List Enqueued) (done : List AppendIdentity)
    (items : List Nat) (worker : StoreWorker) (writer : Writer) : Prop where
  runs : writer.worker = some worker
  live : ¬writer.runtime.shared.HasStopped
  ring : writer.runtime.shared.queue.Lists items
  line : writer.runtime.shared.Line queued done
    ((writer.group worker).map (·.place) ++ writer.ahead items)
  carries : writer.coordinator.Carries writer.runtime.writer
  appends : writer.runtime.journal.map Prod.snd = done ++ (writer.group worker).map (·.append) ++
    writer.runtime.writer.flatMap (·.appends)
  appended : AppendOrder base queued writer.runtime.journal
  barriers : (writer.channel.map (·.barriers)).sum ≤ writer.coordinator.barriers
  shutdown : StoreWorkerMessage.shutdown ∉ writer.channel
  waits : writer.coordinator ≠ .drained

/-- The runtime behind its end. -/
structure Over (base : Nat) (queued : List Enqueued) (durable handled : Nat) (writer : Writer) :
    Prop where
  quiet : writer.worker = none ∨ writer.runtime.writer = []
  ended : writer.runtime.shared.Ended queued (writer.runtime.journal.map Prod.snd) durable handled
  durable_le : durable ≤ handled
  handled_le : handled ≤ writer.runtime.journal.length
  appended : AppendOrder base queued writer.runtime.journal

variable {writer next : Writer} {base : Nat} {queued : List Enqueued} {done : List AppendIdentity}
  {items : List Nat} {worker : StoreWorker}

theorem ahead_not_waiting (writer : Writer) (items : List Nat) :
    ∀ place ∈ writer.ahead items, ∀ slotIndex append, place ≠ .waiting slotIndex append := by
  intro place hplace slotIndex append hwaiting
  subst hwaiting
  rcases List.mem_append.mp hplace with hflying | hqueued
  · obtain ⟨command, -, hcommand⟩ := List.mem_map.mp hflying
    cases hcommand
  · obtain ⟨item, -, hitem⟩ := List.mem_map.mp hqueued
    cases hitem

theorem Flowing.reported (h : writer.Flowing base queued done items worker)
    (hbalanced : writer.runtime.shared.Balanced) :
    writer.runtime.shared.Reported queued (writer.runtime.journal.map Prod.snd) done.length
      (done.length + (writer.group worker).length) := by
  refine h.line.group_reported hbalanced (ahead_not_waiting writer items) ?_
  rw [h.appends]
  exact List.prefix_append _ _

theorem Flowing.handled_le (h : writer.Flowing base queued done items worker) :
    done.length + (writer.group worker).length ≤ writer.runtime.journal.length := by
  have hlength := congrArg List.length h.appends
  simp only [List.length_map, List.length_append] at hlength
  omega

/-- The end of a runtime that is stopped. -/
theorem Flowing.stop (h : writer.Flowing base queued done items worker)
    (hbalanced : writer.runtime.shared.Balanced)
    (hshared : next.runtime.shared = writer.runtime.shared.stopAll)
    (hjournal : next.runtime.journal = writer.runtime.journal)
    (hquiet : next.worker = none ∨ next.runtime.writer = []) :
    next.Over base queued done.length (done.length + (writer.group worker).length) where
  quiet := hquiet
  ended := by
    rw [hshared, hjournal]
    exact h.line.stopAll (h.reported hbalanced)
  durable_le := Nat.le_add_right _ _
  handled_le := by
    rw [hjournal]
    exact h.handled_le
  appended := by
    rw [hjournal]
    exact h.appended

/-- The worker takes messages from the channel, and may commit the group behind them. -/
theorem Flowing.commit (h : writer.Flowing base queued done items worker)
    (hbalanced : writer.runtime.shared.Balanced) {pending : List PendingDurable}
    {worker' : StoreWorker} {after : IngressState} {rest : List StoreWorkerMessage}
    {d : StoreDirectory}
    (hgroup : worker.pending ++ writer.channel.flatMap (·.entries) =
      pending ++ rest.flatMap (·.entries))
    (hsuffix : rest <:+ writer.channel)
    (hcommits : CommitsGroup pending writer.runtime.shared worker'.pending after) :
    ∃ done', ({ writer.setShared after with
          channel := rest
          worker := some worker'
          directory := d } : Writer).Flowing base queued done' items worker' ∧
      after.Balanced ∧ done.length ≤ done'.length ∧
      done'.length + (({ writer.setShared after with
          channel := rest
          worker := some worker'
          directory := d } : Writer).group worker').length =
        done.length + (writer.group worker).length := by
  have hsame : (writer.group worker).map (·.place) ++ writer.ahead items =
      pending.map (·.place) ++ ((rest.flatMap (·.entries) ++ writer.coordinator.entries).map
        (·.place) ++ writer.ahead items) := by
    unfold group
    rw [← List.append_assoc worker.pending, hgroup]
    simp only [List.map_append, List.append_assoc]
  have hline := h.line
  rw [hsame] at hline
  obtain ⟨newly, hafter, happends, hbalanced', hqueue, hlatest⟩ := hline.commits hbalanced hcommits
  have hlengths := congrArg List.length happends
  have hgroups := congrArg List.length hgroup
  simp only [List.length_append, List.length_map] at hlengths hgroups
  refine ⟨done ++ newly, ?_, hbalanced', ?_, ?_⟩
  rotate_left
  · rw [List.length_append]
    exact Nat.le_add_right _ _
  · unfold group
    simp only [List.length_append, setShared]
    omega
  obtain ⟨before, hbefore⟩ := hsuffix
  constructor
  case runs => rfl
  case live =>
    change ¬after.latest.current = none
    rw [hlatest]
    exact h.live
  case ring =>
    change after.queue.Lists items
    rw [hqueue]
    exact h.ring
  case line =>
    rw [← List.append_assoc, ← List.map_append] at hafter
    exact hafter
  case carries => exact h.carries
  case appends =>
    change writer.runtime.journal.map Prod.snd = _
    rw [h.appends]
    unfold group
    rw [← List.append_assoc worker.pending, hgroup]
    simp only [List.map_append, ← List.append_assoc, ← happends]
    rfl
  case appended => exact h.appended
  case barriers =>
    have hbarriers := h.barriers
    rw [← hbefore, List.map_append, List.sum_append] at hbarriers
    change (rest.map _).sum ≤ writer.coordinator.barriers
    omega
  case shutdown =>
    intro hmem
    apply h.shutdown
    rw [← hbefore]
    exact List.mem_append_right before hmem
  case waits => exact h.waits

/-- The admission that a step puts into the ring. -/
def enqueues (writer : Writer) : WriterEvent → List Enqueued
  | .submitter event => writer.runtime.enqueues event
  | _ => []

/-- A course of the runtime, with the numbers of its durable and of its handled admissions. -/
inductive Course (base : Nat) (queued : List Enqueued) (writer : Writer) : Nat → Nat → Prop
  | flowing {done : List AppendIdentity} {items : List Nat} {worker : StoreWorker}
      (flows : writer.Flowing base queued done items worker)
      (last : worker.last = base + writer.runtime.journal.length) :
      Course base queued writer done.length (done.length + (writer.group worker).length)
  | halted {durable handled : Nat} (halted : writer.Over base queued durable handled) :
      Course base queued writer durable handled

/-- A step makes a batch durable, or handles one admission, or leaves the numbers. -/
def Advances (base : Nat) (queued : List Enqueued) (durable handled : Nat) (next : Writer) : Prop :=
  ∃ durable' handled', next.Course base queued durable' handled' ∧ durable ≤ durable' ∧
    handled ≤ handled' ∧ handled' ≤ handled + 1

theorem Over.advances {durable handled : Nat} (h : next.Over base queued durable handled) :
    next.Advances base queued durable handled :=
  ⟨durable, handled, .halted h, Nat.le_refl _, Nat.le_refl _, Nat.le_succ _⟩

section Over

variable {options : StoreOptions} {limits : ByteReservationLimits} {durable handled : Nat}

theorem enqueues_stopped (h : writer.runtime.shared.Stopped) (event : WriterEvent) :
    writer.enqueues event = [] := by
  cases event with
  | submitter event =>
    cases event with
    | enqueue submit =>
      change writer.runtime.enqueues (.enqueue submit) = []
      unfold Runtime.enqueues
      dsimp only
      split
      next => rw [h.2]
      next => rfl
    | _ => rfl
  | _ => rfl

theorem takeNext_stopped (h : writer.runtime.shared.Stopped) :
    writer.takeNext.runtime.journal = writer.runtime.journal ∧
      (writer.takeNext.worker = none ∨ writer.takeNext.worker = writer.worker ∧
        writer.takeNext.runtime.writer = writer.runtime.writer) := by
  have hquiet : writer.runtime.takeNext.writer = writer.runtime.writer ∧
      writer.runtime.takeNext.journal = writer.runtime.journal ∧
      ∀ slotIndex prepared priority barrier,
        writer.runtime.shared.takeNext.1 ≠ .work slotIndex prepared priority barrier := by
    unfold Runtime.takeNext
    cases htake : writer.runtime.shared.takeNext with
    | mk work shared =>
      obtain ⟨_, _, _, -, -, -, hrewrites⟩ | ⟨hne, -⟩ := takeNext_cases htake
      · have hheld := hrewrites.held
        rw [h.2] at hheld
        cases hheld
      · cases work with
        | work slotIndex prepared priority barrier => exact absurd rfl (hne _ _ _ _)
        | _ => exact ⟨rfl, rfl, fun _ _ _ _ => by simp⟩
  obtain ⟨hwriter, hjournal, hne⟩ := hquiet
  unfold Writer.takeNext
  dsimp only
  split
  next hwork => exact absurd hwork (hne _ _ _ _)
  next => exact ⟨hjournal, Or.inr ⟨rfl, hwriter⟩⟩
  next => exact ⟨hjournal, Or.inr ⟨rfl, hwriter⟩⟩
  next => exact ⟨hjournal, Or.inr ⟨rfl, hwriter⟩⟩
  next => exact ⟨hjournal, Or.inl rfl⟩

theorem send_quiet (message : StoreWorkerMessage) (coordinator : Coordinator) :
    (writer.send message coordinator).runtime.journal = writer.runtime.journal ∧
      ((writer.send message coordinator).worker = none ∨
        (writer.send message coordinator).worker = writer.worker ∧
          (writer.send message coordinator).runtime.writer = writer.runtime.writer) := by
  unfold Writer.send
  split
  next => exact ⟨rfl, Or.inl rfl⟩
  next =>
    split
    next => exact ⟨rfl, Or.inr ⟨rfl, rfl⟩⟩
    next => exact ⟨rfl, Or.inl rfl⟩

/-- Without a command in flight no answer of the worker appends anything. -/
theorem handle_quiet (hnone : writer.runtime.writer = []) (worker : StoreWorker) (aged : Bool)
    (rest : List StoreWorkerMessage) (message : StoreWorkerMessage) :
    (writer.handle options worker aged rest message).runtime.journal = writer.runtime.journal ∧
      (writer.handle options worker aged rest message).runtime.writer = [] := by
  cases message with
  | append slot prepared =>
    unfold Writer.handle Writer.answerAppend
    dsimp only
    split
    next =>
      split
      next runtime hstep =>
        simp [Runtime.step, Writer.settle, setShared, hnone] at hstep
      next => exact ⟨rfl, rfl⟩
    next => exact ⟨rfl, rfl⟩
  | barrier =>
    unfold Writer.handle Writer.answerBarrier
    dsimp only
    split
    next => exact ⟨rfl, hnone⟩
    next => exact ⟨rfl, rfl⟩
  | shutdown =>
    unfold Writer.handle Writer.answerShutdown
    dsimp only
    split
    next => exact ⟨rfl, hnone⟩
    next => exact ⟨rfl, rfl⟩
  | _ => exact ⟨rfl, hnone⟩

/-- Behind the end nothing is appended any more. -/
theorem quiet_step (hstopped : writer.runtime.shared.Stopped)
    (hquiet : writer.worker = none ∨ writer.runtime.writer = []) {event : WriterEvent}
    (hstep : writer.step options event = some next) :
    next.runtime.journal = writer.runtime.journal ∧
      (next.worker = none ∨ next.runtime.writer = []) := by
  have hkept : ∀ {other : Writer}, other.worker = none ∨ other.worker = writer.worker ∧
      other.runtime.writer = writer.runtime.writer →
      other.worker = none ∨ other.runtime.writer = [] := by
    rintro other (hnone | ⟨hworker, hcommands⟩)
    · exact Or.inl hnone
    · rw [hworker, hcommands]
      exact hquiet
  cases event with
  | submitter event =>
    simp only [Writer.step] at hstep
    split at hstep
    next hsubmitter =>
      rw [Option.map_eq_some_iff] at hstep
      obtain ⟨runtime, hruntime, rfl⟩ := hstep
      obtain ⟨hcommands, hjournal⟩ := Runtime.submitter_keeps hsubmitter hruntime
      exact ⟨hjournal, hkept (Or.inr ⟨rfl, hcommands⟩)⟩
    next => cases hstep
  | registry operation =>
    obtain ⟨hruntime, -, hworker, -⟩ := call_sends hstep
    rw [hruntime, hworker]
    exact ⟨rfl, hquiet⟩
  | bind envelope =>
    obtain ⟨hruntime, -, hworker, -⟩ := call_sends hstep
    rw [hruntime, hworker]
    exact ⟨rfl, hquiet⟩
  | takeNext =>
    simp only [Writer.step] at hstep
    split at hstep
    next =>
      cases hstep
      obtain ⟨hjournal, hworker⟩ := takeNext_stopped hstopped
      exact ⟨hjournal, hkept hworker⟩
    next => cases hstep
  | sendAppend =>
    simp only [Writer.step] at hstep
    split at hstep
    next =>
      cases hstep
      obtain ⟨hjournal, hworker⟩ := @send_quiet writer _ _
      exact ⟨hjournal, hkept hworker⟩
    next => cases hstep
  | preparePublication =>
    simp only [Writer.step] at hstep
    split at hstep
    next =>
      unfold Writer.preparePublication at hstep
      rw [Option.map_eq_some_iff] at hstep
      obtain ⟨runtime, hruntime, rfl⟩ := hstep
      have hjournal : runtime.journal = writer.runtime.journal := by
        simp only [Runtime.step] at hruntime
        split at hruntime
        next =>
          cases hruntime
          unfold Runtime.publish
          split
          next => rfl
          next => rfl
        next => cases hruntime
      split
      next => exact ⟨hjournal, Or.inl rfl⟩
      next =>
        refine ⟨hjournal, ?_⟩
        rcases hquiet with hnone | hcommands
        · exact Or.inl hnone
        · simp [Runtime.step, hcommands] at hruntime
    next => cases hstep
  | finishHandled =>
    simp only [Writer.step] at hstep
    split at hstep
    next =>
      unfold Writer.finishHandled at hstep
      split at hstep
      next hcommands =>
        rw [Option.map_eq_some_iff] at hstep
        obtain ⟨runtime, hruntime, rfl⟩ := hstep
        have hjournal : runtime.journal = writer.runtime.journal := by
          simp only [Runtime.step] at hruntime
          split at hruntime
          next =>
            cases hruntime
            rfl
          next => cases hruntime
        split
        next =>
          refine ⟨hjournal, ?_⟩
          rcases hquiet with hnone | hempty
          · exact Or.inl hnone
          · rw [hempty] at hcommands
            cases hcommands
        next => exact ⟨hjournal, Or.inl rfl⟩
      next => cases hstep
    next => cases hstep
  | sendPublished =>
    simp only [Writer.step] at hstep
    split at hstep
    next =>
      cases hstep
      obtain ⟨hjournal, hworker⟩ := @send_quiet writer _ _
      exact ⟨hjournal, hkept hworker⟩
    next => cases hstep
  | sendBarrier =>
    simp only [Writer.step] at hstep
    split at hstep
    next =>
      cases hstep
      obtain ⟨hjournal, hworker⟩ := @send_quiet writer _ _
      exact ⟨hjournal, hkept hworker⟩
    next => cases hstep
  | sendShutdown =>
    simp only [Writer.step] at hstep
    split at hstep
    next =>
      cases hstep
      obtain ⟨hjournal, hworker⟩ := @send_quiet writer _ _
      exact ⟨hjournal, hkept hworker⟩
    next => cases hstep
  | work aged =>
    simp only [Writer.step] at hstep
    split at hstep
    next worker message rest hworker hchannel =>
      cases hstep
      have hnone : writer.runtime.writer = [] := by
        rcases hquiet with hnone | hnone
        · rw [hworker] at hnone
          cases hnone
        · exact hnone
      obtain ⟨hjournal, hcommands⟩ := @handle_quiet writer options hnone worker aged rest message
      exact ⟨hjournal, Or.inr hcommands⟩
    next => cases hstep
  | timeout =>
    simp only [Writer.step] at hstep
    split at hstep
    next worker hworker =>
      split at hstep
      next =>
        cases hstep
        refine ⟨rfl, Or.inr ?_⟩
        rcases hquiet with hnone | hnone
        · rw [hworker] at hnone
          cases hnone
        · exact hnone
      next => cases hstep
    next => cases hstep
  | dropRuntime =>
    cases hstep
    exact ⟨rfl, Or.inl rfl⟩

theorem Over.step (h : writer.Over base queued durable handled)
    (haccounted : writer.runtime.Accounted limits) {event : WriterEvent}
    (hstep : writer.step options event = some next) :
    next.Over base (queued ++ writer.enqueues event) durable handled := by
  obtain ⟨hjournal, hquiet⟩ := quiet_step h.ended.stopped h.quiet hstep
  have hended := haccounted.ended_leads h.ended (leads_step hstep)
  rw [enqueues_stopped h.ended.stopped, List.append_nil]
  refine ⟨hquiet, ?_, h.durable_le, ?_, ?_⟩
  · rw [hjournal]
    exact hended
  · rw [hjournal]
    exact h.handled_le
  · rw [hjournal]
    exact h.appended

end Over

end Writer

end Historian
