import Historian.ControlPlane

namespace Historian

namespace ControlPlane

/-- Behind the coordinator's own messages only its guard sends, once and without the gate. -/
def slack (plane : ControlPlane) : Nat :=
  match plane.coordinator with
  | .exited _ => 1
  | _ => 0

/-- The message that is waited for is the last of the channel, or the worker has it. -/
def Awaited (plane : ControlPlane) (number : Nat) : Prop :=
  (∃ before message tail, plane.channel = before ++ message :: tail ∧ message.number = number ∧
    tail.length ≤ plane.slack) ∨
  (∃ message, plane.handling = some message ∧ message.number = number) ∧
    plane.channel.length ≤ plane.slack

/-- The room that a holder of the gate leaves in the channel. -/
def ProgressRoom (plane : ControlPlane) : GateProgress → Prop
  | .sending => plane.channel.length + 2 ≤ maxOutstandingCommands + plane.slack
  | .awaiting number => plane.Awaited number
  | .answered _ => plane.channel.length ≤ plane.slack
  | .publishing => plane.channel.length ≤ plane.slack

def GateRoom (plane : ControlPlane) : ControlGate → Prop
  | .free => plane.channel.length + 2 ≤ maxOutstandingCommands + plane.slack
  | .call _ _ progress => plane.ProgressRoom progress
  | .coordinator _ progress => plane.ProgressRoom progress

/-- The messages that have not been answered yet, oldest first. -/
def unanswered (plane : ControlPlane) : List WorkerMessage := plane.handling.toList ++ plane.channel

structure Orderly (plane : ControlPlane) : Prop where
  fresh : ∀ message ∈ plane.unanswered, message.number < plane.sends
  ordered : plane.unanswered.Pairwise (·.number < ·.number)
  inside : ∀ task progress, plane.gate = .coordinator task progress → plane.coordinator = .inside
  room : plane.alive = true → plane.GateRoom plane.gate

theorem orderly_new : new.Orderly := by
  refine ⟨by simp [new, unanswered], by simp [new, unanswered], ?_, ?_⟩
  · intro task progress h
    cases h
  · intro _
    change 0 + 2 ≤ maxOutstandingCommands + 0
    decide

variable {plane next : ControlPlane} {request : WorkerRequest}

theorem trySend_ok (h : plane.trySend request = .ok next) :
    plane.alive = true ∧ plane.channel.length < maxOutstandingCommands ∧
      next = { plane with
        channel := plane.channel ++ [⟨request, plane.sends⟩]
        sends := plane.sends + 1 } := by
  unfold trySend at h
  split at h
  next => cases h
  next halive =>
    split at h
    next => cases h
    next hroom =>
      cases h
      exact ⟨by simpa using halive, by omega, rfl⟩

theorem trySend_full : plane.trySend request = .error .full ↔
    plane.alive = true ∧ maxOutstandingCommands ≤ plane.channel.length := by
  unfold trySend
  split
  next halive => simp [halive]
  next halive =>
    split
    next hfull => simpa using ⟨by simpa using halive, hfull⟩
    next hroom => simp [hroom]

/-- A message that was sent has the newest number. -/
theorem Orderly.pushed (h : plane.Orderly)
    (hchannel : next.channel = plane.channel ++ [⟨request, plane.sends⟩])
    (hhandling : next.handling = plane.handling) (hsends : next.sends = plane.sends + 1)
    (hinside : ∀ task progress, next.gate = .coordinator task progress →
      next.coordinator = .inside)
    (hroom : next.alive = true → next.GateRoom next.gate) : next.Orderly := by
  have hopen : next.unanswered = plane.unanswered ++ [⟨request, plane.sends⟩] := by
    unfold unanswered
    rw [hchannel, hhandling, List.append_assoc]
  refine ⟨?_, ?_, hinside, hroom⟩
  · intro message hmessage
    rw [hopen, List.mem_append, List.mem_singleton] at hmessage
    rw [hsends]
    rcases hmessage with hmessage | rfl
    · have := h.fresh message hmessage
      omega
    · simp
  · rw [hopen, List.pairwise_append]
    refine ⟨h.ordered, List.pairwise_singleton _ _, ?_⟩
    intro message hmessage last hlast
    rw [List.mem_singleton] at hlast
    subst hlast
    exact h.fresh message hmessage

/-- A change beside the channel and the worker that leaves enough room for the new gate. -/
theorem Orderly.setGate (h : plane.Orderly) (hchannel : next.channel = plane.channel)
    (hhandling : next.handling = plane.handling) (hsends : next.sends = plane.sends)
    (hinside : ∀ task progress, next.gate = .coordinator task progress →
      next.coordinator = .inside)
    (hroom : next.alive = true → next.GateRoom next.gate) : next.Orderly := by
  refine ⟨?_, ?_, hinside, hroom⟩
  · unfold unanswered
    rw [hchannel, hhandling, hsends]
    exact h.fresh
  · unfold unanswered
    rw [hchannel, hhandling]
    exact h.ordered

/-- A call ends, with the gate free before and after it. -/
theorem Orderly.endCall (h : plane.Orderly) (index : Nat) (phase : CallPhase) :
    (plane.endCall index phase).Orderly := h.setGate rfl rfl rfl h.inside h.room

theorem Orderly.leaveCall (h : plane.Orderly) (index : Nat) (phase : CallPhase)
    (hroom : plane.alive = true → plane.GateRoom .free) :
    (plane.leaveCall index phase).Orderly := by
  refine h.setGate rfl rfl rfl ?_ hroom
  intro task progress hgate
  cases hgate

/-- The coordinator lets go of the gate; its guard has not signalled yet. -/
theorem Orderly.leaveCoordinator (h : plane.Orderly) {phase : CoordinatorPhase}
    (hroom : plane.alive = true → plane.channel.length + 2 ≤ maxOutstandingCommands) :
    (plane.leaveCoordinator phase).Orderly := by
  refine h.setGate rfl rfl rfl ?_ ?_
  · intro task progress hgate
    cases hgate
  · intro halive
    have hle := hroom halive
    change plane.channel.length + 2 ≤ maxOutstandingCommands + _
    omega

theorem slack_inside (h : plane.coordinator = .inside) : plane.slack = 0 := by
  unfold slack
  rw [h]

theorem slack_le (plane : ControlPlane) : plane.slack ≤ 1 := by
  unfold slack
  split <;> omega

/-- The sender of the last message waits for it. -/
theorem awaited_last {sends : Nat} (hchannel : next.channel = plane.channel ++ [⟨request, sends⟩]) :
    next.Awaited sends :=
  Or.inl ⟨plane.channel, ⟨request, sends⟩, [], hchannel, rfl, Nat.zero_le _⟩

theorem Orderly.acquire (h : plane.Orderly) (hfree : plane.gate = .free) (index : Nat)
    (kind : ControlCall) : (plane.acquire index kind).Orderly := by
  unfold ControlPlane.acquire
  split
  next =>
    refine h.setGate rfl rfl rfl ?_ ?_
    · intro task progress hgate
      cases hgate
    · intro halive
      have hroom := h.room halive
      rw [hfree] at hroom
      exact hroom
  next => exact h.endCall index _

theorem Orderly.send (h : plane.Orderly) {index : Nat} {kind : ControlCall}
    (hgate : plane.gate = .call index kind .sending) : (plane.send index kind).Orderly := by
  unfold ControlPlane.send
  split
  next next hsend =>
    obtain ⟨-, -, rfl⟩ := trySend_ok hsend
    refine h.pushed rfl rfl rfl ?_ fun _ => awaited_last rfl
    intro task progress hgate
    cases hgate
  next =>
    refine h.leaveCall index _ ?_
    intro halive
    have hroom := h.room halive
    rw [hgate] at hroom
    exact hroom

theorem Orderly.coordinatorSend (h : plane.Orderly) {task : CoordinatorWork}
    (hgate : plane.gate = .coordinator task .sending) : (plane.coordinatorSend task).Orderly := by
  have hinside := h.inside task .sending hgate
  unfold ControlPlane.coordinatorSend
  split
  next next hsend =>
    obtain ⟨-, -, rfl⟩ := trySend_ok hsend
    exact h.pushed rfl rfl rfl (fun _ _ _ => hinside) fun _ => awaited_last rfl
  next =>
    refine h.leaveCoordinator ?_
    intro halive
    have hroom := h.room halive
    rw [hgate] at hroom
    change plane.channel.length + 2 ≤ maxOutstandingCommands + plane.slack at hroom
    rw [slack_inside hinside] at hroom
    exact hroom

/-- Once the coordinator has its answer, nothing is left in the channel. -/
theorem Orderly.drained (h : plane.Orderly) {task : CoordinatorWork} {progress : GateProgress}
    (hgate : plane.gate = .coordinator task progress)
    (hprogress : (∃ ok, progress = .answered ok) ∨ progress = .publishing)
    (halive : plane.alive = true) : plane.channel.length = 0 := by
  have hroom := h.room halive
  have hslack := slack_inside (h.inside task progress hgate)
  rw [hgate] at hroom
  obtain ⟨ok, rfl⟩ | rfl := hprogress
  · change plane.channel.length ≤ plane.slack at hroom
    omega
  · change plane.channel.length ≤ plane.slack at hroom
    omega

theorem Orderly.coordinatorAnswered (h : plane.Orderly) {task : CoordinatorWork} {ok : Bool}
    (hgate : plane.gate = .coordinator task (.answered ok)) (published : Bool) :
    (plane.coordinatorAnswered task ok published).Orderly := by
  have hdrained := h.drained hgate (Or.inl ⟨ok, rfl⟩)
  have hspare : plane.alive = true → plane.channel.length + 2 ≤ maxOutstandingCommands := by
    intro halive
    rw [hdrained halive]
    decide
  unfold ControlPlane.coordinatorAnswered
  split
  next => exact h.leaveCoordinator hspare
  next =>
    split
    next =>
      split
      next =>
        refine h.setGate rfl rfl rfl ?_ ?_
        · intro _ _ _
          exact h.inside _ _ hgate
        · intro halive
          change plane.channel.length ≤ _
          rw [hdrained halive]
          exact Nat.zero_le _
      next => exact h.leaveCoordinator hspare
    next => exact h.leaveCoordinator hspare
    next => exact h.leaveCoordinator hspare

theorem Orderly.coordinatorPublish (h : plane.Orderly) {task : CoordinatorWork}
    (hgate : plane.gate = .coordinator task .publishing) : plane.coordinatorPublish.Orderly := by
  have hdrained := h.drained hgate (Or.inr rfl)
  unfold ControlPlane.coordinatorPublish
  split
  next next hsend =>
    obtain ⟨-, -, rfl⟩ := trySend_ok hsend
    refine h.pushed rfl rfl rfl ?_ ?_
    · intro task progress hgate
      cases hgate
    · intro halive
      have hempty := hdrained halive
      change (plane.channel ++ [_]).length + 2 ≤ maxOutstandingCommands + 0
      rw [List.length_append, hempty, List.length_singleton]
      decide
  next =>
    refine h.leaveCoordinator ?_
    intro halive
    rw [hdrained halive]
    decide

/-- The guard of the coordinator adds at most one message, which everyone has left room for. -/
theorem GateRoom.abort (hslack : plane.slack = 0) (hsame : next.handling = plane.handling)
    (hnext : next.slack = 1)
    (hchannel : next.channel = plane.channel ∨ ∃ message, next.channel = plane.channel ++ [message])
    {gate : ControlGate} (h : plane.GateRoom gate) : next.GateRoom gate := by
  have hlength : next.channel.length ≤ plane.channel.length + 1 := by
    obtain hsame | ⟨message, hmore⟩ := hchannel
    · rw [hsame]
      omega
    · rw [hmore, List.length_append, List.length_singleton]
  have hprogress : ∀ progress, plane.ProgressRoom progress → next.ProgressRoom progress := by
    intro progress hroom
    cases progress with
    | sending =>
      change plane.channel.length + 2 ≤ _ at hroom
      change next.channel.length + 2 ≤ _
      omega
    | answered ok =>
      change plane.channel.length ≤ _ at hroom
      change next.channel.length ≤ _
      omega
    | publishing =>
      change plane.channel.length ≤ _ at hroom
      change next.channel.length ≤ _
      omega
    | awaiting number =>
      rcases hroom with ⟨before, message, tail, heq, hnumber, htail⟩ |
        ⟨⟨message, hhandling, hnumber⟩, hle⟩
      · refine Or.inl ?_
        obtain hsame | ⟨last, hmore⟩ := hchannel
        · exact ⟨before, message, tail, hsame.trans heq, hnumber, by omega⟩
        · refine ⟨before, message, tail ++ [last], ?_, hnumber, ?_⟩
          · rw [hmore, heq, List.append_assoc, List.cons_append]
          · rw [List.length_append, List.length_singleton]
            omega
      · exact Or.inr ⟨⟨message, hsame.trans hhandling, hnumber⟩, by omega⟩
  cases gate with
  | free =>
    change plane.channel.length + 2 ≤ _ at h
    change next.channel.length + 2 ≤ _
    omega
  | call index kind progress => exact hprogress progress h
  | coordinator task progress => exact hprogress progress h

theorem Orderly.coordinatorAbort (h : plane.Orderly) {exit : WriterExit}
    (hexiting : plane.coordinator = .exiting exit) : (plane.coordinatorAbort exit).Orderly := by
  have hslack : plane.slack = 0 := by
    unfold slack
    rw [hexiting]
  -- the coordinator cannot be inside while it exits
  have houtside : ∀ task progress, plane.gate ≠ .coordinator task progress := by
    intro task progress hgate
    have hinside := h.inside task progress hgate
    rw [hexiting] at hinside
    cases hinside
  unfold ControlPlane.coordinatorAbort
  split
  next =>
    refine h.setGate rfl rfl rfl (fun task progress hgate => absurd hgate (houtside _ _)) ?_
    intro halive
    exact GateRoom.abort hslack (by rfl) (by rfl) (Or.inl (by rfl)) (h.room halive)
  next =>
    split
    next next hsend =>
      obtain ⟨-, -, rfl⟩ := trySend_ok hsend
      refine h.pushed rfl rfl rfl (fun task progress hgate => absurd hgate (houtside _ _)) ?_
      intro halive
      exact GateRoom.abort hslack (by rfl) (by rfl) (Or.inr ⟨_, by rfl⟩) (h.room halive)
    next =>
      refine h.setGate rfl rfl rfl (fun task progress hgate => absurd hgate (houtside _ _)) ?_
      intro halive
      exact GateRoom.abort hslack (by rfl) (by rfl) (Or.inl (by rfl)) (h.room halive)

/-- The worker takes the oldest message. -/
theorem Orderly.receive (h : plane.Orderly) {message : WorkerMessage} {rest : List WorkerMessage}
    (hidle : plane.handling = none) (hchannel : plane.channel = message :: rest) :
    ({ plane with handling := some message, channel := rest } : ControlPlane).Orderly := by
  have hopen : plane.unanswered = message :: rest := by
    unfold unanswered
    rw [hidle, hchannel]
    rfl
  have hlength : plane.channel.length = rest.length + 1 := by
    rw [hchannel, List.length_cons]
  have hfresh := h.fresh
  have hordered := h.ordered
  rw [hopen] at hfresh hordered
  refine ⟨hfresh, hordered, h.inside, ?_⟩
  intro halive
  have hroom := h.room halive
  have hprogress : ∀ progress, plane.ProgressRoom progress →
      ({ plane with handling := some message, channel := rest } :
        ControlPlane).ProgressRoom progress := by
    intro progress hroom
    cases progress with
    | sending =>
      change plane.channel.length + 2 ≤ maxOutstandingCommands + plane.slack at hroom
      change rest.length + 2 ≤ maxOutstandingCommands + plane.slack
      omega
    | answered ok =>
      change plane.channel.length ≤ plane.slack at hroom
      change rest.length ≤ plane.slack
      omega
    | publishing =>
      change plane.channel.length ≤ plane.slack at hroom
      change rest.length ≤ plane.slack
      omega
    | awaiting number =>
      rcases hroom with ⟨before, waited, tail, heq, hnumber, htail⟩ | ⟨⟨waited, hhandling, -⟩, -⟩
      · rw [hchannel] at heq
        cases before with
        | nil =>
          rw [List.nil_append] at heq
          cases heq
          exact Or.inr ⟨⟨_, rfl, hnumber⟩, htail⟩
        | cons first before =>
          rw [List.cons_append] at heq
          cases heq
          exact Or.inl ⟨before, waited, tail, rfl, hnumber, htail⟩
      · rw [hidle] at hhandling
        cases hhandling
  cases hgate : plane.gate with
  | free =>
    rw [hgate] at hroom
    change plane.channel.length + 2 ≤ maxOutstandingCommands + plane.slack at hroom
    change rest.length + 2 ≤ maxOutstandingCommands + plane.slack
    omega
  | call index kind progress =>
    rw [hgate] at hroom
    exact hprogress progress hroom
  | coordinator task progress =>
    rw [hgate] at hroom
    exact hprogress progress hroom

theorem Orderly.stopWorker (h : plane.Orderly) : plane.stopWorker.Orderly := by
  refine ⟨?_, List.Pairwise.nil, h.inside, ?_⟩
  · intro message hmessage
    cases hmessage
  · intro halive
    cases halive

/-- An answer ends the wait for its own message only. -/
theorem Orderly.deliver (h : plane.Orderly) {message : WorkerMessage} (ok : Bool)
    (hhandling : plane.handling = some message) :
    ({ plane with handling := none }.deliver message.number ok).Orderly := by
  have hopen : plane.unanswered = message :: plane.channel := by
    unfold unanswered
    rw [hhandling]
    rfl
  have hfresh := h.fresh
  have hordered := h.ordered
  rw [hopen] at hfresh hordered
  have hchannel : ∀ waited ∈ plane.channel, message.number < waited.number :=
    (List.pairwise_cons.mp hordered).1
  -- the worker had the message that was waited for, and nothing is behind it
  have hanswered : plane.alive = true → plane.Awaited message.number →
      plane.channel.length ≤ plane.slack := by
    intro _ hawaited
    rcases hawaited with ⟨before, waited, tail, heq, hnumber, -⟩ | ⟨-, hle⟩
    · have hmem : waited ∈ plane.channel := by simp [heq]
      have := hchannel waited hmem
      omega
    · exact hle
  -- the message that is waited for is another one
  have hother : ∀ number, number ≠ message.number → plane.Awaited number →
      ({ plane with handling := none } : ControlPlane).Awaited number := by
    intro number hne hawaited
    rcases hawaited with hlast | ⟨⟨waited, hwaited, hnumber⟩, -⟩
    · exact Or.inl hlast
    · rw [hhandling] at hwaited
      cases hwaited
      exact absurd hnumber.symm hne
  have hbase : ∀ gate, (∀ task progress, gate = .coordinator task progress →
      plane.coordinator = .inside) → (plane.alive = true →
        ({ plane with handling := none, gate := gate } : ControlPlane).GateRoom gate) →
      ({ plane with handling := none, gate := gate } : ControlPlane).Orderly := by
    intro gate hinside hroom
    refine ⟨?_, (List.pairwise_cons.mp hordered).2, hinside, hroom⟩
    intro waited hwaited
    exact hfresh waited (List.mem_cons_of_mem _ hwaited)
  have hsame : (plane.alive = true →
      ({ plane with handling := none } : ControlPlane).GateRoom plane.gate) →
      ({ plane with handling := none } : ControlPlane).Orderly :=
    fun hroom => hbase plane.gate h.inside hroom
  unfold ControlPlane.deliver
  split
  next index kind expected hgate =>
    have hgate : plane.gate = .call index kind (.awaiting expected) := hgate
    split
    next heq =>
      subst heq
      refine hbase _ (by simp) ?_
      intro halive
      have hroom := h.room halive
      rw [hgate] at hroom
      exact hanswered halive hroom
    next hne =>
      refine hsame ?_
      intro halive
      have hroom := h.room halive
      rw [hgate] at hroom ⊢
      exact hother expected hne hroom
  next task expected hgate =>
    have hgate : plane.gate = .coordinator task (.awaiting expected) := hgate
    split
    next heq =>
      subst heq
      refine hbase _ (fun _ _ _ => h.inside _ _ hgate) ?_
      intro halive
      have hroom := h.room halive
      rw [hgate] at hroom
      exact hanswered halive hroom
    next hne =>
      refine hsame ?_
      intro halive
      have hroom := h.room halive
      rw [hgate] at hroom ⊢
      exact hother expected hne hroom
  next hcall hcoordinator =>
    refine hsame ?_
    intro halive
    have hroom := h.room halive
    cases hgate : plane.gate with
    | free =>
      rw [hgate] at hroom
      exact hroom
    | call index kind progress =>
      rw [hgate] at hroom
      cases progress with
      | awaiting number => exact absurd hgate (hcall index kind number)
      | _ => exact hroom
    | coordinator task progress =>
      rw [hgate] at hroom
      cases progress with
      | awaiting number => exact absurd hgate (hcoordinator task number)
      | _ => exact hroom

theorem Orderly.workerReply (h : plane.Orderly) {message : WorkerMessage}
    (hhandling : plane.handling = some message) (ok continues : Bool) :
    (plane.workerReply message ok continues).Orderly := by
  have hdelivered := h.deliver ok hhandling
  unfold ControlPlane.workerReply
  dsimp only
  split
  next => exact hdelivered
  next => exact hdelivered.stopWorker

/-- A call that waits for its answer is dropped only while the channel has two free places. -/
def uncrowded (plane : ControlPlane) : ControlEvent → Bool
  | .cancel index =>
    match plane.gate with
    | .call holder _ (.awaiting _) =>
      holder ≠ index || plane.channel.length + 2 ≤ maxOutstandingCommands
    | _ => true
  | _ => true

/-- Every step of a run meets the condition in the state before it. -/
def runsUncrowded (plane : ControlPlane) : List ControlEvent → Bool
  | [] => true
  | event :: rest =>
    plane.uncrowded event && (plane.step event).all fun next => next.runsUncrowded rest

/-- Once a call has its answer, nothing but the guard's signal is left in the channel. -/
theorem Orderly.leaveAnswered (h : plane.Orderly) {holder : Nat} {kind : ControlCall} {ok : Bool}
    (hgate : plane.gate = .call holder kind (.answered ok)) (index : Nat) (phase : CallPhase) :
    (plane.leaveCall index phase).Orderly := by
  refine h.leaveCall index phase ?_
  intro halive
  have hroom := h.room halive
  rw [hgate] at hroom
  change plane.channel.length ≤ plane.slack at hroom
  change plane.channel.length + 2 ≤ maxOutstandingCommands + plane.slack
  have hmax : maxOutstandingCommands = 16 := rfl
  omega

theorem Orderly.cancel (h : plane.Orderly) {index : Nat}
    (huncrowded : plane.uncrowded (.cancel index) = true)
    (hcancel : plane.cancel index = some next) :
    next.Orderly := by
  unfold ControlPlane.cancel at hcancel
  split at hcancel
  next =>
    cases hcancel
    exact h.endCall index _
  next =>
    split at hcancel
    next holder kind number hgate =>
      split at hcancel
      next heq =>
        cases hcancel
        subst heq
        refine h.leaveCall holder _ ?_
        intro _
        have hroom : plane.channel.length + 2 ≤ maxOutstandingCommands := by
          simpa [uncrowded, hgate] using huncrowded
        change plane.channel.length + 2 ≤ maxOutstandingCommands + plane.slack
        omega
      next => cases hcancel
    next holder kind ok hgate =>
      split at hcancel
      next =>
        cases hcancel
        exact h.leaveAnswered hgate index _
      next => cases hcancel
    next => cases hcancel
  next => cases hcancel

/-- The room is a matter of the channel, the worker and the slack alone. -/
theorem GateRoom.congr (hchannel : next.channel = plane.channel)
    (hhandling : next.handling = plane.handling) (hslack : next.slack = plane.slack)
    {gate : ControlGate} (h : plane.GateRoom gate) : next.GateRoom gate := by
  have hprogress : ∀ progress, plane.ProgressRoom progress → next.ProgressRoom progress := by
    intro progress hroom
    cases progress <;>
      simpa only [ProgressRoom, Awaited, hchannel, hhandling, hslack] using hroom
  cases gate with
  | free => simpa only [GateRoom, hchannel, hslack] using h
  | call index kind progress => exact hprogress progress h
  | coordinator task progress => exact hprogress progress h

/-- The coordinator looks for work outside of the gate. -/
theorem Orderly.polling (h : plane.Orderly) (hpolling : plane.coordinator = .polling)
    {phase : CoordinatorPhase} (hphase : ∀ exit, phase ≠ .exited exit) :
    ({ plane with coordinator := phase } : ControlPlane).Orderly := by
  have hslack : ({ plane with coordinator := phase } : ControlPlane).slack = plane.slack := by
    unfold slack
    rw [hpolling]
    cases phase with
    | exited exit => exact absurd rfl (hphase exit)
    | _ => rfl
  refine h.setGate rfl rfl rfl ?_ ?_
  · intro task progress hgate
    have hinside := h.inside task progress hgate
    rw [hpolling] at hinside
    cases hinside
  · intro halive
    exact GateRoom.congr (by rfl) (by rfl) hslack (h.room halive)

theorem Orderly.answerDropped (h : plane.Orderly) (hdead : plane.alive = false)
    (hdropped : plane.answerDropped = some next) : next.Orderly := by
  have hvacuous : ∀ {p : Prop}, plane.alive = true → p := by
    intro p halive
    rw [hdead] at halive
    cases halive
  unfold ControlPlane.answerDropped at hdropped
  split at hdropped
  next =>
    cases hdropped
    exact h.leaveCall _ _ hvacuous
  next =>
    cases hdropped
    exact h.leaveCoordinator hvacuous
  next => cases hdropped

/-- One step, cancellations under the condition. -/
theorem Orderly.step (h : plane.Orderly) {event : ControlEvent}
    (huncrowded : plane.uncrowded event = true) (hstep : plane.step event = some next) :
    next.Orderly := by
  cases event with
  | call kind =>
    cases hstep
    unfold ControlPlane.call
    split
    next => exact h.setGate rfl rfl rfl h.inside h.room
    next => exact h.setGate rfl rfl rfl h.inside h.room
  | acquire index =>
    simp only [ControlPlane.step] at hstep
    split at hstep
    next hgate _ =>
      cases hstep
      exact h.acquire hgate _ _
    next => cases hstep
  | send index =>
    simp only [ControlPlane.step] at hstep
    split at hstep
    next hgate =>
      split at hstep
      next heq =>
        cases hstep
        subst heq
        exact h.send hgate
      next => cases hstep
    next => cases hstep
  | finish index =>
    simp only [ControlPlane.step] at hstep
    split at hstep
    next hgate =>
      split at hstep
      next =>
        cases hstep
        exact h.leaveAnswered hgate _ _
      next => cases hstep
    next => cases hstep
  | cancel index => exact h.cancel huncrowded hstep
  | takeNext task =>
    simp only [ControlPlane.step] at hstep
    split at hstep
    next hpolling =>
      cases hstep
      exact h.polling hpolling (by simp)
    next => cases hstep
  | takeFailed =>
    simp only [ControlPlane.step] at hstep
    split at hstep
    next hpolling =>
      cases hstep
      exact h.polling hpolling (by simp)
    next => cases hstep
  | coordinatorAcquire =>
    simp only [ControlPlane.step] at hstep
    split at hstep
    next task hgate hwaiting =>
      cases hstep
      refine h.setGate rfl rfl rfl (fun _ _ _ => rfl) ?_
      intro halive
      have hroom := h.room halive
      have hslack : plane.slack = 0 := by
        unfold slack
        rw [hwaiting]
      rw [hgate] at hroom
      change plane.channel.length + 2 ≤ maxOutstandingCommands + plane.slack at hroom
      rw [hslack] at hroom
      exact hroom
    next => cases hstep
  | coordinatorSend =>
    simp only [ControlPlane.step] at hstep
    split at hstep
    next hgate => cases hstep; exact h.coordinatorSend hgate
    next => cases hstep
  | coordinatorAnswered published =>
    simp only [ControlPlane.step] at hstep
    split at hstep
    next hgate => cases hstep; exact h.coordinatorAnswered hgate published
    next => cases hstep
  | coordinatorPublish =>
    simp only [ControlPlane.step] at hstep
    split at hstep
    next hgate => cases hstep; exact h.coordinatorPublish hgate
    next => cases hstep
  | coordinatorAbort =>
    simp only [ControlPlane.step] at hstep
    split at hstep
    next hexiting => cases hstep; exact h.coordinatorAbort hexiting
    next => cases hstep
  | workerReceive =>
    simp only [ControlPlane.step] at hstep
    split at hstep
    next hidle hchannel => cases hstep; exact h.receive hidle hchannel
    next => cases hstep
  | workerReply ok continues =>
    simp only [ControlPlane.step] at hstep
    split at hstep
    next hhandling => cases hstep; exact h.workerReply hhandling ok continues
    next => cases hstep
  | workerExit =>
    simp only [ControlPlane.step] at hstep
    split at hstep
    next => cases hstep; exact h.stopWorker
    next => cases hstep
  | answerDropped =>
    simp only [ControlPlane.step] at hstep
    split at hstep
    next => cases hstep
    next hdead => exact h.answerDropped (by simpa using hdead) hstep
  | health healthy =>
    cases hstep
    exact h.setGate rfl rfl rfl h.inside h.room

theorem Orderly.run {final : ControlPlane} {events : List ControlEvent} (h : plane.Orderly)
    (huncrowded : plane.runsUncrowded events = true) (hrun : plane.run events = some final) :
    final.Orderly := by
  induction events generalizing plane with
  | nil =>
    cases hrun
    exact h
  | cons event rest ih =>
    simp only [ControlPlane.run] at hrun
    simp only [runsUncrowded, Bool.and_eq_true] at huncrowded
    split at hrun
    next next hstep =>
      have hrest := huncrowded.2
      rw [hstep] at hrest
      exact ih (h.step huncrowded.1 hstep) hrest hrun
    next => cases hrun

/-- Behind a drop the next call takes the gate while the coordinator fails. -/
theorem run_after_drop {index number : Nat} {kind : ControlCall}
    (hgate : plane.gate = .call index kind (.awaiting number))
    (hinside : plane.calls[index]? = some .inside) (hpolling : plane.coordinator = .polling) :
    ∃ before : ControlPlane, plane.run [.cancel index, .call kind, .health true,
        .acquire plane.calls.length, .takeFailed, .coordinatorAbort] =
          some (before.coordinatorAbort .ingressFailed) ∧
      before.gate = .call plane.calls.length kind .sending ∧ before.alive = plane.alive ∧
      before.channel = plane.channel := by
  refine ⟨{ plane with
    gate := .call plane.calls.length kind .sending
    permits := plane.permits
    calls := (plane.calls.set index .cancelled ++ [CallPhase.waiting kind]).set
      plane.calls.length .inside
    coordinator := .exiting .ingressFailed
    healthy := true }, ?_, rfl, rfl, rfl⟩
  simp [run, step, cancel, hinside, hgate, ControlPlane.call, leaveCall, endCall,
    ControlPlane.acquire, hpolling]

theorem coordinatorAbort_gate (exit : WriterExit) :
    (plane.coordinatorAbort exit).gate = plane.gate := by
  unfold coordinatorAbort
  split
  next => rfl
  next =>
    split
    next hsend =>
      obtain ⟨-, -, rfl⟩ := trySend_ok hsend
      rfl
    next => rfl

theorem coordinatorAbort_full (halive : plane.alive = true)
    (hlength : maxOutstandingCommands ≤ plane.channel.length + 1) :
    (plane.coordinatorAbort .ingressFailed).trySend request = .error .full := by
  unfold coordinatorAbort
  rw [if_neg (by decide)]
  split
  next hsend =>
    obtain ⟨-, -, rfl⟩ := trySend_ok hsend
    refine trySend_full.mpr ⟨halive, ?_⟩
    simpa using hlength
  next error hsend =>
    refine trySend_full.mpr ⟨halive, ?_⟩
    by_contra hroom
    simp [trySend, halive, hroom] at hsend

/-- As long as no call is dropped while it waits for its answer in a channel with fewer than two
free places, no send without waiting finds the channel full. Such a drop is enough for a full
channel: the next call meets it once the coordinator fails and its guard signals the worker. -/
theorem sends_find_room_uncrowded (events : List ControlEvent) (final : ControlPlane)
    (hrun : new.run events = some final) :
    (new.runsUncrowded events = true →
      ∀ request ∈ final.gate.request, final.trySend request ≠ .error .full) ∧
    ∀ (index : Nat) (kind : ControlCall) (number : Nat),
      final.gate = .call index kind (.awaiting number) → final.calls[index]? = some .inside →
      final.alive = true → final.coordinator = .polling →
      final.uncrowded (.cancel index) = false →
      ∃ later request, final.run [.cancel index, .call kind, .health true,
          .acquire final.calls.length, .takeFailed, .coordinatorAbort] = some later ∧
        request ∈ later.gate.request ∧ later.trySend request = .error .full := by
  refine ⟨?_, ?_⟩
  · intro huncrowded request hrequest hfull
    have h := orderly_new.run huncrowded hrun
    obtain ⟨halive, hlength⟩ := trySend_full.mp hfull
    have hroom := h.room halive
    have hslack := slack_le final
    have hmax : maxOutstandingCommands = 16 := rfl
    have hle : final.channel.length + 1 ≤ maxOutstandingCommands := by
      cases hgate : final.gate with
      | free =>
        rw [hgate] at hrequest
        cases hrequest
      | call index kind progress =>
        rw [hgate] at hrequest hroom
        cases progress with
        | sending =>
          change final.channel.length + 2 ≤ maxOutstandingCommands + final.slack at hroom
          omega
        | _ => cases hrequest
      | coordinator task progress =>
        rw [hgate] at hrequest hroom
        cases progress with
        | sending =>
          change final.channel.length + 2 ≤ maxOutstandingCommands + final.slack at hroom
          omega
        | publishing =>
          change final.channel.length ≤ final.slack at hroom
          omega
        | _ => cases hrequest
    omega
  · intro index kind number hgate hinside halive hpolling hcrowded
    have hlength : maxOutstandingCommands ≤ final.channel.length + 1 := by
      simp only [uncrowded, hgate, ne_eq, not_true_eq_false, decide_false, Bool.false_or,
        decide_eq_false_iff_not] at hcrowded
      omega
    obtain ⟨before, hlater, hbefore, hsame, hchannel⟩ :=
      run_after_drop hgate hinside hpolling
    refine ⟨before.coordinatorAbort .ingressFailed, kind.request, hlater, ?_, ?_⟩
    · rw [coordinatorAbort_gate, hbefore]
      rfl
    · exact coordinatorAbort_full (hsame.trans halive) (by rw [hchannel]; exact hlength)

/-- Calls that are dropped right after their send, while the worker is busy. -/
def droppedCalls (count : Nat) : List ControlEvent :=
  (List.range count).flatMap fun index =>
    [.call .applyRegistry, .acquire index, .send index, .cancel index]

/-- Sixteen dropped calls fill the channel: the coordinator's append and the seventeenth call both
find it full while the worker is alive. -/
theorem dropped_calls_fill_channel :
    (∃ final, new.run (droppedCalls 16 ++ [.takeNext .work, .coordinatorAcquire]) = some final ∧
      final.alive = true ∧ final.gate = .coordinator .work .sending ∧
      final.trySend .append = .error .full) ∧
    ∃ final, new.run (droppedCalls 16 ++ [.call .bindEnvelope, .acquire 16]) = some final ∧
      final.alive = true ∧ final.gate = .call 16 .bindEnvelope .sending ∧
      final.trySend .bind = .error .full := by
  refine ⟨?_, ?_⟩
  · refine ⟨(new.run (droppedCalls 16 ++ [.takeNext .work, .coordinatorAcquire])).getD new, ?_⟩
    decide +kernel
  · refine ⟨(new.run (droppedCalls 16 ++ [.call .bindEnvelope, .acquire 16])).getD new, ?_⟩
    decide +kernel

/-- Fourteen dropped calls leave room for the coordinator. -/
theorem sends_find_room_uncrowded_sample :
    ∃ final, new.run (droppedCalls 14 ++ [.takeNext .work, .coordinatorAcquire]) = some final ∧
      final.channel.length = 14 ∧ final.gate = .coordinator .work .sending ∧
      final.trySend .append ≠ .error .full := by
  have huncrowded : new.runsUncrowded (droppedCalls 14 ++ [.takeNext .work, .coordinatorAcquire]) =
      true := by decide +kernel
  have hrun : (new.run (droppedCalls 14 ++ [.takeNext .work, .coordinatorAcquire])).any
      (fun final =>
      final.channel.length = 14 ∧ final.gate = .coordinator .work .sending) = true := by
    decide +kernel
  obtain ⟨final, hrun, hfinal⟩ := (Option.any_eq_true _ _).mp hrun
  obtain ⟨hlength, hgate⟩ := of_decide_eq_true hfinal
  have hrequest : WorkerRequest.append ∈ final.gate.request := by
    rw [hgate]
    rfl
  exact ⟨final, hrun, hlength, hgate,
    (sends_find_room_uncrowded _ final hrun).1 huncrowded _ hrequest⟩

end ControlPlane

end Historian
