import Historian.IngressState

namespace Historian

inductive WorkerRequest where
  | append | published | barrier | registry | bind | shutdown | abort
  deriving DecidableEq, Repr

/-- A message to the store worker. The number stands for its answer channel, which is its own. -/
structure WorkerMessage where
  request : WorkerRequest
  number : Nat
  deriving DecidableEq, Repr

inductive ControlCall where
  | applyRegistry | bindEnvelope
  deriving DecidableEq, Repr

def ControlCall.request : ControlCall → WorkerRequest
  | .applyRegistry => .registry
  | .bindEnvelope => .bind

/-- What the coordinator takes from ingress and brings to the worker under the control gate. -/
inductive CoordinatorWork where
  | work | barrierRequired | drained
  deriving DecidableEq, Repr

def CoordinatorWork.request : CoordinatorWork → WorkerRequest
  | .work => .append
  | .barrierRequired => .barrier
  | .drained => .shutdown

/-- How far the holder of the control gate is. Only the coordinator publishes. -/
inductive GateProgress where
  | sending
  | awaiting (number : Nat)
  | answered (ok : Bool)
  | publishing
  deriving DecidableEq, Repr

inductive ControlGate where
  | free
  | call (index : Nat) (kind : ControlCall) (progress : GateProgress)
  | coordinator (task : CoordinatorWork) (progress : GateProgress)
  deriving DecidableEq, Repr

/-- The request that the holder of the gate is about to send without waiting. -/
def ControlGate.request : ControlGate → Option WorkerRequest
  | .call _ kind .sending => some kind.request
  | .coordinator task .sending => some task.request
  | .coordinator _ .publishing => some .published
  | _ => none

inductive CallResult where
  | capacity | closed | answered (ok : Bool)
  deriving DecidableEq, Repr

/-- One call of `apply_registry` or `bind_envelope`. A waiting call has its permit and waits for
the gate. -/
inductive CallPhase where
  | waiting (kind : ControlCall)
  | inside
  | finished (result : CallResult)
  | cancelled
  deriving DecidableEq, Repr

inductive WriterExit where
  | shutdown | ingressFailed | publicationFault | storeFault
  deriving DecidableEq, Repr

/-- The coordinator loop. When it exits, its guard still has to signal the worker. -/
inductive CoordinatorPhase where
  | polling
  | waiting (task : CoordinatorWork)
  | inside
  | exiting (exit : WriterExit)
  | exited (exit : WriterExit)
  deriving DecidableEq, Repr

/-- The bounded channel to the store worker with everyone who sends on it: the coordinator, and
the callers behind their permits and the control gate. -/
structure ControlPlane where
  channel : List WorkerMessage
  sends : Nat
  gate : ControlGate
  permits : Nat
  calls : List CallPhase
  coordinator : CoordinatorPhase
  handling : Option WorkerMessage
  alive : Bool
  healthy : Bool
  deriving DecidableEq, Repr

inductive TrySendError where
  | full | disconnected
  deriving DecidableEq, Repr

/-- The atomic steps: what a task does between two await points, or the worker with one
message. -/
inductive ControlEvent where
  | call (kind : ControlCall)
  | acquire (index : Nat)
  | send (index : Nat)
  | finish (index : Nat)
  | cancel (index : Nat)
  | takeNext (task : CoordinatorWork)
  | takeFailed
  | coordinatorAcquire
  | coordinatorSend
  | coordinatorAnswered (published : Bool)
  | coordinatorPublish
  | coordinatorAbort
  | workerReceive
  | workerReply (ok continues : Bool)
  | workerExit
  | answerDropped
  | health (healthy : Bool)
  deriving DecidableEq, Repr

namespace ControlPlane

def new : ControlPlane :=
  ⟨[], 0, .free, maxOutstandingCommands, [], .polling, none, true, true⟩

/-- `try_send` on the channel: it never waits for room. -/
def trySend (plane : ControlPlane) (request : WorkerRequest) : Except TrySendError ControlPlane :=
  if ¬plane.alive then .error .disconnected
  else if maxOutstandingCommands ≤ plane.channel.length then .error .full
  else
    .ok { plane with
      channel := plane.channel ++ [⟨request, plane.sends⟩]
      sends := plane.sends + 1 }

/-- The end of a call gives its permit back. -/
def endCall (plane : ControlPlane) (index : Nat) (phase : CallPhase) : ControlPlane :=
  { plane with
    calls := plane.calls.set index phase
    permits := plane.permits + 1 }

/-- The end of a call that holds the gate gives both back. -/
def leaveCall (plane : ControlPlane) (index : Nat) (phase : CallPhase) : ControlPlane :=
  { plane.endCall index phase with gate := .free }

def leaveCoordinator (plane : ControlPlane) (phase : CoordinatorPhase) : ControlPlane :=
  { plane with gate := .free, coordinator := phase }

def stopWorker (plane : ControlPlane) : ControlPlane :=
  { plane with alive := false, handling := none, channel := [] }

/-- A permit is taken without waiting, or the call is refused. -/
def call (plane : ControlPlane) (kind : ControlCall) : ControlPlane :=
  if plane.permits = 0 then { plane with calls := plane.calls ++ [.finished .capacity] }
  else { plane with permits := plane.permits - 1, calls := plane.calls ++ [.waiting kind] }

/-- The gate is taken; an unhealthy runtime refuses the call behind it. -/
def acquire (plane : ControlPlane) (index : Nat) (kind : ControlCall) : ControlPlane :=
  if plane.healthy then
    { plane with
      gate := .call index kind .sending
      calls := plane.calls.set index .inside }
  else plane.endCall index (.finished .closed)

def send (plane : ControlPlane) (index : Nat) (kind : ControlCall) : ControlPlane :=
  match plane.trySend kind.request with
  | .ok next => { next with gate := .call index kind (.awaiting plane.sends) }
  | .error _ => plane.leaveCall index (.finished .closed)

def coordinatorSend (plane : ControlPlane) (task : CoordinatorWork) : ControlPlane :=
  match plane.trySend task.request with
  | .ok next => { next with gate := .coordinator task (.awaiting plane.sends) }
  | .error _ => plane.leaveCoordinator (.exiting .storeFault)

/-- An appended command is published before the gate is left; the other answers end the hold. -/
def coordinatorAnswered (plane : ControlPlane) (task : CoordinatorWork) (ok published : Bool) :
    ControlPlane :=
  if ¬ok then plane.leaveCoordinator (.exiting .storeFault)
  else
    match task with
    | .work =>
      if published then { plane with gate := .coordinator task .publishing }
      else plane.leaveCoordinator (.exiting .publicationFault)
    | .barrierRequired => plane.leaveCoordinator .polling
    | .drained => plane.leaveCoordinator (.exiting .shutdown)

def coordinatorPublish (plane : ControlPlane) : ControlPlane :=
  match plane.trySend .published with
  | .ok next => next.leaveCoordinator .polling
  | .error _ => plane.leaveCoordinator (.exiting .storeFault)

/-- The guard of the coordinator signals the worker, unless a graceful shutdown disarmed it. -/
def coordinatorAbort (plane : ControlPlane) (exit : WriterExit) : ControlPlane :=
  if exit = .shutdown then { plane with coordinator := .exited exit }
  else
    match plane.trySend .abort with
    | .ok next => { next with coordinator := .exited exit }
    | .error _ => { plane with coordinator := .exited exit }

/-- An answer reaches the holder of the gate only when it waits for this message. -/
def deliver (plane : ControlPlane) (number : Nat) (ok : Bool) : ControlPlane :=
  match plane.gate with
  | .call index kind (.awaiting expected) =>
    if expected = number then { plane with gate := .call index kind (.answered ok) } else plane
  | .coordinator task (.awaiting expected) =>
    if expected = number then { plane with gate := .coordinator task (.answered ok) } else plane
  | _ => plane

/-- The worker answers and goes on, or it returns; an abort or a shutdown is its last message. -/
def workerReply (plane : ControlPlane) (message : WorkerMessage) (ok continues : Bool) :
    ControlPlane :=
  let answered := { plane with handling := none }.deliver message.number ok
  if continues ∧ message.request ≠ .abort ∧ message.request ≠ .shutdown then answered
  else answered.stopWorker

def answerDropped (plane : ControlPlane) : Option ControlPlane :=
  match plane.gate with
  | .call index _ (.awaiting _) => some (plane.leaveCall index (.finished .closed))
  | .coordinator _ (.awaiting _) => some (plane.leaveCoordinator (.exiting .storeFault))
  | _ => none

/-- A call can be dropped wherever it awaits: for the gate, or for its answer. The message stays
in the channel. -/
def cancel (plane : ControlPlane) (index : Nat) : Option ControlPlane :=
  match plane.calls[index]? with
  | some (.waiting _) => some (plane.endCall index .cancelled)
  | some .inside =>
    match plane.gate with
    | .call holder _ (.awaiting _) =>
      if holder = index then some (plane.leaveCall index .cancelled) else none
    | .call holder _ (.answered _) =>
      if holder = index then some (plane.leaveCall index .cancelled) else none
    | _ => none
  | _ => none

def step (plane : ControlPlane) : ControlEvent → Option ControlPlane
  | .call kind => some (plane.call kind)
  | .acquire index =>
    match plane.gate, plane.calls[index]? with
    | .free, some (.waiting kind) => some (plane.acquire index kind)
    | _, _ => none
  | .send index =>
    match plane.gate with
    | .call holder kind .sending => if holder = index then some (plane.send index kind) else none
    | _ => none
  | .finish index =>
    match plane.gate with
    | .call holder _ (.answered ok) =>
      if holder = index then some (plane.leaveCall index (.finished (.answered ok))) else none
    | _ => none
  | .cancel index => plane.cancel index
  | .takeNext task =>
    if plane.coordinator = .polling then some { plane with coordinator := .waiting task } else none
  | .takeFailed =>
    if plane.coordinator = .polling then
      some { plane with coordinator := .exiting .ingressFailed }
    else none
  | .coordinatorAcquire =>
    match plane.gate, plane.coordinator with
    | .free, .waiting task =>
      some { plane with gate := .coordinator task .sending, coordinator := .inside }
    | _, _ => none
  | .coordinatorSend =>
    match plane.gate with
    | .coordinator task .sending => some (plane.coordinatorSend task)
    | _ => none
  | .coordinatorAnswered published =>
    match plane.gate with
    | .coordinator task (.answered ok) => some (plane.coordinatorAnswered task ok published)
    | _ => none
  | .coordinatorPublish =>
    match plane.gate with
    | .coordinator _ .publishing => some plane.coordinatorPublish
    | _ => none
  | .coordinatorAbort =>
    match plane.coordinator with
    | .exiting exit => some (plane.coordinatorAbort exit)
    | _ => none
  | .workerReceive =>
    match plane.alive, plane.handling, plane.channel with
    | true, none, message :: rest => some { plane with handling := some message, channel := rest }
    | _, _, _ => none
  | .workerReply ok continues =>
    match plane.handling with
    | some message => some (plane.workerReply message ok continues)
    | none => none
  | .workerExit => if plane.alive then some plane.stopWorker else none
  | .answerDropped => if plane.alive then none else plane.answerDropped
  | .health healthy => some { plane with healthy := healthy }

def run (plane : ControlPlane) : List ControlEvent → Option ControlPlane
  | [] => some plane
  | event :: rest =>
    match plane.step event with
    | some next => next.run rest
    | none => none

end ControlPlane

end Historian
