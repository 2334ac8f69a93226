import Historian.StoreWorker

namespace Historian

open Checks Files IngressState

/-- Where the coordinator stands. It holds the control gate from the send of an append until the
append is published, and while it waits for a barrier or for the end. -/
inductive Coordinator where
  | idle
  | holding (slot : Nat) (prepared : PreparedAdmissionV1) (priority : AdmissionPriority)
      (barrier : BarrierDemand)
  | awaitingAppend (slot : Nat) (priority : AdmissionPriority) (barrier : BarrierDemand)
      (frameBytes : Nat)
  | appended (entry : PublishedAppend)
  | staged (entry : PublishedAppend)
  | handled (entry : PublishedAppend)
  | barrierRequired
  | awaitingBarrier
  | drained
  | awaitingShutdown
  | exited

/-- Whether a caller can have the control gate. -/
def Coordinator.gateFree : Coordinator → Bool
  | .idle | .holding .. | .barrierRequired | .drained | .exited => true
  | _ => false

/-- The runtime as a whole: callers and coordinator over the shared state, the channel to the
store worker, and the worker with its directory until it returns. -/
structure Writer where
  runtime : Runtime
  coordinator : Coordinator
  channel : List StoreWorkerMessage
  worker : Option StoreWorker
  directory : StoreDirectory

/-- A step of a caller, of the coordinator or of the worker, or the end of the handle that owns
them, which stops the runtime from outside. -/
inductive WriterEvent where
  | submitter (event : RuntimeEvent)
  | registry (operation : RegistryOperation)
  | bind (envelope : CollectionEnvelope)
  | takeNext
  | sendAppend
  | preparePublication
  | finishHandled
  | sendPublished
  | sendBarrier
  | sendShutdown
  | work (aged : Bool)
  | timeout
  | dropRuntime

/-- The events of the threads that submit, and the close of admission. -/
def RuntimeEvent.ofSubmitter : RuntimeEvent → Bool
  | .enter _ | .check _ | .measure _ | .reserve _ | .prepare _ | .enqueue _ | .rollback _ => true
  | .closeAdmission => true
  | _ => false

def WriterEvent.Lawful : WriterEvent → Prop
  | .submitter event => event.Lawful
  | _ => True

namespace Writer

variable (writer : Writer)

def setShared (shared : IngressState) : Writer :=
  { writer with runtime := { writer.runtime with shared := shared } }

/-- The coordinator ends early: its guard stops the runtime, and the worker returns before the
next message. -/
def exit : Writer :=
  { writer with
    runtime := { writer.runtime with shared := writer.runtime.shared.stopAll, writer := [] }
    coordinator := .exited
    channel := []
    worker := none }

/-- A send that does not wait. It finds the channel closed once the worker has returned, and it may
find it full; either way it delivers nothing and ends the coordinator. -/
def send (message : StoreWorkerMessage) (next : Coordinator) : Writer :=
  match writer.worker with
  | none => writer.exit
  | some _ =>
    if writer.channel.length < maxOutstandingCommands then
      { writer with channel := writer.channel ++ [message], coordinator := next }
    else writer.exit

/-- A caller that has the gate sends and waits, or is dropped while it waits. A channel that is
closed or full refuses the call. -/
def call (message : StoreWorkerMessage) : Option Writer :=
  if writer.coordinator.gateFree then
    match writer.worker with
    | none => some writer
    | some _ =>
      if writer.channel.length < maxOutstandingCommands then
        some { writer with channel := writer.channel ++ [message] }
      else some writer
  else none

def takeNext : Writer :=
  let writer' := { writer with runtime := writer.runtime.takeNext }
  match writer.runtime.shared.takeNext.1 with
  | .work slot prepared priority barrier =>
    { writer' with coordinator := .holding slot prepared priority barrier }
  | .barrierRequired => { writer' with coordinator := .barrierRequired }
  | .empty => writer'
  | .drained => { writer' with coordinator := .drained }
  | .failed => writer'.exit

/-- What a turn of the worker leaves behind. -/
def settle {α : Type} (turn : Turn α) (rest : List StoreWorkerMessage) : Writer :=
  { writer.setShared turn.shared with
    channel := rest
    worker := match turn.result with
      | .ok _ => some turn.worker
      | .error _ => none
    directory := applyAll writer.directory turn.effects }

/-- The answer to an append reaches the coordinator that waits for it. -/
def answerAppend (turn : Turn AppendResult) (rest : List StoreWorkerMessage) : Writer :=
  let writer' := writer.settle turn rest
  match turn.result, writer.coordinator with
  | .ok result, .awaitingAppend slot priority barrier frameBytes =>
    match writer'.runtime.step (.append 0 result.append) with
    | some runtime => { writer' with
        runtime := runtime
        coordinator := .appended ⟨slot, priority, barrier, frameBytes, result.admission.retry,
          result.append⟩ }
    | none => writer'.exit
  | _, _ => writer'.exit

def answerBarrier (turn : Turn Unit) (rest : List StoreWorkerMessage) : Writer :=
  match turn.result with
  | .ok _ => { writer.settle turn rest with coordinator := .idle }
  | .error _ => (writer.settle turn rest).exit

/-- The worker returns behind a shutdown, and the coordinator is done when it was flushed. -/
def answerShutdown (turn : Turn Unit) : Writer :=
  match turn.result with
  | .ok _ => { writer.settle turn [] with coordinator := .exited, worker := none }
  | .error _ => (writer.settle turn []).exit

/-- One round of the worker's loop with the message at the head of the channel. -/
def handle (options : StoreOptions) (worker : StoreWorker) (aged : Bool)
    (rest : List StoreWorkerMessage) : StoreWorkerMessage → Writer
  | .append slot prepared =>
    writer.answerAppend
      (worker.handleAppend slot prepared aged writer.runtime.shared writer.directory) rest
  | .published entry =>
    writer.settle
      (worker.handlePublished options entry aged writer.runtime.shared writer.directory) rest
  | .barrier =>
    writer.answerBarrier (worker.handleBarrier writer.runtime.shared writer.directory) rest
  | .registry operation =>
    writer.settle (worker.handleRegistry operation writer.runtime.shared writer.directory) rest
  | .bind envelope => writer.settle (worker.handleBind envelope writer.runtime.shared) rest
  | .shutdown =>
    writer.answerShutdown (worker.handleBarrier writer.runtime.shared writer.directory)

/-- Without a publication the handle is dropped, and the coordinator ends. -/
def preparePublication (entry : PublishedAppend) : Option Writer :=
  (writer.runtime.step (.publish 0)).map fun runtime =>
    if runtime.writer = [] then ({ writer with runtime := runtime } : Writer).exit
    else { writer with runtime := runtime, coordinator := .staged entry }

def finishHandled (entry : PublishedAppend) : Option Writer :=
  match writer.runtime.writer with
  | .published slot admission append preparation :: _ =>
    (writer.runtime.step (.completeHandled 0)).map fun runtime =>
      if (writer.runtime.shared.completeHandled slot admission append preparation).1 then
        { writer with runtime := runtime, coordinator := .handled entry }
      else ({ writer with runtime := runtime } : Writer).exit
  | _ => none

/-- One step; a thread that is not at the step cannot take it. -/
def step (options : StoreOptions) : WriterEvent → Option Writer
  | .submitter event =>
    if event.ofSubmitter then
      (writer.runtime.step event).map fun runtime => { writer with runtime := runtime }
    else none
  | .registry operation => writer.call (.registry operation)
  | .bind envelope => writer.call (.bind envelope)
  | .takeNext =>
    match writer.coordinator with
    | .idle => some writer.takeNext
    | _ => none
  | .sendAppend =>
    match writer.coordinator with
    | .holding slot prepared priority barrier =>
      some (writer.send (.append slot prepared)
        (.awaitingAppend slot priority barrier prepared.frameLen))
    | _ => none
  | .preparePublication =>
    match writer.coordinator with
    | .appended entry => writer.preparePublication entry
    | _ => none
  | .finishHandled =>
    match writer.coordinator with
    | .staged entry => writer.finishHandled entry
    | _ => none
  | .sendPublished =>
    match writer.coordinator with
    | .handled entry => some (writer.send (.published entry) .idle)
    | _ => none
  | .sendBarrier =>
    match writer.coordinator with
    | .barrierRequired => some (writer.send .barrier .awaitingBarrier)
    | _ => none
  | .sendShutdown =>
    match writer.coordinator with
    | .drained => some (writer.send .shutdown .awaitingShutdown)
    | _ => none
  | .work aged =>
    match writer.worker, writer.channel with
    | some worker, message :: rest => some (writer.handle options worker aged rest message)
    | _, _ => none
  | .timeout =>
    match writer.worker with
    | some worker =>
      if worker.unpublished = none then
        some (writer.settle (worker.handleTimeout writer.runtime.shared writer.directory)
          writer.channel)
      else none
    | none => none
  | .dropRuntime => some writer.exit

def run (options : StoreOptions) (writer : Writer) : List WriterEvent → Option Writer
  | [] => some writer
  | event :: rest =>
    match writer.step options event with
    | some next => run options next rest
    | none => none

end Writer

/-- A runtime is ready once the store is open and the shared state has its retry projection. -/
def Writer.open (options : StoreOptions) (d : StoreDirectory) : Option Writer :=
  match ManifestStore.open options.manifestConfig d with
  | (.error _, _) => none
  | (.ok store, effects) =>
    if store.retry.reference ≠ some store.commit.retryState then none
    else
      ((IngressState.new options.storeId options.byteLimits options.retry).installOpenedRetry
        store.retry).map fun shared =>
          ⟨⟨shared, [], [], []⟩, .idle, [], some ⟨store, [], none⟩, applyAll d effects⟩

end Historian
