import Historian.IngressState

namespace Historian

open IngressState

/-- Where one `try_submit` call stands between its locked sections. -/
inductive SubmitPhase where
  | entered (command : IngressCommand)
  | admitted (command : IngressCommand)
  | measured (command : IngressCommand) (measured : Except JournalV1Error Nat)
  | reserved (command : IngressCommand) (slotIndex terminal frameLen : Nat)
  | prepared (command : IngressCommand) (slotIndex terminal : Nat) (prepared : PreparedAdmissionV1)
  | rollback (command : IngressCommand) (slotIndex : Nat) (error : JournalV1Error)
  | finished (result : SubmitResult)
  deriving DecidableEq

/-- A command that the writer has taken, until it is handled or dropped. -/
inductive InFlightCommand where
  | taken (slotIndex : Nat) (prepared : PreparedAdmissionV1)
  | appended (slotIndex : Nat) (admission : CanonicalAdmission) (append : AppendIdentity)
  | published (slotIndex : Nat) (admission : CanonicalAdmission) (append : AppendIdentity)
      (preparation : PreparedPublication)
  deriving DecidableEq

def InFlightCommand.slotIndex : InFlightCommand → Nat
  | .taken slotIndex _ => slotIndex
  | .appended slotIndex _ _ => slotIndex
  | .published slotIndex _ _ _ => slotIndex

def InFlightCommand.retry : InFlightCommand → RetryQualification
  | .taken _ prepared => prepared.admission.retry
  | .appended _ admission _ => admission.retry
  | .published _ admission _ _ => admission.retry

def InFlightCommand.isTaken : InFlightCommand → Bool
  | .taken _ _ => true
  | .appended _ _ _ => false
  | .published _ _ _ _ => false

/-- One opened runtime: the shared state, every submission, the writer's commands and what it
has appended. -/
structure Runtime where
  shared : IngressState
  submits : List SubmitPhase
  writer : List InFlightCommand
  journal : List (RetryQualification × AppendIdentity)
  deriving DecidableEq

/-- The atomic steps: a locked section, or work of one thread between two of them. -/
inductive RuntimeEvent where
  | enter (command : IngressCommand)
  | check (submit : Nat)
  | measure (submit : Nat)
  | reserve (submit : Nat)
  | prepare (submit : Nat)
  | enqueue (submit : Nat)
  | rollback (submit : Nat)
  | takeNext
  | append (inFlight : Nat) (identity : AppendIdentity)
  | publish (inFlight : Nat)
  | completeHandled (inFlight : Nat)
  | drop (inFlight : Nat)
  | completeDurableBatch (entries : List DurableBatchEntry) (committed : ManifestCommit)
      (retry : RetryStateSnapshot)
  | closeAdmission
  | stop
  deriving DecidableEq

namespace Runtime

def setSubmit (runtime : Runtime) (submit : Nat) (phase : SubmitPhase) : Runtime :=
  { runtime with submits := runtime.submits.set submit phase }

def check (runtime : Runtime) (submit : Nat) (command : IngressCommand) : Runtime :=
  match runtime.shared.refusal command with
  | some result => runtime.setSubmit submit (.finished result)
  | none => runtime.setSubmit submit (.admitted command)

def reserve (runtime : Runtime) (submit : Nat) (command : IngressCommand)
    (measured : Except JournalV1Error Nat) : Runtime :=
  match runtime.shared.reserve command measured with
  | (.finished result, shared) => { runtime.setSubmit submit (.finished result) with shared }
  | (.reserved slotIndex terminal frameLen, shared) =>
    { runtime.setSubmit submit (.reserved command slotIndex terminal frameLen) with shared }

/-- Encoding happens outside the lock; a refusal or another length leads to the rollback. -/
def prepare (runtime : Runtime) (submit : Nat) (command : IngressCommand)
    (slotIndex terminal frameLen : Nat) : Runtime :=
  runtime.setSubmit submit <|
    match PreparedAdmissionV1.new command.admission with
    | .ok prepared =>
      if prepared.frameLen = frameLen then .prepared command slotIndex terminal prepared
      else .rollback command slotIndex .invalidCanonicalData
    | .error error => .rollback command slotIndex error.error

def enqueue (runtime : Runtime) (submit : Nat) (command : IngressCommand)
    (slotIndex terminal : Nat) (prepared : PreparedAdmissionV1) : Runtime :=
  let (result, shared) := runtime.shared.enqueue slotIndex terminal prepared command
  { runtime.setSubmit submit (.finished result) with shared }

def rollback (runtime : Runtime) (submit : Nat) (command : IngressCommand) (slotIndex : Nat)
    (error : JournalV1Error) : Runtime :=
  { runtime.setSubmit submit (.finished (TrySubmitError.ofEncoding error command)) with
    shared := runtime.shared.rollbackPreparation slotIndex }

def takeNext (runtime : Runtime) : Runtime :=
  match runtime.shared.takeNext with
  | (.work slotIndex prepared _ _, shared) =>
    { runtime with shared, writer := runtime.writer ++ [.taken slotIndex prepared] }
  | (_, shared) => { runtime with shared }

/-- The writer holds the only handle, so dropping it stops the runtime. -/
def drop (runtime : Runtime) (inFlight : Nat) : Runtime :=
  { runtime with shared := runtime.shared.stopAll, writer := runtime.writer.eraseIdx inFlight }

def publish (runtime : Runtime) (inFlight slotIndex : Nat) (admission : CanonicalAdmission)
    (append : AppendIdentity) : Runtime :=
  match runtime.shared.preparePublication slotIndex admission with
  | (some preparation, shared) =>
    { runtime with
      shared
      writer := runtime.writer.set inFlight (.published slotIndex admission append preparation) }
  | (none, shared) => { runtime with shared }.drop inFlight

/-- One step of the runtime; a thread that is not at the step's section cannot take it. -/
def step (runtime : Runtime) : RuntimeEvent → Option Runtime
  | .enter command => some { runtime with submits := runtime.submits ++ [.entered command] }
  | .check submit =>
    match runtime.submits[submit]? with
    | some (.entered command) => some (runtime.check submit command)
    | _ => none
  | .measure submit =>
    match runtime.submits[submit]? with
    | some (.admitted command) =>
      some (runtime.setSubmit submit
        (.measured command (admissionFrameLenV1 command.admission)))
    | _ => none
  | .reserve submit =>
    match runtime.submits[submit]? with
    | some (.measured command measured) => some (runtime.reserve submit command measured)
    | _ => none
  | .prepare submit =>
    match runtime.submits[submit]? with
    | some (.reserved command slotIndex terminal frameLen) =>
      some (runtime.prepare submit command slotIndex terminal frameLen)
    | _ => none
  | .enqueue submit =>
    match runtime.submits[submit]? with
    | some (.prepared command slotIndex terminal prepared) =>
      some (runtime.enqueue submit command slotIndex terminal prepared)
    | _ => none
  | .rollback submit =>
    match runtime.submits[submit]? with
    | some (.rollback command slotIndex error) =>
      some (runtime.rollback submit command slotIndex error)
    | _ => none
  | .takeNext => some runtime.takeNext
  | .append inFlight identity =>
    match runtime.writer[inFlight]? with
    | some (.taken slotIndex prepared) =>
      some { runtime with
        writer := runtime.writer.set inFlight (.appended slotIndex prepared.admission identity)
        journal := runtime.journal ++ [(prepared.admission.retry, identity)] }
    | _ => none
  | .publish inFlight =>
    match runtime.writer[inFlight]? with
    | some (.appended slotIndex admission append) =>
      some (runtime.publish inFlight slotIndex admission append)
    | _ => none
  | .completeHandled inFlight =>
    match runtime.writer[inFlight]? with
    | some (.published slotIndex admission append preparation) =>
      some { runtime with
        shared := (runtime.shared.completeHandled slotIndex admission append preparation).2
        writer := runtime.writer.eraseIdx inFlight }
    | _ => none
  | .drop inFlight =>
    match runtime.writer[inFlight]? with
    | some _ => some (runtime.drop inFlight)
    | none => none
  | .completeDurableBatch entries committed retry =>
    some { runtime with shared := (runtime.shared.completeDurableBatch entries committed retry).2 }
  | .closeAdmission => some { runtime with shared := runtime.shared.closeAdmission }
  | .stop => some { runtime with shared := runtime.shared.stopAll }

def run (runtime : Runtime) : List RuntimeEvent → Option Runtime
  | [] => some runtime
  | event :: rest =>
    match runtime.step event with
    | some next => next.run rest
    | none => none

/-- The qualifications held by the slots, the replay tier and the guard tier. -/
def held (runtime : Runtime) : List RetryQualification :=
  runtime.shared.occupied.map (·.qualification) ++ runtime.shared.retry.retained

/-- A runtime right after startup has installed the retry projection that the store opened. -/
def Opened (runtime : Runtime) (retry : RetryStateSnapshot) : Prop :=
  ∃ storeId byteLimits,
    (IngressState.new storeId byteLimits retry.options).installOpenedRetry retry =
      some runtime.shared ∧
    runtime.submits = [] ∧ runtime.writer = [] ∧ runtime.journal = []

end Runtime

/-- Callers can only submit admissions that the core constructors produced. -/
def RuntimeEvent.Lawful : RuntimeEvent → Prop
  | .enter command => command.admission.Built
  | _ => True

end Historian
