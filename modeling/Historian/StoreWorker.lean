import Historian.Ingress
import Historian.StoreRun

namespace Historian

open Wire Checks Files IngressState

def maxStoreDirectoryBytes : Nat := 4096

inductive StoreOptionsError where
  | store (error : ManifestStoreError)
  | invalidRelationships
  deriving DecidableEq

/-- When a group of appends is made durable and when a generation is old, in nanoseconds. -/
structure GroupCommitPolicy where
  maxDelay : Nat
  maxRecords : Nat
  maxBytes : Nat
  rotationAge : Nat
  delay_pos : 0 < maxDelay
  records_pos : 0 < maxRecords
  records_le : maxRecords ≤ maxOutstandingCommands
  bytes_pos : 0 < maxBytes
  age_pos : 0 < rotationAge

def GroupCommitPolicy.new (maxDelay maxRecords maxBytes rotationAge : Nat) :
    Except StoreOptionsError GroupCommitPolicy :=
  if h : 0 < maxDelay ∧ 0 < maxRecords ∧ maxRecords ≤ maxOutstandingCommands ∧ 0 < maxBytes ∧
      0 < rotationAge then
    .ok ⟨maxDelay, maxRecords, maxBytes, rotationAge, h.1, h.2.1, h.2.2.1, h.2.2.2.1, h.2.2.2.2⟩
  else .error .invalidRelationships

/-- The options of a runtime. The directory is the encoded path, of which only the length is
checked. -/
structure StoreOptions where
  directory : Bytes
  storeId : StoreId
  mode : ActiveJournalOpenMode
  journalLimits : ActiveJournalLimits
  byteLimits : ByteReservationLimits
  groupCommit : GroupCommitPolicy
  registry : RegistryPersistenceOptions
  retry : RetryPersistenceOptions
  directory_pos : 0 < directory.length
  directory_le : directory.length ≤ maxStoreDirectoryBytes
  group_le : groupCommit.maxBytes ≤ byteLimits.total.val

/-- The options of the journal, the registry and the retry state are valid by their types, so the
store's own configuration refuses nothing that is left after the directory. -/
def StoreOptions.new (directory : Bytes) (storeId : StoreId) (mode : ActiveJournalOpenMode)
    (journalLimits : ActiveJournalLimits) (byteLimits : ByteReservationLimits)
    (groupCommit : GroupCommitPolicy) (registry : RegistryPersistenceOptions)
    (retry : RetryPersistenceOptions) : Except StoreOptionsError StoreOptions :=
  if hd : 0 < directory.length ∧ directory.length ≤ maxStoreDirectoryBytes then
    if hg : groupCommit.maxBytes ≤ byteLimits.total.val then
      .ok ⟨directory, storeId, mode, journalLimits, byteLimits, groupCommit, registry, retry, hd.1,
        hd.2, hg⟩
    else .error .invalidRelationships
  else .error (.store .invalidOptions)

def StoreOptions.manifestConfig (options : StoreOptions) : ManifestStoreConfig :=
  ⟨options.storeId, options.mode, options.journalLimits, options.registry, options.retry⟩

/-- An append that is published and waits for its group. -/
structure PendingDurable where
  slot : Nat
  bytes : Nat
  qualification : RetryQualification
  append : AppendIdentity
  deriving DecidableEq

def PendingDurable.outcome (entry : PendingDurable) : PendingRetryOutcome :=
  ⟨entry.qualification, entry.append.appendSequence, entry.append.endOffset⟩

def PendingDurable.batchEntry (entry : PendingDurable) : DurableBatchEntry :=
  ⟨entry.slot, entry.qualification, entry.append⟩

structure AppendResult where
  admission : CanonicalAdmission
  append : AppendIdentity
  deriving DecidableEq

inductive RegistryOperation where
  | register (seriesId : SeriesId) (binding : SeriesBinding) (payload : SeriesDeclarationPayload)
      (evidence : DeclarationEvidence)
  | revise (seriesId : SeriesId) (expectedRevision : DeclarationRevision)
      (payload : SeriesDeclarationPayload) (evidence : DeclarationEvidence)
  | retire (seriesId : SeriesId) (expectedRevision : DeclarationRevision)
      (evidence : DeclarationEvidence)

def RegistryOperation.op : RegistryOperation → StoreOp
  | .register seriesId binding payload evidence => .register seriesId binding payload evidence
  | .revise seriesId expectedRevision payload evidence =>
    .revise seriesId expectedRevision payload evidence
  | .retire seriesId expectedRevision evidence => .retire seriesId expectedRevision evidence

def ManifestStore.bind (store : ManifestStore) (envelope : CollectionEnvelope) :
    Except ManifestStoreError DeclaredCollectionEnvelope := do
  store.ensureUsable
  (store.registry.bind envelope).mapError .model

/-- What the worker hears of an append that is published. -/
structure PublishedAppend where
  slot : Nat
  priority : AdmissionPriority
  barrier : BarrierDemand
  frameBytes : Nat
  qualification : RetryQualification
  append : AppendIdentity
  deriving DecidableEq

def PublishedAppend.pending (entry : PublishedAppend) : PendingDurable :=
  ⟨entry.slot, entry.frameBytes, entry.qualification, entry.append⟩

/-- What the worker receives. The channels for the answers are left out: an answer goes to the
coordinator that waits for it, or to a caller. -/
inductive StoreWorkerMessage where
  | append (slot : Nat) (prepared : PreparedAdmissionV1)
  | published (entry : PublishedAppend)
  | barrier
  | registry (operation : RegistryOperation)
  | bind (envelope : CollectionEnvelope)
  | shutdown

/-- What the worker's loop carries from one message to the next. -/
structure StoreWorker where
  store : ManifestStore
  pending : List PendingDurable
  unpublished : Option (Nat × Nat)

/-- A part of one round of the loop: its result, and the worker, the shared state and the changes
of the directory behind it. -/
structure Turn (α : Type) where
  result : Except ManifestStoreError α
  worker : StoreWorker
  shared : IngressState
  effects : List StoreEffect

namespace Turn

variable {α β : Type}

def done (worker : StoreWorker) (shared : IngressState) (output : α) : Turn α :=
  ⟨.ok output, worker, shared, []⟩

/-- A failure of the worker stops the runtime. -/
def failed (worker : StoreWorker) (shared : IngressState) (error : ManifestStoreError) : Turn α :=
  ⟨.error error, worker, shared.stopAll, []⟩

/-- A method of the store; the worker stops the runtime when it fails. -/
def ofAnswer (worker : StoreWorker) (shared : IngressState) (answer : Answer α) : Turn α :=
  match answer.result with
  | .ok output => ⟨.ok output, { worker with store := answer.store }, shared, answer.effects⟩
  | .error error =>
    ⟨.error error, { worker with store := answer.store }, shared.stopAll, answer.effects⟩

/-- The next part of the round, when this one did not fail. -/
def andThen (turn : Turn α) (d : StoreDirectory)
    (next : α → StoreWorker → IngressState → StoreDirectory → Turn β) : Turn β :=
  match turn.result with
  | .error error => ⟨.error error, turn.worker, turn.shared, turn.effects⟩
  | .ok output =>
    let rest := next output turn.worker turn.shared (applyAll d turn.effects)
    { rest with effects := turn.effects ++ rest.effects }

end Turn

namespace StoreWorker

variable (worker : StoreWorker)

/-- The store has committed the batch before the shared state hears of it. -/
def completeBatch (shared : IngressState) (committed : ManifestCommit)
    (retry : RetryStateSnapshot) : Turn Unit :=
  match shared.completeDurableBatch (worker.pending.map (·.batchEntry)) committed retry with
  | (true, shared) => Turn.done { worker with pending := [] } shared ()
  | (false, shared) => Turn.failed worker shared (.active .invalidLayout)

def flushPending (shared : IngressState) (d : StoreDirectory) : Turn Unit :=
  if worker.pending = [] then Turn.done worker shared ()
  else
    (Turn.ofAnswer worker shared
        (worker.store.syncPending (worker.pending.map (·.outcome)) d)).andThen d
      fun commit worker shared _ => worker.completeBatch shared commit.1 commit.2

def rotate (shared : IngressState) (d : StoreDirectory) : Turn Unit :=
  (Turn.ofAnswer worker shared (worker.store.rotate d)).andThen d
    fun _ worker shared _ => Turn.done worker shared ()

/-- Whether the generation is full or old. The clock is read as `aged`. -/
def rotationRequired (options : StoreOptions) (aged : Bool) : Bool :=
  options.journalLimits.activeBytes ≤ worker.store.journal.activeBytes.val ||
    options.journalLimits.recordLimit ≤ worker.store.journal.records.length ||
    (worker.store.journal.records ≠ [] && aged)

/-- A demanded rotation follows a flush, so that it finds nothing that is not durable. -/
def makeRoom (demanded : Bool) (shared : IngressState) (d : StoreDirectory) : Turn Unit :=
  if demanded then
    (worker.flushPending shared d).andThen d fun _ worker shared d => worker.rotate shared d
  else Turn.done worker shared ()

def appendFrame (slot : Nat) (frame : PreparedFrameV1) (frameLen : Nat) (shared : IngressState)
    (d : StoreDirectory) : Turn AppendResult :=
  (Turn.ofAnswer worker shared (worker.store.append frame d)).andThen d
    fun endOffset worker shared _ =>
      Turn.done { worker with unpublished := some (slot, frameLen) } shared
        ⟨frame.admission,
          ⟨worker.store.journal.identity, frame.appendSequence.value, endOffset⟩⟩

/-- What is checked before a frame is appended: the frame and whether it needs a rotation. -/
def planAppend (prepared : PreparedAdmissionV1) (aged : Bool) :
    Except ManifestStoreError (PreparedFrameV1 × Bool) := do
  refuse (worker.unpublished ≠ none) (.active .invalidLayout)
  let sequence ← worker.store.nextAppendSequence
  let frame ← (prepared.intoFrame sequence).mapError fun error =>
    ManifestStoreError.active (.journal error.error)
  worker.store.preflightHistoricalDeclaration frame.admission.declaration
  let fitRotation ← worker.store.requiresRotation prepared.frameLen
  pure (frame, (worker.store.journal.records ≠ [] && aged) || fitRotation)

def handleAppend (slot : Nat) (prepared : PreparedAdmissionV1) (aged : Bool)
    (shared : IngressState) (d : StoreDirectory) : Turn AppendResult :=
  match worker.planAppend prepared aged with
  | .error error => Turn.failed worker shared error
  | .ok (frame, demanded) =>
    (worker.makeRoom demanded shared d).andThen d fun _ worker shared d =>
      worker.appendFrame slot frame prepared.frameLen shared d

/-- Whether the group has to be durable now. -/
def forced (options : StoreOptions) (entry : PublishedAppend) (demanded : Bool) : Bool :=
  entry.priority = .protectedClass || entry.barrier = .immediate ||
    options.groupCommit.maxRecords ≤ worker.pending.length ||
    options.groupCommit.maxBytes ≤ (worker.pending.map (·.bytes)).sum || demanded

/-- A flush where it is forced, and the rotation behind it where that is demanded. -/
def commitGroup (forced demanded : Bool) (shared : IngressState) (d : StoreDirectory) :
    Turn Unit :=
  (if forced then worker.flushPending shared d else Turn.done worker shared ()).andThen d
    fun _ worker shared d =>
      if demanded && worker.pending = [] then worker.rotate shared d
      else Turn.done worker shared ()

/-- The append joins its group. -/
def join (entry : PublishedAppend) : StoreWorker :=
  { worker with pending := worker.pending ++ [entry.pending], unpublished := none }

def handlePublished (options : StoreOptions) (entry : PublishedAppend) (aged : Bool)
    (shared : IngressState) (d : StoreDirectory) : Turn Unit :=
  if worker.unpublished ≠ some (entry.slot, entry.frameBytes) then
    Turn.failed { worker with unpublished := none } shared (.active .invalidLayout)
  else
    let joined := worker.join entry
    let demanded := joined.rotationRequired options aged
    joined.commitGroup (joined.forced options entry demanded) demanded shared d

/-- A barrier and a shutdown flush what has been published. -/
def handleBarrier (shared : IngressState) (d : StoreDirectory) : Turn Unit :=
  if worker.unpublished ≠ none then Turn.failed worker shared (.active .invalidLayout)
  else worker.flushPending shared d

/-- A refusal of the registry's rules is an answer to the caller and stops nothing. -/
def handleRegistry (operation : RegistryOperation) (shared : IngressState) (d : StoreDirectory) :
    Turn (Except ModelError Unit) :=
  if worker.unpublished ≠ none then Turn.failed worker shared (.active .invalidLayout)
  else
    let answer := operation.op.run worker.store d
    match answer.result with
    | .ok () => ⟨.ok (.ok ()), { worker with store := answer.store }, shared, answer.effects⟩
    | .error (.model error) =>
      ⟨.ok (.error error), { worker with store := answer.store }, shared, answer.effects⟩
    | .error error =>
      ⟨.error error, { worker with store := answer.store }, shared.stopAll, answer.effects⟩

def handleBind (envelope : CollectionEnvelope) (shared : IngressState) :
    Turn (Except ModelError DeclaredCollectionEnvelope) :=
  if worker.unpublished ≠ none then Turn.failed worker shared (.active .invalidLayout)
  else
    match worker.store.bind envelope with
    | .ok bound => Turn.done worker shared (.ok bound)
    | .error (.model error) => Turn.done worker shared (.error error)
    | .error error => Turn.failed worker shared error

/-- The time of a group ran out without a message. -/
def handleTimeout (shared : IngressState) (d : StoreDirectory) : Turn Unit :=
  worker.flushPending shared d

end StoreWorker

end Historian
