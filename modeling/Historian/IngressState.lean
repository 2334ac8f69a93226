import Historian.JournalPrepared
import Historian.Latest
import Historian.RetryTransition

namespace Historian

open Checks

def maxOutstandingCommands : Nat := 16

inductive AdmissionPriority where
  | protectedClass | normal | bulk
  deriving DecidableEq, Repr

inductive BarrierDemand where
  | group | immediate
  deriving DecidableEq, Repr

/-- The reserves of the higher classes are nested within the total. -/
structure ByteReservationLimits where
  total : U64
  protectedReserve : U64
  normalReserve : U64
  positive : 0 < total.val
  nested : protectedReserve.val + normalReserve.val ≤ total.val

instance : DecidableEq ByteReservationLimits := fun left right =>
  decidable_of_iff (left.total = right.total ∧
    left.protectedReserve = right.protectedReserve ∧ left.normalReserve = right.normalReserve)
    (by cases left; cases right; simp)

def ByteReservationLimits.classCeiling (limits : ByteReservationLimits) : AdmissionPriority → Nat
  | .protectedClass => limits.total.val
  | .normal => limits.total.val - limits.protectedReserve.val
  | .bulk => limits.total.val - limits.protectedReserve.val - limits.normalReserve.val

structure IngressCommand where
  admission : CanonicalAdmission
  priority : AdmissionPriority
  barrier : BarrierDemand
  deriving DecidableEq

structure AppendIdentity where
  journal : JournalIdentity
  appendSequence : U64
  endOffset : U64
  deriving DecidableEq

structure DurableCommit where
  append : AppendIdentity
  committed : ManifestCommit
  deriving DecidableEq

inductive HandledOutcome where
  | writerHandled (append : AppendIdentity)
  | writerStopped
  deriving DecidableEq

inductive DurableOutcome where
  | durable (commit : DurableCommit)
  | writerStopped
  deriving DecidableEq

/-- The two stages of one receipt; a resolved stage is never resolved again. -/
structure ReceiptState where
  handled : Option HandledOutcome
  durable : Option DurableOutcome
  deriving DecidableEq

def ReceiptState.pending : ReceiptState := ⟨none, none⟩

def ReceiptState.resolveHandled (receipt : ReceiptState) (append : AppendIdentity) :
    Bool × ReceiptState :=
  if receipt.handled ≠ none then (false, receipt)
  else (true, { receipt with handled := some (.writerHandled append) })

def ReceiptState.resolveDurable (receipt : ReceiptState) (commit : DurableCommit) :
    Bool × ReceiptState :=
  if receipt.durable ≠ none then (false, receipt)
  else (true, { receipt with durable := some (.durable commit) })

def ReceiptState.resolveStopped (receipt : ReceiptState) : ReceiptState :=
  ⟨some (receipt.handled.getD .writerStopped), some (receipt.durable.getD .writerStopped)⟩

inductive SlotPhase where
  | preparing | queued | inFlight | awaitingDurability
  deriving DecidableEq, Repr

/-- One outstanding command. The terminal is the number of its shared receipt. -/
structure Slot where
  qualification : RetryQualification
  prepared : Option PreparedAdmissionV1
  retainedAdmission : Option CanonicalAdmission
  terminal : Nat
  phase : SlotPhase
  reservation : Nat
  priority : AdmissionPriority
  barrier : BarrierDemand
  append : Option AppendIdentity
  deriving DecidableEq

/-- A ring of slot numbers. -/
structure FixedQueue where
  entries : List (Option Nat)
  head : Nat
  len : Nat
  deriving DecidableEq

namespace FixedQueue

def new : FixedQueue := ⟨List.replicate maxOutstandingCommands none, 0, 0⟩

def canPush (queue : FixedQueue) : Bool :=
  queue.len < maxOutstandingCommands &&
    queue.entries[(queue.head + queue.len) % maxOutstandingCommands]? = some none

def push (queue : FixedQueue) (slotIndex : Nat) : FixedQueue :=
  { queue with
    entries := queue.entries.set ((queue.head + queue.len) % maxOutstandingCommands)
      (some slotIndex)
    len := queue.len + 1 }

def pop (queue : FixedQueue) : Option Nat × FixedQueue :=
  if queue.len = 0 then (none, queue)
  else
    ((queue.entries[queue.head]?).join,
      { entries := queue.entries.set queue.head none
        head := (queue.head + 1) % maxOutstandingCommands
        len := queue.len - 1 })

end FixedQueue

/-- What the mutex protects, and the receipts that its slots and callers share. -/
structure IngressState where
  storeId : StoreId
  closed : Bool
  slots : List (Option Slot)
  queue : FixedQueue
  latest : LatestState
  byteLimits : ByteReservationLimits
  reservedBytes : Nat
  barrierRequested : Bool
  retry : RetryStateSnapshot
  receipts : List ReceiptState
  deriving DecidableEq

namespace IngressState

def new (storeId : StoreId) (byteLimits : ByteReservationLimits)
    (retryOptions : RetryPersistenceOptions) : IngressState :=
  ⟨storeId, false, List.replicate maxOutstandingCommands none, .new, .new storeId, byteLimits, 0,
    false, .empty storeId retryOptions, []⟩

/-- The occupied slots. -/
def occupied (state : IngressState) : List Slot := state.slots.filterMap id

def activeCount (state : IngressState) : Nat := state.occupied.length

def slot? (state : IngressState) (slotIndex : Nat) : Option Slot := (state.slots[slotIndex]?).join

def setSlot (state : IngressState) (slotIndex : Nat) (slot : Option Slot) : IngressState :=
  { state with slots := state.slots.set slotIndex slot }

def canReserve (state : IngressState) (priority : AdmissionPriority) (bytes : Nat) : Bool :=
  state.reservedBytes + bytes ≤ state.byteLimits.classCeiling priority

def receipt (state : IngressState) (terminal : Nat) : ReceiptState :=
  state.receipts.getD terminal .pending

def setReceipt (state : IngressState) (terminal : Nat) (receipt : ReceiptState) : IngressState :=
  { state with receipts := state.receipts.set terminal receipt }

def stopReceipts (slots : List (Option Slot)) (receipts : List ReceiptState) : List ReceiptState :=
  (slots.filterMap id).foldl (fun receipts slot => receipts.modify slot.terminal (·.resolveStopped))
    receipts

/-- Every slot is given up with its receipt stopped, and admission never opens again. -/
def stopAll (state : IngressState) : IngressState :=
  { state with
    closed := true
    latest := state.latest.makeUnavailable
    queue := .new
    reservedBytes := 0
    slots := state.slots.map fun _ => none
    receipts := stopReceipts state.slots state.receipts }

/-- Startup replaces the empty projection by the one that the store opened. -/
def installOpenedRetry (state : IngressState) (retry : RetryStateSnapshot) : Option IngressState :=
  if state.activeCount ≠ 0 ∨ retry.storeId ≠ state.storeId ∨
      retry.options ≠ state.retry.options then none
  else some { state with retry := retry }

end IngressState

inductive TrySubmitErrorKind where
  | closed | storeMismatch | encoding | byteCapacity | full | retryConflict | retryExpired
  deriving DecidableEq, Repr

structure TrySubmitError where
  kind : TrySubmitErrorKind
  encoding : Option JournalV1Error
  command : IngressCommand
  deriving DecidableEq

inductive SubmissionDisposition where
  | queued | coalesced | replayed
  deriving DecidableEq, Repr

structure Submission where
  disposition : SubmissionDisposition
  receipt : Nat
  deriving DecidableEq

abbrev SubmitResult := Except TrySubmitError Submission

def TrySubmitError.of (kind : TrySubmitErrorKind) (command : IngressCommand) : SubmitResult :=
  .error ⟨kind, none, command⟩

def TrySubmitError.ofEncoding (error : JournalV1Error) (command : IngressCommand) : SubmitResult :=
  .error ⟨.encoding, some error, command⟩

namespace IngressState

/-- The precedence that both locked sections of a submission start with. -/
def refusal (state : IngressState) (command : IngressCommand) : Option SubmitResult :=
  if state.closed then some (TrySubmitError.of .closed command)
  else if command.admission.storeId ≠ state.storeId then
    some (TrySubmitError.of .storeMismatch command)
  else none

/-- The first occupied slot that is not distinct decides: its receipt, or a conflict. -/
def classifySlots (qualification : RetryQualification) : List (Option Slot) → Option (Option Nat)
  | [] => none
  | none :: rest => classifySlots qualification rest
  | some slot :: rest =>
    match slot.qualification.classify qualification with
    | .equivalent => some (some slot.terminal)
    | .conflict => some none
    | .distinct => classifySlots qualification rest

inductive Reservation where
  | finished (result : SubmitResult)
  | reserved (slotIndex : Nat) (terminal : Nat) (frameLen : Nat)
  deriving DecidableEq

/-- The receipt of a replayed outcome is resolved before anyone holds it. -/
def replayed (state : IngressState) (outcome : RetryReplayOutcome) : Submission × IngressState :=
  let append : AppendIdentity :=
    ⟨outcome.committed.durableCutoff.journal, outcome.appendSequence, outcome.endOffset⟩
  let handled := (ReceiptState.pending.resolveHandled append).2
  let resolved := (handled.resolveDurable ⟨append, outcome.committed⟩).2
  (⟨.replayed, state.receipts.length⟩, { state with receipts := state.receipts ++ [resolved] })

/-- A fresh command takes the first free slot when the counts and bytes allow it. -/
def reserveFresh (state : IngressState) (command : IngressCommand) (frameLen : Nat) :
    Reservation × IngressState :=
  if state.activeCount = maxOutstandingCommands then
    (.finished (TrySubmitError.of .full command), state)
  else if ¬state.canReserve command.priority frameLen then
    (.finished (TrySubmitError.of .byteCapacity command), state)
  else
    match state.slots.findIdx? (·.isNone) with
    | none => (.finished (TrySubmitError.of .closed command), state)
    | some slotIndex =>
      let terminal := state.receipts.length
      let slot : Slot := ⟨command.admission.retry, none, none, terminal, .preparing, frameLen,
        command.priority, command.barrier, none⟩
      (.reserved slotIndex terminal frameLen,
        { state.setSlot slotIndex (some slot) with
          reservedBytes := state.reservedBytes + frameLen
          receipts := state.receipts ++ [.pending] })

/-- The second locked section of a submission. -/
def reserve (state : IngressState) (command : IngressCommand)
    (measured : Except JournalV1Error Nat) : Reservation × IngressState :=
  match state.refusal command with
  | some result => (.finished result, state)
  | none =>
    match measured with
    | .error error => (.finished (TrySubmitError.ofEncoding error command), state)
    | .ok frameLen =>
      match classifySlots command.admission.retry state.slots with
      | some (some terminal) => (.finished (.ok ⟨.coalesced, terminal⟩), state)
      | some none => (.finished (TrySubmitError.of .retryConflict command), state)
      | none =>
        match state.retry.classify command.admission.retry with
        | .replay outcome =>
          let (submission, state) := state.replayed outcome
          (.finished (.ok submission), state)
        | .expired => (.finished (TrySubmitError.of .retryExpired command), state)
        | .conflict => (.finished (TrySubmitError.of .retryConflict command), state)
        | .fresh => state.reserveFresh command frameLen

/-- The third locked section: the encoded command enters the queue in its own slot. -/
def enqueue (state : IngressState) (slotIndex terminal : Nat) (prepared : PreparedAdmissionV1)
    (command : IngressCommand) : SubmitResult × IngressState :=
  match state.slot? slotIndex with
  | some slot =>
    if slot.phase = .preparing ∧ state.queue.canPush then
      (.ok ⟨.queued, terminal⟩,
        { state.setSlot slotIndex (some { slot with prepared := some prepared, phase := .queued })
          with queue := state.queue.push slotIndex })
    else (TrySubmitError.of .closed command, state.stopAll)
  | none => (TrySubmitError.of .closed command, state.stopAll)

def rollbackPreparation (state : IngressState) (slotIndex : Nat) : IngressState :=
  match state.slot? slotIndex with
  | none => state
  | some slot =>
    { state.setSlot slotIndex none with
      reservedBytes := state.reservedBytes - slot.reservation
      receipts := state.receipts.modify slot.terminal (·.resolveStopped) }

def closeAdmission (state : IngressState) : IngressState := { state with closed := true }

inductive NextWork where
  | work (slotIndex : Nat) (prepared : PreparedAdmissionV1) (priority : AdmissionPriority)
      (barrier : BarrierDemand)
  | barrierRequired
  | empty
  | drained
  | failed
  deriving DecidableEq

def takeNext (state : IngressState) : NextWork × IngressState :=
  match state.queue.pop with
  | (some slotIndex, queue) =>
    let state := { state with queue := queue }
    match state.slot? slotIndex with
    | none => (.failed, state)
    | some slot =>
      if slot.phase ≠ .queued then (.failed, state)
      else
        match slot.prepared with
        | none => (.failed, state)
        | some prepared =>
          (.work slotIndex prepared slot.priority slot.barrier,
            state.setSlot slotIndex (some { slot with prepared := none, phase := .inFlight }))
  | (none, queue) =>
    let state := { state with queue := queue }
    if state.closed ∧ state.activeCount = 0 then
      let (isSealed, latest) := state.latest.seal
      (if isSealed then .drained else .failed, { state with latest := latest })
    else if state.closed ∧ ¬state.barrierRequested then
      (.barrierRequired, { state with barrierRequested := true })
    else (.empty, state)

/-- The candidate is the last observation of the envelope, when it has a position. -/
def candidateOf (admission : CanonicalAdmission) : Option PublishedObservation := do
  let observation ← admission.envelope.observations.getLast?
  let position ← observation.producerPosition
  pure ⟨admission.envelope.series, observation, position⟩

def preparePublication (state : IngressState) (slotIndex : Nat) (admission : CanonicalAdmission) :
    Option PreparedPublication × IngressState :=
  match state.slot? slotIndex with
  | some slot =>
    if slot.phase = .inFlight then
      match state.latest.plan (candidateOf admission) with
      | some plan =>
        let (preparation, latest) := state.latest.stage plan
        (some preparation, { state with latest := latest })
      | none => (none, state)
    else (none, state)
  | none => (none, state)

/-- The slot keeps its admission and append while it waits for a barrier. -/
def completeHandled (state : IngressState) (slotIndex : Nat) (admission : CanonicalAdmission)
    (append : AppendIdentity) (preparation : PreparedPublication) : Bool × IngressState :=
  match state.slot? slotIndex with
  | none => (false, state.stopAll)
  | some slot =>
    if slot.phase ≠ .inFlight ∨ ¬state.latest.canComplete preparation then (false, state.stopAll)
    else
      let slot := { slot with
        retainedAdmission := some admission
        append := some append
        phase := .awaitingDurability }
      let (resolved, receipt) := (state.receipt slot.terminal).resolveHandled append
      let state := { state.setSlot slotIndex (some slot) with
        latest := state.latest.commit preparation }
      if resolved then (true, state.setReceipt slot.terminal receipt) else (false, state.stopAll)

structure DurableBatchEntry where
  slot : Nat
  qualification : RetryQualification
  append : AppendIdentity
  deriving DecidableEq

def DurableBatchEntry.pendingOutcome (entry : DurableBatchEntry) : PendingRetryOutcome :=
  ⟨entry.qualification, entry.append.appendSequence, entry.append.endOffset⟩

/-- A batch entry must name a slot that waits with exactly this append and qualification. -/
def batchEntryValid (state : IngressState) (cutoff : DurableCutoff) (entry : DurableBatchEntry) :
    Bool :=
  match state.slot? entry.slot with
  | none => false
  | some slot =>
    match slot.append with
    | none => false
    | some append =>
      slot.phase = .awaitingDurability ∧ append = entry.append ∧
        slot.qualification = entry.qualification ∧ append.journal = cutoff.journal ∧
        append.appendSequence ≤ cutoff.appendSequence ∧ append.endOffset ≤ cutoff.endOffset ∧
        (state.receipt slot.terminal).durable = none

/-- The slots of a batch are given up one by one with their receipts resolved. -/
def finishBatch (committed : ManifestCommit) :
    IngressState → List DurableBatchEntry → Bool × IngressState
  | state, [] => (true, state)
  | state, entry :: rest =>
    match state.slot? entry.slot with
    | none => (false, state.stopAll)
    | some slot =>
      let append := slot.append.getD entry.append
      let (resolved, receipt) := (state.receipt slot.terminal).resolveDurable ⟨append, committed⟩
      let state := { state.setSlot entry.slot none with
        reservedBytes := state.reservedBytes - slot.reservation }
      if resolved then finishBatch committed (state.setReceipt slot.terminal receipt) rest
      else (false, state.stopAll)

def completeDurableBatch (state : IngressState) (entries : List DurableBatchEntry)
    (committed : ManifestCommit) (retry : RetryStateSnapshot) : Bool × IngressState :=
  if entries = [] ∨ retry.storeId ≠ state.storeId ∨ retry.options ≠ state.retry.options ∨
      retry.reference ≠ some committed.retryState then (false, state.stopAll)
  else if ¬state.retry.verifiesTransition retry (entries.map (·.pendingOutcome)) committed then
    (false, state.stopAll)
  else if ¬entries.all (state.batchEntryValid committed.durableCutoff) then (false, state.stopAll)
  else finishBatch committed { state with retry := retry } entries

end IngressState

end Historian
