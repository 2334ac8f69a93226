import Historian.ActiveOpen
import Historian.FileRules

namespace Historian

open Wire Checks Files

/-- The error kinds that a step of the file system reports. Two of them are storage pressure. -/
inductive ErrorKind where
  | storageFull | quotaExceeded
  | other (code : Nat)
  deriving DecidableEq, Repr

def isStoragePressure : ErrorKind → Bool
  | .storageFull | .quotaExceeded => true
  | .other _ => false

/-- The steps of an append and of a synchronisation. -/
inductive JournalIoOperation where
  | seek | write | syncJournal | syncCheckpoint
  deriving DecidableEq, Repr

def JournalIoOperation.isMutating : JournalIoOperation → Bool
  | .seek => false
  | .write | .syncJournal | .syncCheckpoint => true

structure StoreIoEvidence where
  operation : JournalIoOperation
  kind : ErrorKind
  deriving DecidableEq, Repr

/-- The answer of a method that failed: a refusal of its checks, or what a step reported. -/
inductive JournalHandleError where
  | refused (error : ActiveJournalError)
  | io (evidence : StoreIoEvidence)
  | storagePressure (evidence : StoreIoEvidence)
  deriving DecidableEq

def classifyIo (operation : JournalIoOperation) (kind : ErrorKind) : JournalHandleError :=
  if operation.isMutating ∧ isStoragePressure kind then .storagePressure ⟨operation, kind⟩
  else .io ⟨operation, kind⟩

/-- What the file system does with the steps of one call. A write that fails leaves a part of its
bytes, of whatever length. -/
structure JournalIo where
  seek : Option ErrorKind
  write : Option (Nat × ErrorKind)
  syncJournal : Option ErrorKind
  syncCheckpoint : Option ErrorKind
  deriving DecidableEq

/-- Every step succeeds. -/
def JournalIo.succeeds : JournalIo := ⟨none, none, none, none⟩

/-- An open journal with what its two files hold. -/
structure JournalHandle where
  journal : ActiveJournal
  syncCount : U64
  journalFile : Bytes
  checkpointFile : Bytes
  deriving DecidableEq

/-- A file with some of its bytes written over. -/
def overwrite (file : Bytes) (offset : Nat) (bytes : Bytes) : Bytes :=
  file.take offset ++ (bytes ++ file.drop (offset + bytes.length))

/-- What an append checks before its first step. -/
def ActiveJournal.prepareAppend (journal : ActiveJournal) (frame : PreparedFrameV1) :
    Except ActiveJournalError (U64 × DecodedAdmissionV1) := do
  journal.ensureUsable
  let next ← journal.nextAppendSequence
  refuse (frame.appendSequence ≠ next) .sequenceMismatch
  let previous ← journal.previousSequence
  let decoded ← (decodeAdmissionFrameV1 frame.bytes journal.limits.decode previous).mapError
    ActiveJournalError.journal
  refuse (decoded.storeId ≠ journal.identity.storeId ∨
    decoded.declaration.storeId ≠ journal.identity.storeId ∨
    frame.admission.storeId ≠ journal.identity.storeId ∨
    frame.admission.declaration.storeId ≠ journal.identity.storeId) .storeMismatch
  let endOffset ← (match checkedAdd journal.activeBytes frame.bytes.length with
    | some endOffset => .ok endOffset
    | none => .error .rotationRequired : Except ActiveJournalError U64)
  refuse (journal.limits.activeBytes < endOffset.val ∨
    journal.limits.recordLimit ≤ journal.records.length) .rotationRequired
  pure (endOffset, decoded)

/-- What a synchronisation prepares before its first step: the next checkpoint, or none when the
journal is durable up to its end. -/
def ActiveJournal.prepareSync (journal : ActiveJournal) :
    Except ActiveJournalError (Option CheckpointState) := do
  journal.ensureUsable
  if journal.lastAppendSequence = journal.checkpointState.appendSequence ∧
      journal.activeBytes = journal.checkpointState.endOffset then pure none
  else do
    let next ← journal.pendingCheckpointState journal.lastAppendSequence
    pure (some next)

def ActiveJournal.pushed (journal : ActiveJournal) (endOffset : U64)
    (decoded : DecodedAdmissionV1) : ActiveJournal :=
  { journal with
    activeBytes := endOffset
    records := journal.records ++ [⟨endOffset, decoded⟩] }

def saturatingSucc (count : U64) : U64 := (checkedAdd count 1).getD count

namespace JournalHandle

variable (handle : JournalHandle)

/-- A handle whose bytes may have changed under a failure refuses every later mutation. -/
def recordMutationError (error : JournalHandleError) : JournalHandle :=
  { handle with
    journal := { handle.journal with
      writeState := match error with
        | .storagePressure _ => .reopenRequired
        | _ => .faulted } }

/-- A failing step in the mutating part of a call. -/
def failed {α : Type} (operation : JournalIoOperation) (kind : ErrorKind) :
    Except JournalHandleError α × JournalHandle :=
  let error := classifyIo operation kind
  (.error error, handle.recordMutationError error)

/-- `create_new`: the header in the journal, the first slot in the checkpoint. -/
def create (identity : JournalIdentity) (sequenceFloor : U64) (limits : ActiveJournalLimits) :
    JournalHandle :=
  let state := genesisCheckpointState sequenceFloor
  ⟨⟨identity, limits, state, Fin.ofNat _ journalV1HeaderLen, [], .writable⟩, 0,
    encodeHeader identity.storeId,
    writeCheckpointSlot (resize [] checkpointFileLen) identity state⟩

def append (frame : PreparedFrameV1) (io : JournalIo) :
    Except JournalHandleError U64 × JournalHandle :=
  match handle.journal.prepareAppend frame with
  | .error error => (.error (.refused error), handle)
  | .ok (endOffset, decoded) =>
    match io.seek with
    | some kind => (.error (classifyIo .seek kind), handle)
    | none =>
      match io.write with
      | some (written, kind) =>
        { handle with journalFile := handle.journalFile ++ frame.bytes.take written }.failed
          .write kind
      | none =>
        (.ok endOffset, { handle with
          journalFile := handle.journalFile ++ frame.bytes
          journal := handle.journal.pushed endOffset decoded })

def syncPending (io : JournalIo) : Except JournalHandleError DurableCutoff × JournalHandle :=
  match handle.journal.prepareSync with
  | .error error => (.error (.refused error), handle)
  | .ok none => (.ok handle.journal.durableCutoff, handle)
  | .ok (some next) =>
    let offset := checkpointSlotIndex next.slotGeneration * checkpointSlotLen
    let bytes := encodeCheckpoint handle.journal.identity next
    match io.syncJournal with
    | some kind => handle.failed .syncJournal kind
    | none =>
      match io.seek with
      | some kind => handle.failed .seek kind
      | none =>
        match io.write with
        | some (written, kind) =>
          { handle with
            checkpointFile := overwrite handle.checkpointFile offset (bytes.take written) }.failed
            .write kind
        | none =>
          let wrote := { handle with
            checkpointFile := overwrite handle.checkpointFile offset bytes }
          match io.syncCheckpoint with
          | some kind => wrote.failed .syncCheckpoint kind
          | none =>
            (.ok (durableCutoffFromState handle.journal.identity next), { wrote with
              journal := { handle.journal with checkpointState := next }
              syncCount := saturatingSucc handle.syncCount })

end JournalHandle

/-- The methods of an open journal. -/
inductive JournalCall where
  | append (frame : PreparedFrameV1)
  | syncPending
  | nextAppendSequence
  | canFit (frameLen : Nat)

inductive JournalAnswer where
  | appended (result : Except JournalHandleError U64)
  | synced (result : Except JournalHandleError DurableCutoff)
  | sequence (result : Except ActiveJournalError AppendSequenceV1)
  | fits (result : Bool)

def JournalHandle.call (handle : JournalHandle) (io : JournalIo) :
    JournalCall → JournalAnswer × JournalHandle
  | .append frame => (.appended (handle.append frame io).1, (handle.append frame io).2)
  | .syncPending => (.synced (handle.syncPending io).1, (handle.syncPending io).2)
  | .nextAppendSequence => (.sequence handle.journal.nextAppendSequence, handle)
  | .canFit frameLen => (.fits (handle.journal.canFit frameLen), handle)

section Refinement

variable {handle : JournalHandle} {d : StoreDirectory}

theorem length_encodeCheckpoint (identity : JournalIdentity) (state : CheckpointState) :
    (encodeCheckpoint identity state).length = checkpointSlotLen := by
  rw [encodeCheckpoint, length_withChecksum]
  simp [checkpointFields, checkpointMagic, identity.storeId.length_eq, checkpointSlotLen]

/-- A slot that is written whole. -/
theorem overwrite_checkpoint (file : Bytes) (identity : JournalIdentity)
    (state : CheckpointState) :
    overwrite file (checkpointSlotIndex state.slotGeneration * checkpointSlotLen)
      (encodeCheckpoint identity state) = writeCheckpointSlot file identity state := by
  rw [overwrite, writeCheckpointSlot, length_encodeCheckpoint]

theorem run_ensure_bind_then {α β δ : Type} {r : Except ActiveJournalError α}
    {g : α → Except ActiveJournalError δ} {k : α → JournalAction β} {rest : δ → JournalAction β}
    (h : ∀ x, r = .ok x → k x d = (ensure (g x) >>= rest) d) :
    (ensure r >>= k) d = (ensure (r >>= g) >>= rest) d := by
  cases r with
  | error e => rfl
  | ok x => exact h x rfl

/-- An append is its checks and then its write. -/
theorem append_eq (journal : ActiveJournal) (frame : PreparedFrameV1) :
    journal.append frame d = (do
      let (endOffset, decoded) ← ensure (journal.prepareAppend frame)
      let file ← look fun d => (readFile d (.activeJournal journal.identity.generation)).mapError
        ManifestRootOpenError.intoActive
      emit (.put (.activeJournal journal.identity.generation) (file ++ frame.bytes))
      pure (endOffset, journal.pushed endOffset decoded) : JournalAction _) d := by
  unfold ActiveJournal.append ActiveJournal.prepareAppend
  apply run_ensure_bind_then
  intro _ _
  apply run_ensure_bind_then
  intro next _
  apply run_ensure_bind_then
  intro _ _
  apply run_ensure_bind_then
  intro previous _
  apply run_ensure_bind_then
  intro decoded _
  apply run_ensure_bind_then
  intro _ _
  apply run_ensure_bind_then
  intro endOffset _
  apply run_ensure_bind_then
  intro _ _
  rfl

theorem syncPending_eq (journal : ActiveJournal) :
    journal.syncPending d = (do
      match ← ensure journal.prepareSync with
      | none => pure (journal.durableCutoff, journal)
      | some next =>
        let file ← look fun d => (readFile d
          (.activeCheckpoint journal.identity.generation)).mapError ManifestRootOpenError.intoActive
        emit (.put (.activeCheckpoint journal.identity.generation)
          (writeCheckpointSlot file journal.identity next))
        pure (durableCutoffFromState journal.identity next,
          { journal with checkpointState := next }) : JournalAction _) d := by
  unfold ActiveJournal.syncPending ActiveJournal.prepareSync
  apply run_ensure_bind_then
  intro _ _
  split
  next => rfl
  next =>
    apply run_ensure_bind_then
    intro next _
    rfl

/-- Where every step succeeds, an append of a handle is the append of its journal. -/
theorem append_refines
    (hfile : d.lookup (.activeJournal handle.journal.identity.generation) =
      some handle.journalFile) (frame : PreparedFrameV1) :
    (∀ endOffset after, handle.append frame .succeeds = (.ok endOffset, after) →
      handle.journal.append frame d = (.ok (endOffset, after.journal),
        [.put (.activeJournal handle.journal.identity.generation) after.journalFile])) ∧
    ∀ error, (handle.append frame .succeeds).1 = .error error →
      ∃ refusal, error = .refused refusal ∧
        handle.journal.append frame d = (.error refusal, []) := by
  rw [append_eq]
  unfold JournalHandle.append JournalIo.succeeds readFile
  cases handle.journal.prepareAppend frame with
  | error refusal =>
    refine ⟨?_, ?_⟩
    · intro endOffset after h
      cases h
    · intro error h
      cases h
      exact ⟨refusal, rfl, rfl⟩
  | ok prepared =>
    refine ⟨?_, ?_⟩
    · intro endOffset after h
      cases h
      rw [run_ensure_bind]
      dsimp only
      rw [run_look_bind, hfile]
      rfl
    · intro error h
      cases h

/-- So is a synchronisation. -/
theorem syncPending_refines
    (hfile : d.lookup (.activeCheckpoint handle.journal.identity.generation) =
      some handle.checkpointFile) :
    (∀ cutoff after, handle.syncPending .succeeds = (.ok cutoff, after) →
      ∃ effects, handle.journal.syncPending d = (.ok (cutoff, after.journal), effects) ∧
        (applyAll d effects).lookup (.activeCheckpoint handle.journal.identity.generation) =
          some after.checkpointFile) ∧
    ∀ error, (handle.syncPending .succeeds).1 = .error error →
      ∃ refusal, error = .refused refusal ∧
        handle.journal.syncPending d = (.error refusal, []) := by
  rw [syncPending_eq]
  unfold JournalHandle.syncPending JournalIo.succeeds readFile
  cases handle.journal.prepareSync with
  | error refusal =>
    refine ⟨?_, ?_⟩
    · intro cutoff after h
      cases h
    · intro error h
      cases h
      exact ⟨refusal, rfl, rfl⟩
  | ok found =>
    cases found with
    | none =>
      refine ⟨?_, ?_⟩
      · intro cutoff after h
        cases h
        exact ⟨[], rfl, hfile⟩
      · intro error h
        cases h
    | some next =>
      refine ⟨?_, ?_⟩
      · intro cutoff after h
        cases h
        refine ⟨[.put (.activeCheckpoint handle.journal.identity.generation)
          (writeCheckpointSlot handle.checkpointFile handle.journal.identity next)], ?_, ?_⟩
        · rw [run_ensure_bind]
          dsimp only
          rw [run_look_bind, hfile]
          rfl
        · rw [overwrite_checkpoint]
          exact Finmap.lookup_insert _
      · intro error h
        cases h

/-- A handle is created with the journal and the files that the creation of a generation leaves. -/
theorem create_refines {identity : JournalIdentity} {sequenceFloor : U64}
    {limits : ActiveJournalLimits}
    (hjournal : d.lookup (.activeJournal identity.generation) = none)
    (hcheckpoint : d.lookup (.activeCheckpoint identity.generation) = none) :
    ∃ effects, ActiveJournal.createNew identity sequenceFloor limits d =
        (.ok (JournalHandle.create identity sequenceFloor limits).journal, effects) ∧
      (applyAll d effects).lookup (.activeJournal identity.generation) =
        some (JournalHandle.create identity sequenceFloor limits).journalFile ∧
      (applyAll d effects).lookup (.activeCheckpoint identity.generation) =
        some (JournalHandle.create identity sequenceFloor limits).checkpointFile := by
  have hne : Artifact.activeCheckpoint identity.generation ≠
      Artifact.activeJournal identity.generation := by simp
  have hfirst : (Effect.apply d (.put (.activeJournal identity.generation)
      (encodeHeader identity.storeId))).lookup (.activeCheckpoint identity.generation) = none := by
    rw [lookup_put, if_neg hne]
    exact hcheckpoint
  refine ⟨[.put (.activeJournal identity.generation) (encodeHeader identity.storeId),
    .put (.activeCheckpoint identity.generation)
      (writeCheckpointSlot (resize [] checkpointFileLen) identity
        (genesisCheckpointState sequenceFloor))], ?_, ?_, ?_⟩
  · unfold ActiveJournal.createNew present
    rw [run_look_bind, hjournal]
    dsimp only [refuse]
    rw [if_neg (by simp)]
    dsimp only
    rw [run_emit_bind, run_look_bind, hfirst]
    rfl
  · rw [applyAll_cons, applyAll_cons, applyAll_nil, lookup_put, if_neg hne.symm, lookup_put,
      if_pos rfl]
    rfl
  · rw [applyAll_cons, applyAll_cons, applyAll_nil, lookup_put, if_pos rfl]
    rfl

end Refinement

end Historian
