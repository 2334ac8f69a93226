import Historian.ActiveJournal

namespace Historian

open Wire Checks Files

abbrev RootAction := Action Artifact Bytes ManifestRootOpenError

structure ActiveJournalConfig where
  storeId : StoreId
  mode : ActiveJournalOpenMode
  limits : ActiveJournalLimits
  recoveryPolicy : RecoveryPolicy
  generation : U64
  sequenceFloor : U64

/-- The configuration for the first generation; the directory's path is part of no check here. -/
def ActiveJournalConfig.new (storeId : StoreId) (mode : ActiveJournalOpenMode)
    (limits : ActiveJournalLimits) : ActiveJournalConfig :=
  ⟨storeId, mode, limits, .converge, 1, 0⟩

def ActiveJournalConfig.manifestCreate (config : ActiveJournalConfig) : ActiveJournalConfig :=
  { config with recoveryPolicy := .strict }

def ActiveJournalConfig.manifestGenesis (config : ActiveJournalConfig) : ActiveJournalConfig :=
  { config with recoveryPolicy := .manifestGenesis }

def ActiveJournalConfig.manifestExisting (config : ActiveJournalConfig) : ActiveJournalConfig :=
  { config with recoveryPolicy := .strict }

def ActiveJournalConfig.manifestGeneration (config : ActiveJournalConfig)
    (generation sequenceFloor : U64) : Except ActiveJournalError ActiveJournalConfig := do
  refuse (generation = 0 ∨ (generation.val = activeJournalGeneration ∧ sequenceFloor ≠ 0))
    .invalidOptions
  pure { config with generation := generation, sequenceFloor := sequenceFloor }

def readFile (d : StoreDirectory) (name : Artifact) : Except ManifestRootOpenError Bytes :=
  match d.lookup name with
  | some bytes => .ok bytes
  | none => .error (.active .missingArtifact)

/-- A file that is given exactly `len` bytes: cut off, or filled up with zeros. -/
def resize (bytes : Bytes) (len : Nat) : Bytes := bytes.take len ++ zeros (len - bytes.length)

def initializeCheckpoint (identity : JournalIdentity) (sequenceFloor : U64) (existing : Bytes) :
    RootAction CheckpointState := do
  let state := genesisCheckpointState sequenceFloor
  emit (.put (.activeCheckpoint identity.generation)
    (writeCheckpointSlot (resize existing checkpointFileLen) identity state))
  pure state

/-- The state in the checkpoint file, or the one that it was initialised to. A missing or empty
file is initialised only where the policy allows it and the journal holds no record. -/
def openCheckpoint (identity : JournalIdentity) (sequenceFloor : U64) (policy : RecoveryPolicy)
    (journalLen : Nat) : RootAction (Option CheckpointState × Bytes) := do
  let found ← look fun d => .ok (d.lookup (.activeCheckpoint identity.generation))
  match found with
  | none =>
    if policy ≠ .strict ∧ journalLen = journalV1HeaderLen then do
      let state ← initializeCheckpoint identity sequenceFloor []
      pure (some state, [])
    else ensure (.error (.active .missingArtifact))
  | some file =>
    if file.length = 0 ∧ policy ≠ .strict ∧ journalLen = journalV1HeaderLen then do
      let state ← initializeCheckpoint identity sequenceFloor file
      pure (some state, file)
    else do
      ensure (refuse (file.length ≠ checkpointFileLen) (.active .invalidLayout))
      let state ← ensure ((readCheckpoint file identity sequenceFloor journalLen).mapError .active)
      pure (state, file)

def ActiveJournal.openExisting (identity : JournalIdentity) (sequenceFloor : U64)
    (limits : ActiveJournalLimits) (policy : RecoveryPolicy)
    (expectedRoot : Option DurableCutoff) :
    RootAction (ActiveJournal × Option ActiveRecoveryPlan) := do
  let journal ← look fun d => readFile d (.activeJournal identity.generation)
  ensure (refuse (journal.length < journalV1HeaderLen ∨ limits.activeBytes < journal.length)
    (.active .invalidLayout))
  ensure (refuse (policy = .manifestGenesis ∧ journal.length ≠ journalV1HeaderLen)
    (.active .invalidLayout))
  let headerStore ← ensure ((decodeHeader (slice journal 0 journalV1HeaderLen)).mapError
    fun error => ManifestRootOpenError.active (.journal error))
  ensure (refuse (headerStore ≠ identity.storeId) (.active .storeMismatch))
  let (found, file) ← openCheckpoint identity sequenceFloor policy journal.length
  ensure (refuse (policy = .manifestGenesis ∧ found ≠ some (genesisCheckpointState sequenceFloor))
    (.active .invalidLayout))
  ensure (refuse (found = none ∧ (expectedRoot ≠ none ∨ journal.length ≠ journalV1HeaderLen))
    (.active .invalidLayout))
  let state ← match found with
    | some state => pure state
    | none => initializeCheckpoint identity sequenceFloor file
  ensure (refuse (∃ root ∈ expectedRoot, root ≠ durableCutoffFromState identity state)
    .rootMismatch)
  let scan ← ensure ((match expectedRoot with
    | some root => scanManifestRoot journal identity limits state sequenceFloor root
    | none => scanJournal journal identity limits state sequenceFloor).mapError .active)
  ensure (refuse (policy = .strict ∧
    (scan.truncateTo ≠ none ∨ scan.validEnd ≠ state.endOffset)) (.active .invalidLayout))
  let adopted ← (if expectedRoot = none ∧ state.endOffset < scan.validEnd then do
      let slotGeneration ← ensure (match checkedAdd state.slotGeneration 1 with
        | some next => .ok next
        | none => .error (.active .invalidLayout))
      pure (some ⟨slotGeneration, lastSequence sequenceFloor scan.records, scan.validEnd⟩)
    else pure none : RootAction (Option CheckpointState))
  match expectedRoot, scan.truncateTo with
  | none, some truncateTo =>
    emit (.put (.activeJournal identity.generation) (journal.take truncateTo.val))
  | _, _ => pure ()
  match adopted with
  | some next => do
    let file ← look fun d => readFile d (.activeCheckpoint identity.generation)
    emit (.put (.activeCheckpoint identity.generation) (writeCheckpointSlot file identity next))
  | none => pure ()
  pure (⟨identity, limits, adopted.getD state, scan.validEnd, scan.records, .writable⟩,
    scan.recoveryPlan)

def ActiveJournal.createNew (identity : JournalIdentity) (sequenceFloor : U64)
    (limits : ActiveJournalLimits) : JournalAction ActiveJournal := do
  let state := genesisCheckpointState sequenceFloor
  look fun d => refuse (present d (.activeJournal identity.generation) = true) .alreadyExists
  emit (.put (.activeJournal identity.generation) (encodeHeader identity.storeId))
  look fun d => refuse (present d (.activeCheckpoint identity.generation) = true) .alreadyExists
  emit (.put (.activeCheckpoint identity.generation)
    (writeCheckpointSlot (resize [] checkpointFileLen) identity state))
  pure ⟨identity, limits, state, Fin.ofNat _ journalV1HeaderLen, [], .writable⟩

def ActiveJournal.open (config : ActiveJournalConfig) : JournalAction ActiveJournal :=
  let identity : JournalIdentity := ⟨config.storeId, config.generation⟩
  match config.mode with
  | .createNew => ActiveJournal.createNew identity config.sequenceFloor config.limits
  | .openExisting => do
    let (journal, _) ← (ActiveJournal.openExisting identity config.sequenceFloor config.limits
      config.recoveryPolicy none).mapError ManifestRootOpenError.intoActive
    pure journal

def ActiveJournal.openManifestRoot (config : ActiveJournalConfig) (root : DurableCutoff) :
    RootAction (ActiveJournal × Option ActiveRecoveryPlan) := do
  ensure (refuse (config.mode ≠ .openExisting ∨ config.recoveryPolicy ≠ .strict ∨
    root.journal.storeId ≠ config.storeId ∨ root.journal.generation ≠ config.generation)
    (.active .invalidOptions))
  ActiveJournal.openExisting ⟨config.storeId, config.generation⟩ config.sequenceFloor
    config.limits config.recoveryPolicy (some root)

/-- Whether the files of a store without a manifest are those of a new first generation. -/
def preflightManifestGenesis (d : StoreDirectory) (storeId : StoreId) :
    Except ActiveJournalError Unit :=
  match d.lookup (.activeJournal 1) with
  | none => .error .missingArtifact
  | some journal => do
    refuse (journal.length ≠ journalV1HeaderLen) .invalidLayout
    let found ← (decodeHeader journal).mapError ActiveJournalError.journal
    refuse (found ≠ storeId) .storeMismatch
    match d.lookup (.activeCheckpoint 1) with
    | none => .ok ()
    | some checkpoint =>
      if checkpoint.length = 0 then .ok ()
      else do
        refuse (checkpoint.length ≠ checkpointFileLen) .invalidLayout
        refuse (slice checkpoint 0 checkpointSlotLen ≠
            encodeCheckpoint ⟨storeId, 1⟩ (genesisCheckpointState 0) ∨
          slice checkpoint checkpointSlotLen checkpointSlotLen ≠ zeros checkpointSlotLen)
          .invalidLayout

namespace ActiveJournal

variable (journal : ActiveJournal)

def ensureUsable : Except ActiveJournalError Unit :=
  match journal.writeState with
  | .writable => .ok ()
  | .reopenRequired => .error .reopenRequired
  | .faulted => .error .faulted

def durableCutoff : DurableCutoff := durableCutoffFromState journal.identity journal.checkpointState

def lastAppendSequence : U64 := lastSequence journal.checkpointState.appendSequence journal.records

def nextAppendSequence : Except ActiveJournalError AppendSequenceV1 := do
  journal.ensureUsable
  match checkedAdd journal.lastAppendSequence 1 with
  | none => .error .sequenceMismatch
  | some next => (AppendSequenceV1.new next).mapError ActiveJournalError.journal

def canFit (frameLen : Nat) : Bool :=
  journal.records.length < journal.limits.recordLimit ∧
    journal.activeBytes.val + frameLen ≤ journal.limits.activeBytes

/-- The sequence of the last record. Without a record there is none, whatever the floor. -/
def previousSequence : Except ActiveJournalError (Option AppendSequenceV1) :=
  match journal.records.getLast? with
  | none => .ok none
  | some record => do
    let sequence ←
      (AppendSequenceV1.new record.admission.appendSequence).mapError ActiveJournalError.journal
    pure (some sequence)

def append (frame : PreparedFrameV1) : JournalAction (U64 × ActiveJournal) := do
  ensure journal.ensureUsable
  let next ← ensure journal.nextAppendSequence
  ensure (refuse (frame.appendSequence ≠ next) .sequenceMismatch)
  let previous ← ensure journal.previousSequence
  let decoded ← ensure ((decodeAdmissionFrameV1 frame.bytes journal.limits.decode
    previous).mapError ActiveJournalError.journal)
  ensure (refuse (decoded.storeId ≠ journal.identity.storeId ∨
    decoded.declaration.storeId ≠ journal.identity.storeId ∨
    frame.admission.storeId ≠ journal.identity.storeId ∨
    frame.admission.declaration.storeId ≠ journal.identity.storeId) .storeMismatch)
  let endOffset ← ensure (match checkedAdd journal.activeBytes frame.bytes.length with
    | some endOffset => .ok endOffset
    | none => .error .rotationRequired)
  ensure (refuse (journal.limits.activeBytes < endOffset.val ∨
    journal.limits.recordLimit ≤ journal.records.length) .rotationRequired)
  let file ← look fun d => (readFile d (.activeJournal journal.identity.generation)).mapError
    ManifestRootOpenError.intoActive
  emit (.put (.activeJournal journal.identity.generation) (file ++ frame.bytes))
  pure (endOffset, { journal with
    activeBytes := endOffset
    records := journal.records ++ [⟨endOffset, decoded⟩] })

def pendingCheckpointState (lastSequence : U64) : Except ActiveJournalError CheckpointState :=
  match checkedAdd journal.checkpointState.slotGeneration 1 with
  | none => .error .invalidLayout
  | some slotGeneration => .ok ⟨slotGeneration, lastSequence, journal.activeBytes⟩

def pendingDurableCutoff : Except ActiveJournalError DurableCutoff := do
  journal.ensureUsable
  if journal.lastAppendSequence = journal.checkpointState.appendSequence ∧
      journal.activeBytes = journal.checkpointState.endOffset then pure journal.durableCutoff
  else do
    let next ← journal.pendingCheckpointState journal.lastAppendSequence
    pure (durableCutoffFromState journal.identity next)

def syncPending : JournalAction (DurableCutoff × ActiveJournal) := do
  ensure journal.ensureUsable
  if journal.lastAppendSequence = journal.checkpointState.appendSequence ∧
      journal.activeBytes = journal.checkpointState.endOffset then
    pure (journal.durableCutoff, journal)
  else do
    let next ← ensure (journal.pendingCheckpointState journal.lastAppendSequence)
    let file ← look fun d => (readFile d (.activeCheckpoint journal.identity.generation)).mapError
      ManifestRootOpenError.intoActive
    emit (.put (.activeCheckpoint journal.identity.generation)
      (writeCheckpointSlot file journal.identity next))
    pure (durableCutoffFromState journal.identity next, { journal with checkpointState := next })

def applyRecovery (plan : ActiveRecoveryPlan) : JournalAction Unit := do
  ensure journal.ensureUsable
  let file ← look fun d => (readFile d (.activeJournal journal.identity.generation)).mapError
    ManifestRootOpenError.intoActive
  ensure (refuse (plan.identity ≠ journal.identity ∨ plan.cutoff ≠ journal.durableCutoff ∨
    plan.originalLength.val ≠ file.length ∨ journal.activeBytes ≠ plan.cutoff.endOffset ∨
    plan.originalLength ≤ journal.activeBytes) .invalidLayout)
  emit (.put (.activeJournal journal.identity.generation) (file.take journal.activeBytes.val))

def synchronizeRecoveryCutoff (cutoff : DurableCutoff) : JournalAction Unit := do
  ensure journal.ensureUsable
  let file ← look fun d => (readFile d (.activeJournal journal.identity.generation)).mapError
    ManifestRootOpenError.intoActive
  ensure (refuse (cutoff ≠ journal.durableCutoff ∨ journal.activeBytes ≠ cutoff.endOffset ∨
    file.length ≠ cutoff.endOffset.val) .invalidLayout)

end ActiveJournal

end Historian
