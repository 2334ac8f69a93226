import Historian.JournalPrepared
import Historian.Artifact
import Historian.RecoveryState

namespace Historian

open Wire Checks Files

def maxActiveJournalRecords : Nat := 4096
def checkpointMagic : Bytes := [0x4f, 0x43, 0x48, 0x43, 0x50, 0x30, 0x30, 0x31]
def checkpointVersion : Nat := 1
def checkpointSlotLen : Nat := 64
def checkpointFileLen : Nat := 128

def encodeHeader (storeId : StoreId) : Bytes :=
  [journalV1HeaderMagic, toBE 2 journalV1Version, toBE 2 journalV1HeaderLen,
    storeId.bytes].flatten

def decodeHeader (bytes : Bytes) : Except JournalV1Error StoreId := do
  refuse (bytes.length < journalV1HeaderLen) .truncated
  refuse (journalV1HeaderLen < bytes.length) .trailingBytes
  refuse (slice bytes 0 8 ≠ journalV1HeaderMagic) .invalidHeaderMagic
  refuse (u16At bytes 8 ≠ journalV1Version) .unsupportedHeaderVersion
  refuse (u16At bytes 10 ≠ journalV1HeaderLen) .invalidHeaderLength
  (Identity.fromBytes (slice bytes 12 16)).mapError fun _ => JournalV1Error.invalidIdentity

def frameLenFromPrefixV1 (bytes : Bytes) (limits : DecodeLimitsV1) :
    Except JournalV1Error Nat := do
  refuse (bytes.length ≠ journalV1FramePrefixLen) .truncated
  refuse (slice bytes 0 4 ≠ journalV1FrameMagic) .invalidFrameMagic
  refuse (ofBE (slice bytes 4 2) ≠ journalV1Version) .unsupportedFrameVersion
  refuse (slice bytes 6 1 ≠ [frameKindAdmission]) .unsupportedFrameKind
  refuse (slice bytes 7 1 ≠ [frameFlagsNone]) .invalidFrameFlags
  let _ ← AppendSequenceV1.new (Fin.ofNat (2 ^ 64) (ofBE (slice bytes 8 8)))
  let payloadLen := ofBE (slice bytes 16 4)
  refuse (maxAdmissionPayloadV1 < payloadLen ∨ limits.maxPayloadLen < payloadLen) .payloadTooLarge
  pure (journalV1FramePrefixLen + payloadLen + journalV1FrameCrcLen)

structure ActiveJournalLimits where
  payloadLimit : Nat
  activeBytes : Nat
  recordLimit : Nat
  payload_le : payloadLimit ≤ maxAdmissionPayloadV1
  header_le : journalV1HeaderLen ≤ activeBytes
  bytes_le : activeBytes ≤ maxActiveJournalBytes
  records_le : recordLimit ≤ maxActiveJournalRecords

instance : DecidableEq ActiveJournalLimits := fun left right =>
  decidable_of_iff (left.payloadLimit = right.payloadLimit ∧
    left.activeBytes = right.activeBytes ∧ left.recordLimit = right.recordLimit)
    (by cases left; cases right; simp)

def ActiveJournalLimits.new (maxPayloadLen maxActiveBytes maxActiveRecords : Nat) :
    Except ActiveJournalError ActiveJournalLimits :=
  if h : maxPayloadLen ≤ maxAdmissionPayloadV1 ∧ journalV1HeaderLen ≤ maxActiveBytes ∧
      maxActiveBytes ≤ maxActiveJournalBytes ∧ maxActiveRecords ≤ maxActiveJournalRecords then
    .ok ⟨maxPayloadLen, maxActiveBytes, maxActiveRecords, h.1, h.2.1, h.2.2.1, h.2.2.2⟩
  else .error .invalidOptions

/-- The largest limits that the format has. -/
def sampleJournalLimits : ActiveJournalLimits :=
  ⟨maxAdmissionPayloadV1, maxActiveJournalBytes, maxActiveJournalRecords, by decide, by decide,
    by decide, by decide⟩

def ActiveJournalLimits.decode (limits : ActiveJournalLimits) : DecodeLimitsV1 :=
  ⟨limits.payloadLimit, limits.payload_le⟩

/-- One record of an active journal and the offset behind it. -/
structure RecoveredAdmissionV1 where
  endOffset : U64
  admission : DecodedAdmissionV1
  deriving DecidableEq

structure CheckpointState where
  slotGeneration : U64
  appendSequence : U64
  endOffset : U64
  deriving DecidableEq

structure ActiveJournal where
  identity : JournalIdentity
  limits : ActiveJournalLimits
  checkpointState : CheckpointState
  activeBytes : U64
  records : List RecoveredAdmissionV1
  writeState : StoreWriteState
  deriving DecidableEq

structure ActiveRecoveryPlan where
  identity : JournalIdentity
  cutoff : DurableCutoff
  originalLength : U64
  classification : RecoveryClassification
  deriving DecidableEq

inductive ManifestRootOpenError where
  | rootMismatch
  | active (error : ActiveJournalError)
  deriving DecidableEq

def ManifestRootOpenError.intoActive : ManifestRootOpenError → ActiveJournalError
  | .rootMismatch => .invalidLayout
  | .active error => error

inductive RecoveryPolicy where
  | converge | manifestGenesis | strict
  deriving DecidableEq, Repr

inductive ActiveJournalOpenMode where
  | createNew | openExisting
  deriving DecidableEq, Repr

def durableCutoffFromState (identity : JournalIdentity) (state : CheckpointState) :
    DurableCutoff :=
  ⟨identity, state.slotGeneration, state.appendSequence, state.endOffset⟩

/-- A new generation is durable up to its header, which holds no record. -/
def genesisCheckpointState (sequenceFloor : U64) : CheckpointState :=
  ⟨1, sequenceFloor, Fin.ofNat _ journalV1HeaderLen⟩

def checkpointFields (identity : JournalIdentity) (state : CheckpointState) : List Bytes :=
  [checkpointMagic, toBE 2 checkpointVersion, toBE 2 checkpointSlotLen, identity.storeId.bytes,
    toBE 8 identity.generation, toBE 8 state.slotGeneration, toBE 8 state.appendSequence,
    toBE 8 state.endOffset]

def encodeCheckpoint (identity : JournalIdentity) (state : CheckpointState) : Bytes :=
  withChecksum (checkpointFields identity state).flatten

/-- Odd generations of a checkpoint go to the first slot and even ones to the second. -/
def checkpointSlotIndex (slotGeneration : U64) : Nat := (slotGeneration.val - 1) % 2

/-- A checkpoint file with one of its slots written. -/
def writeCheckpointSlot (file : Bytes) (identity : JournalIdentity) (state : CheckpointState) :
    Bytes :=
  let offset := checkpointSlotIndex state.slotGeneration * checkpointSlotLen
  file.take offset ++ (encodeCheckpoint identity state ++ file.drop (offset + checkpointSlotLen))

inductive SlotDecode where
  | zero
  | valid (state : CheckpointState)
  | invalidNonzero
  deriving DecidableEq

def decodeCheckpointSlot (bytes : Bytes) (slotIndex : Nat) (identity : JournalIdentity)
    (sequenceFloor : U64) (journalLen : Nat) : SlotDecode :=
  if bytes = zeros bytes.length then .zero
  else if bytes.length ≠ checkpointSlotLen ∨ slice bytes 0 8 ≠ checkpointMagic ∨
      u16At bytes 8 ≠ checkpointVersion ∨ u16At bytes 10 ≠ checkpointSlotLen ∨
      crc32c (slice bytes 0 60) ≠ u32At bytes 60 then .invalidNonzero
  else
    let generation := u64At bytes 28
    let slotGeneration := u64At bytes 36
    let appendSequence := u64At bytes 44
    let endOffset := u64At bytes 52
    if (Identity.fromBytes (slice bytes 12 16)).toOption ≠ some identity.storeId ∨
        generation ≠ identity.generation ∨ slotGeneration = 0 ∨
        checkpointSlotIndex slotGeneration ≠ slotIndex ∨ endOffset.val < journalV1HeaderLen ∨
        journalLen < endOffset.val ∨
        ¬(appendSequence = sequenceFloor ↔ endOffset.val = journalV1HeaderLen) then
      .invalidNonzero
    else .valid ⟨slotGeneration, appendSequence, endOffset⟩

def readCheckpoint (file : Bytes) (identity : JournalIdentity) (sequenceFloor : U64)
    (journalLen : Nat) : Except ActiveJournalError (Option CheckpointState) :=
  match decodeCheckpointSlot (slice file 0 checkpointSlotLen) 0 identity sequenceFloor journalLen,
    decodeCheckpointSlot (slice file checkpointSlotLen checkpointSlotLen) 1 identity sequenceFloor
      journalLen with
  | .zero, .zero => .ok none
  | .invalidNonzero, _ => .error .invalidLayout
  | _, .invalidNonzero => .error .invalidLayout
  | .valid state, .zero => do
    refuse (state.slotGeneration ≠ 1) .invalidLayout
    pure (some state)
  | .zero, .valid state => do
    refuse (state.slotGeneration ≠ 1) .invalidLayout
    pure (some state)
  | .valid first, .valid second => do
    let (older, newer) :=
      if first.slotGeneration < second.slotGeneration then (first, second) else (second, first)
    refuse (newer.slotGeneration.val ≠ older.slotGeneration.val + 1 ∨
      newer.appendSequence ≤ older.appendSequence ∨ newer.endOffset ≤ older.endOffset)
      .invalidLayout
    pure (some newer)

/-- The sequence in front of the first record of a generation. -/
def floorSequence (sequenceFloor : U64) : Option AppendSequenceV1 :=
  if h : 0 < sequenceFloor.val then some ⟨sequenceFloor, h⟩ else none

structure ScanResult where
  records : List RecoveredAdmissionV1
  validEnd : U64
  truncateTo : Option U64
  recoveryPlan : Option ActiveRecoveryPlan
  deriving DecidableEq

/-- The loop of `scanJournal` from `offset` on, where the file continues with `rest`. Every
round consumes a frame, so a fuel of the file's length is never used up. -/
def scanFrames (identity : JournalIdentity) (limits : ActiveJournalLimits)
    (checkpoint : CheckpointState) :
    Nat → Nat → U64 → Option AppendSequenceV1 → Bytes → Except ActiveJournalError ScanResult
  | 0, _, offset, _, rest =>
    if rest = [] then .ok ⟨[], offset, none, none⟩ else .error .invalidLayout
  | fuel + 1, count, offset, previous, rest =>
    if rest = [] then .ok ⟨[], offset, none, none⟩
    else do
      refuse (limits.recordLimit ≤ count) .invalidLayout
      if rest.length < journalV1FramePrefixLen then do
        refuse (offset < checkpoint.endOffset) .invalidLayout
        pure ⟨[], offset, some offset, none⟩
      else
        match frameLenFromPrefixV1 (slice rest 0 journalV1FramePrefixLen) limits.decode with
        | .error _ =>
          if checkpoint.endOffset ≤ offset ∧ rest.length = journalV1FramePrefixLen then
            .ok ⟨[], offset, some offset, none⟩
          else .error .invalidLayout
        | .ok frameLen =>
          match checkedAdd offset frameLen with
          | none => .error .invalidLayout
          | some frameEnd =>
            if rest.length < frameLen then do
              refuse (offset < checkpoint.endOffset) .invalidLayout
              pure ⟨[], offset, some offset, none⟩
            else do
              refuse (offset < checkpoint.endOffset ∧ checkpoint.endOffset < frameEnd)
                .invalidLayout
              match decodeAdmissionFrameV1 (slice rest 0 frameLen) limits.decode previous with
              | .error _ =>
                if checkpoint.endOffset ≤ offset ∧ rest.length = frameLen then
                  .ok ⟨[], offset, some offset, none⟩
                else .error .invalidLayout
              | .ok decoded => do
                refuse (decoded.storeId ≠ identity.storeId ∨
                  decoded.declaration.storeId ≠ identity.storeId) .storeMismatch
                let sequence ←
                  (AppendSequenceV1.new decoded.appendSequence).mapError ActiveJournalError.journal
                let scanned ← scanFrames identity limits checkpoint fuel (count + 1) frameEnd
                  (some sequence) (rest.drop frameLen)
                pure { scanned with records := ⟨frameEnd, decoded⟩ :: scanned.records }

def scanJournal (file : Bytes) (identity : JournalIdentity) (limits : ActiveJournalLimits)
    (checkpoint : CheckpointState) (sequenceFloor : U64) :
    Except ActiveJournalError ScanResult := do
  let scanned ← scanFrames identity limits checkpoint file.length 0
    (Fin.ofNat _ journalV1HeaderLen) (floorSequence sequenceFloor) (file.drop journalV1HeaderLen)
  refuse (scanned.validEnd < checkpoint.endOffset ∨
    (checkpoint.endOffset.val = journalV1HeaderLen ∧
      checkpoint.appendSequence ≠ sequenceFloor)) .invalidLayout
  let prefixSequence :=
    match scanned.records.find? (fun record => record.endOffset = checkpoint.endOffset) with
    | some record => record.admission.appendSequence
    | none => sequenceFloor
  refuse (checkpoint.appendSequence ≠ prefixSequence) .invalidLayout
  pure scanned

/-- The records up to a root, and where the scan stands behind them. -/
structure RootScan where
  records : List RecoveredAdmissionV1
  offset : U64
  previous : Option AppendSequenceV1
  rest : Bytes

/-- The loop of `scanManifestRoot`: only the bytes up to the root's end are read as frames. -/
def scanRootFrames (identity : JournalIdentity) (limits : ActiveJournalLimits)
    (root : DurableCutoff) :
    Nat → Nat → U64 → Option AppendSequenceV1 → Bytes → Except ActiveJournalError RootScan
  | 0, _, offset, previous, rest =>
    if root.endOffset ≤ offset then .ok ⟨[], offset, previous, rest⟩ else .error .invalidLayout
  | fuel + 1, count, offset, previous, rest =>
    if root.endOffset ≤ offset then .ok ⟨[], offset, previous, rest⟩
    else do
      refuse (limits.recordLimit ≤ count ∨
        root.endOffset.val - offset.val < journalV1FramePrefixLen) .invalidLayout
      refuse (rest.length < journalV1FramePrefixLen) (.io .read .unexpectedEof)
      let frameLen ← (frameLenFromPrefixV1 (slice rest 0 journalV1FramePrefixLen)
        limits.decode).mapError fun _ => ActiveJournalError.invalidLayout
      match checkedAdd offset frameLen with
      | none => .error .invalidLayout
      | some frameEnd => do
        refuse (root.endOffset < frameEnd) .invalidLayout
        refuse (rest.length < frameLen) (.io .read .unexpectedEof)
        let decoded ← (decodeAdmissionFrameV1 (slice rest 0 frameLen) limits.decode
          previous).mapError fun _ => ActiveJournalError.invalidLayout
        refuse (decoded.storeId ≠ identity.storeId ∨
          decoded.declaration.storeId ≠ identity.storeId) .storeMismatch
        let sequence ←
          (AppendSequenceV1.new decoded.appendSequence).mapError ActiveJournalError.journal
        let scanned ← scanRootFrames identity limits root fuel (count + 1) frameEnd
          (some sequence) (rest.drop frameLen)
        pure { scanned with records := ⟨frameEnd, decoded⟩ :: scanned.records }

/-- What the first sixteen bytes of the next frame have to be. -/
def requiredPrefix (expectedSequence : U64) : Bytes :=
  [journalV1FrameMagic, toBE 2 journalV1Version, [1], [0], toBE 8 expectedSequence].flatten

/-- The bytes behind the root are removed only when they are the torn start of the next frame or
a frame that is complete and invalid. -/
def classifySuffix (identity : JournalIdentity) (limits : ActiveJournalLimits)
    (expectedSequence : U64) (previous : Option AppendSequenceV1) (suffix : Bytes) :
    Except ActiveJournalError RecoveryClassification :=
  if suffix.length < journalV1FramePrefixLen then do
    refuse (suffix.take (requiredPrefix expectedSequence).length ≠
      (requiredPrefix expectedSequence).take suffix.length) .invalidLayout
    pure .shortFramePrefix
  else do
    let framePrefix := slice suffix 0 journalV1FramePrefixLen
    refuse (u64At framePrefix 8 ≠ expectedSequence) .sequenceMismatch
    match frameLenFromPrefixV1 framePrefix limits.decode with
    | .error _ => do
      refuse (suffix.length ≠ journalV1FramePrefixLen) .invalidLayout
      pure .invalidFramePrefix
    | .ok frameLen =>
      -- the file is within the limits, so the end of this frame is a 64-bit offset
      if suffix.length < frameLen then .ok .truncatedDeclaredFrame
      else if frameLen < suffix.length then .error .invalidLayout
      else
        match decodeAdmissionFrameV1 (slice suffix 0 frameLen) limits.decode previous with
        | .ok decoded =>
          if decoded.storeId ≠ identity.storeId ∨ decoded.declaration.storeId ≠ identity.storeId
          then .error .storeMismatch
          else .error .invalidLayout
        | .error _ => .ok .invalidCompleteFrame

def lastSequence (sequenceFloor : U64) (records : List RecoveredAdmissionV1) : U64 :=
  match records.getLast? with
  | some record => record.admission.appendSequence
  | none => sequenceFloor

def scanManifestRoot (file : Bytes) (identity : JournalIdentity) (limits : ActiveJournalLimits)
    (checkpoint : CheckpointState) (sequenceFloor : U64) (root : DurableCutoff) :
    Except ActiveJournalError ScanResult := do
  let scanned ← scanRootFrames identity limits root file.length 0
    (Fin.ofNat _ journalV1HeaderLen) (floorSequence sequenceFloor) (file.drop journalV1HeaderLen)
  let prefixSequence := lastSequence sequenceFloor scanned.records
  refuse (scanned.offset ≠ root.endOffset ∨ checkpoint.appendSequence ≠ prefixSequence ∨
    root.appendSequence ≠ prefixSequence ∨
    root.checkpointGeneration ≠ checkpoint.slotGeneration ∨
    file.length < root.endOffset.val) .invalidLayout
  if scanned.rest = [] then .ok ⟨scanned.records, scanned.offset, none, none⟩
  else
    match checkedAdd prefixSequence 1 with
    | none => .error .invalidLayout
    | some expectedSequence => do
      let classification ←
        classifySuffix identity limits expectedSequence scanned.previous scanned.rest
      pure ⟨scanned.records, scanned.offset, none,
        some ⟨identity, root, Fin.ofNat _ file.length, classification⟩⟩

end Historian
