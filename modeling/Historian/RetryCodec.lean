import Historian.RetryTransition
import Historian.JournalFrame
import Historian.ManifestRecord

namespace Historian

open Wire Checks

def retryMagic : Bytes := [0x4f, 0x43, 0x48, 0x52, 0x45, 0x54, 0x30, 0x31]
def retryVersion : Nat := 1
def retryHeaderLen : Nat := 64
def retryCrcLen : Nat := 4

def encodeCommitCatalog : Option GenerationCatalogReference → Enc Unit
  | some catalog => do
    encodeU8 1
    encodeU8 catalog.slot
    put (zeros 6)
    encodeU64 catalog.generation
    encodeU64 catalog.length
    encodeU32 catalog.checksum
    put (zeros 12)
  | none => put (zeros 40)

def encodeReplayOutcome (outcome : RetryReplayOutcome) : Enc Unit := do
  encodeRetry outcome.qualification
  encodeU64 outcome.appendSequence
  encodeU64 outcome.endOffset
  let commit := outcome.committed
  encodeU64 commit.manifestGeneration
  encodeU8 commit.registrySlot
  put (zeros 7)
  encodeU64 commit.registryGeneration
  let cutoff := commit.durableCutoff
  encodeU64 cutoff.journal.generation
  encodeU64 cutoff.checkpointGeneration
  encodeU64 cutoff.appendSequence
  encodeU64 cutoff.endOffset
  encodeU8 commit.retryState.slot
  put (zeros 7)
  encodeU64 commit.retryState.generation
  encodeU64 commit.sequenceFloor
  encodeCommitCatalog commit.catalog

def encodeGuardEntry (entry : RetryGuardEntry) : Enc Unit := do
  encodeRetry entry.qualification
  encodeU64 entry.appendSequence

def encodeRetryPayload (snapshot : RetryStateSnapshot) : Enc Unit := do
  snapshot.replay.forM encodeReplayOutcome
  snapshot.guard.forM encodeGuardEntry

def invalidJournal (_ : JournalV1Error) : RetryStateCodecError := .invalid

/-- The header of a retry file: its generation, the capacities and counts of both tiers and the
length of the payload. -/
def retryHeader (snapshot : RetryStateSnapshot) (generation : U64) (payloadLen : Nat) : Bytes :=
  [retryMagic, toBE 2 retryVersion, toBE 2 retryHeaderLen, snapshot.storeId.bytes,
    toBE 8 generation, toBE 4 snapshot.options.replayCapacity,
    toBE 4 snapshot.options.guardCapacity, toBE 4 snapshot.replay.length,
    toBE 4 snapshot.guard.length, toBE 8 payloadLen, zeros 4].flatten

def encodeRetryStateWithLimit (snapshot : RetryStateSnapshot) (maximum : Nat) :
    Except RetryStateCodecError Bytes := do
  validateState snapshot
  match snapshot.reference with
  | none => .error .invalid
  | some reference => do
    let (_, counter) ← (encodeRetryPayload snapshot (.count 0)).mapError invalidJournal
    let payloadLen := counter.len
    let total := retryHeaderLen + payloadLen + retryCrcLen
    refuse (maximum < total ∨ maxRetryStateBytes < total) .invalid
    let payload ← (encodeBytes (encodeRetryPayload snapshot)).mapError invalidJournal
    refuse (payload.length ≠ payloadLen) .invalid
    pure (withChecksum (retryHeader snapshot reference.generation payloadLen ++ payload))

def encodeRetryState (snapshot : RetryStateSnapshot) : Except RetryStateCodecError Bytes :=
  encodeRetryStateWithLimit snapshot maxRetryStateBytes

/-- Bytes that are reserved and written as zero. -/
def decodeReserved (len : Nat) : Cursor Unit := do
  let bytes ← take .truncated len
  fromExcept (refuse (bytes ≠ zeros len) .invalidCanonicalData)

def commitCatalogOfFields (flag slot : UInt8) (generation length : U64) (checksum : U32) :
    Except JournalV1Error (Option GenerationCatalogReference) :=
  if flag = 0 ∧ slot = 0 ∧ generation = 0 ∧ length = 0 ∧ checksum = 0 then .ok none
  else if flag = 1 ∧ slot < 3 ∧ generation ≠ 0 ∧ length ≠ 0 then
    .ok (some ⟨slot, generation, length, checksum⟩)
  else .error .invalidCanonicalData

def decodeCommitCatalog : Cursor (Option GenerationCatalogReference) := do
  let flag ← Cursor.u8
  let slot ← Cursor.u8
  decodeReserved 6
  let generation ← Cursor.u64
  let length ← Cursor.u64
  let checksum ← Cursor.u32
  decodeReserved 12
  fromExcept (commitCatalogOfFields flag slot generation length checksum)

def decodeReplayOutcome (storeId : StoreId) : Cursor RetryReplayOutcome := do
  let qualification ← decodeRetry
  let appendSequence ← Cursor.u64
  let endOffset ← Cursor.u64
  let manifestGeneration ← Cursor.u64
  let registrySlot ← Cursor.u8
  decodeReserved 7
  let registryGeneration ← Cursor.u64
  let journalGeneration ← Cursor.u64
  let checkpointGeneration ← Cursor.u64
  let cutoffSequence ← Cursor.u64
  let cutoffEnd ← Cursor.u64
  let retrySlot ← Cursor.u8
  decodeReserved 7
  let retryGeneration ← Cursor.u64
  let sequenceFloor ← Cursor.u64
  let catalog ← decodeCommitCatalog
  pure ⟨qualification, appendSequence, endOffset, ⟨manifestGeneration, registryGeneration,
    registrySlot, ⟨⟨storeId, journalGeneration⟩, checkpointGeneration, cutoffSequence, cutoffEnd⟩,
    ⟨retrySlot, retryGeneration⟩, sequenceFloor, catalog⟩⟩

def decodeGuardEntry : Cursor RetryGuardEntry := do
  let qualification ← decodeRetry
  let appendSequence ← Cursor.u64
  pure ⟨qualification, appendSequence⟩

def decodeRetryStateAtSlot (bytes : Bytes) (slot : UInt8) (expectedStore : StoreId)
    (expectedOptions : RetryPersistenceOptions) :
    Except RetryStateCodecError (RetryArtifactReference × RetryStateSnapshot) := do
  refuse (3 ≤ slot ∨ bytes.length < retryHeaderLen + retryCrcLen ∨
    maxRetryStateBytes < bytes.length ∨ slice bytes 0 8 ≠ retryMagic ∨
    u16At bytes 10 ≠ retryHeaderLen ∨ slice bytes 60 4 ≠ zeros 4) .invalid
  refuse (u16At bytes 8 ≠ retryVersion) .invalid
  let checksumOffset := bytes.length - retryCrcLen
  refuse (crc32c (slice bytes 0 checksumOffset) ≠ u32At bytes checksumOffset) .invalid
  let storeId ←
    (Identity.fromBytes (slice bytes 12 16)).mapError fun _ => RetryStateCodecError.invalid
  refuse (storeId ≠ expectedStore) .storeMismatch
  let generation := u64At bytes 28
  match RetryPersistenceOptions.new (u32At bytes 36).val (u32At bytes 40).val with
  | none => .error .invalid
  | some options => do
    refuse (options ≠ expectedOptions) .optionsMismatch
    let replayCount := (u32At bytes 44).val
    let guardCount := (u32At bytes 48).val
    let payloadLen := (u64At bytes 52).val
    refuse (generation = 0 ∨ options.replayCapacity < replayCount ∨
      options.guardCapacity < guardCount ∨ maxPersistedRetryEntries < replayCount + guardCount ∨
      retryHeaderLen + payloadLen ≠ checksumOffset) .invalid
    let reference : RetryStateReference := ⟨slot, generation⟩
    let (replay, rest) ← (times (decodeReplayOutcome storeId) replayCount
      (slice bytes retryHeaderLen payloadLen)).mapError invalidJournal
    let (guard, rest) ← (times decodeGuardEntry guardCount rest).mapError invalidJournal
    refuse (rest ≠ []) .invalid
    let snapshot : RetryStateSnapshot := ⟨storeId, options, some reference, replay, guard⟩
    validateState snapshot
    let canonical ← encodeRetryState snapshot
    refuse (canonical ≠ bytes) .invalid
    pure (⟨reference, Fin.ofNat _ bytes.length, crc32c bytes⟩, snapshot)

/-- What an accepted retry file says of the snapshot and of the reference to it. -/
theorem decodeRetryStateAtSlot_sound {bytes : Bytes} {slot : UInt8} {storeId : StoreId}
    {options : RetryPersistenceOptions} {reference : RetryArtifactReference}
    {snapshot : RetryStateSnapshot}
    (h : decodeRetryStateAtSlot bytes slot storeId options = .ok (reference, snapshot)) :
    slot < 3 ∧ reference.state.slot = slot ∧ reference.state.generation ≠ 0 ∧
      reference.length = Fin.ofNat _ bytes.length ∧ reference.checksum = crc32c bytes ∧
      snapshot.storeId = storeId ∧ snapshot.options = options ∧
      snapshot.reference = some reference.state ∧ validateState snapshot = .ok () ∧
      bytes.length ≤ maxRetryStateBytes ∧ bytes ≠ [] ∧
      slice bytes 0 8 = retryMagic ∧ u16At bytes 8 = retryVersion ∧
      retryHeaderLen + retryCrcLen ≤ bytes.length := by
  unfold decodeRetryStateAtSlot at h
  simp only [bind_ok, exists_unit, refuse_ok, mapError_ok, not_or, not_not, Nat.not_lt,
    UInt8.not_le] at h
  obtain ⟨⟨hslot, hshort, hmax, hmagic, -, -⟩, hversion, -, store, -, rfl, h⟩ := h
  split at h
  next => cases h
  next found hoptions =>
    simp only [bind_ok, exists_unit, refuse_ok, mapError_ok, pure_ok, not_or, not_not,
      Prod.exists, Prod.mk.injEq] at h
    obtain ⟨rfl, ⟨hgeneration, -⟩, replay, rest, -, guard, rest', -, -, hstate, canonical, -, -,
      rfl, rfl⟩ := h
    refine ⟨hslot, rfl, hgeneration, rfl, rfl, rfl, rfl, rfl, hstate, hmax, ?_, hmagic, hversion,
      hshort⟩
    intro hnil
    simp [hnil, retryHeaderLen, retryCrcLen] at hshort

end Historian
