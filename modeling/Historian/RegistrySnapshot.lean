import Historian.RegistryRun
import Historian.JournalFrame
import Historian.ManifestRecord

namespace Historian

open Wire Checks

def maxPersistedRegistrySeries : Nat := 4096
def maxPersistedRegistryRevisions : Nat := 16384
def registryMagic : Bytes := [0x4f, 0x43, 0x48, 0x52, 0x45, 0x47, 0x30, 0x31]
def registryVersion : Nat := 1
def registryHeaderLen : Nat := 64
def registryCrcLen : Nat := 4

structure DecodedRegistry where
  reference : RegistryReference
  registry : SeriesRegistry

def declarationMatches (declaration : SeriesDeclaration) (decoded : DecodedDeclarationV1) : Bool :=
  declaration.storeId = decoded.storeId ∧ declaration.seriesId = decoded.seriesId ∧
    declaration.revision = decoded.revision ∧
    declaration.previousRevision = decoded.previousRevision ∧
    declaration.binding = decoded.binding ∧ declaration.payload = decoded.payload ∧
    declaration.evidence = decoded.evidence

def validateSnapshotBounds (snapshot : SeriesRegistrySnapshot) :
    Except ManifestStoreError Unit :=
  refuse (maxPersistedRegistrySeries < snapshot.limits.maxSeries.val ∨
    maxPersistedRegistryRevisions < snapshot.limits.maxDeclarationRevisions.val ∨
    snapshot.limits.maxSeries.val < snapshot.series.length ∨
    snapshot.limits.maxDeclarationRevisions.val < snapshot.declarationRevisionCount)
    .invalidRegistry

def encodeHistory (history : SeriesHistory) : Enc Unit := do
  encodeSeriesId history.seriesId
  encodeCount history.declarations.length
  history.declarations.forM encodeDeclaration
  match history.retirement with
  | some retirement => do
    encodeU8 1
    encodeU128 retirement.declarationRevision.value
    encodeDeclarationEvidence retirement.evidence
  | none => encodeU8 0

def encodeRegistryPayload (snapshot : SeriesRegistrySnapshot) : Enc Unit :=
  snapshot.series.forM encodeHistory

def invalidRegistryJournal (_ : JournalV1Error) : ManifestStoreError := .invalidRegistry

def registryHeader (generation : U64) (snapshot : SeriesRegistrySnapshot) (payloadLen : Nat) :
    Bytes :=
  [registryMagic, toBE 2 registryVersion, toBE 2 registryHeaderLen, snapshot.storeId.bytes,
    toBE 8 generation, toBE 4 snapshot.limits.maxSeries,
    toBE 4 snapshot.limits.maxDeclarationRevisions, toBE 4 snapshot.series.length,
    toBE 4 snapshot.declarationRevisionCount, toBE 8 payloadLen, zeros 4].flatten

def encodeRegistrySnapshotWithLimit (generation : U64) (snapshot : SeriesRegistrySnapshot)
    (maximum : Nat) : Except ManifestStoreError Bytes := do
  validateSnapshotBounds snapshot
  refuse (generation = 0) .generationExhausted
  let (_, counter) ←
    (encodeRegistryPayload snapshot (.count 0)).mapError invalidRegistryJournal
  let payloadLen := counter.len
  let total := registryHeaderLen + payloadLen + registryCrcLen
  refuse (maximum < total ∨ maxRegistrySnapshotBytes < total) .invalidRegistry
  let payload ← (encodeBytes (encodeRegistryPayload snapshot)).mapError invalidRegistryJournal
  refuse (payload.length ≠ payloadLen) .invalidRegistry
  pure (withChecksum (registryHeader generation snapshot payloadLen ++ payload))

def encodeRegistrySnapshot (generation : U64) (snapshot : SeriesRegistrySnapshot) :
    Except ManifestStoreError Bytes :=
  encodeRegistrySnapshotWithLimit generation snapshot maxRegistrySnapshotBytes

/-- A declaration of a snapshot goes through the registry again: the first one registers the
series and each later one revises it. -/
def replayDeclaration (registry : SeriesRegistry) (seriesId : SeriesId) (initial : Bool)
    (binding : SeriesBinding) (previousRevision : Option DeclarationRevision)
    (payload : SeriesDeclarationPayload) (evidence : DeclarationEvidence) :
    Except ModelError (SeriesDeclaration × SeriesRegistry) :=
  if initial then registry.register seriesId binding payload evidence
  else
    match previousRevision with
    | some expected => registry.revise seriesId expected payload evidence
    | none => .error .staleDeclarationRevision

def decodeHistoryDeclarations (storeId : StoreId) (seriesId : SeriesId) :
    Nat → Bool → SeriesRegistry → Cursor SeriesRegistry
  | 0, _, registry => pure registry
  | count + 1, initial, registry => do
    let declaration ← decodeDeclaration
    fromExcept (refuse (declaration.storeId ≠ storeId ∨ declaration.seriesId ≠ seriesId)
      .invalidCanonicalData)
    let (actual, next) ← invalidModel (replayDeclaration registry seriesId initial
      declaration.binding declaration.previousRevision declaration.payload declaration.evidence)
    fromExcept (refuse (declarationMatches actual declaration = false) .invalidCanonicalData)
    decodeHistoryDeclarations storeId seriesId count false next

def decodeHistoryRetirement (seriesId : SeriesId) (registry : SeriesRegistry) :
    Cursor SeriesRegistry := do
  let retired ← Cursor.option
  if retired then do
    let revision ← decodeRevision
    let evidence ← decodeDeclarationEvidence
    let (_, next) ← invalidModel (registry.retire seriesId revision evidence)
    pure next
  else pure registry

/-- The series of a payload in the order of their identities, with the number of declarations
that all of them hold. -/
def decodeHistories (storeId : StoreId) (maxRevisions : Nat) :
    Nat → Option SeriesId → Nat → SeriesRegistry → Cursor (Nat × SeriesRegistry)
  | 0, _, decodedRevisions, registry => pure (decodedRevisions, registry)
  | count + 1, previousSeries, decodedRevisions, registry => do
    let seriesId ← decodeSeriesId
    fromExcept (refuse (∃ previous ∈ previousSeries, Identity.lt previous seriesId = false)
      .invalidCanonicalData)
    let declarationCount ← Cursor.u32
    fromExcept (refuse (declarationCount.val = 0 ∨
      maxRevisions - decodedRevisions < declarationCount.val) .invalidCanonicalData)
    let declared ← decodeHistoryDeclarations storeId seriesId declarationCount.val true registry
    let next ← decodeHistoryRetirement seriesId declared
    decodeHistories storeId maxRevisions count (some seriesId)
      (decodedRevisions + declarationCount.val) next

def decodeRegistrySnapshot (bytes : Bytes) : Except ManifestStoreError DecodedRegistry := do
  refuse (bytes.length < registryHeaderLen + registryCrcLen ∨
    maxRegistrySnapshotBytes < bytes.length ∨ slice bytes 0 8 ≠ registryMagic ∨
    u16At bytes 8 ≠ registryVersion ∨ u16At bytes 10 ≠ registryHeaderLen ∨
    slice bytes 60 4 ≠ zeros 4) .invalidRegistry
  let checksumOffset := bytes.length - registryCrcLen
  refuse (crc32c (slice bytes 0 checksumOffset) ≠ u32At bytes checksumOffset) .invalidRegistry
  let storeId ←
    (Identity.fromBytes (slice bytes 12 16)).mapError fun _ => ManifestStoreError.invalidRegistry
  let generation := u64At bytes 28
  let maxSeries := (u32At bytes 36).val
  let maxRevisions := (u32At bytes 40).val
  let seriesCount := (u32At bytes 44).val
  let revisionCount := (u32At bytes 48).val
  let payloadLen := (u64At bytes 52).val
  refuse (generation = 0 ∨ maxPersistedRegistrySeries < maxSeries ∨
    maxPersistedRegistryRevisions < maxRevisions ∨ maxSeries < seriesCount ∨
    maxRevisions < revisionCount ∨ registryHeaderLen + payloadLen ≠ checksumOffset)
    .invalidRegistry
  let limits : SeriesRegistryLimits := ⟨Fin.ofNat _ maxSeries, Fin.ofNat _ maxRevisions⟩
  let ((decodedRevisions, registry), rest) ←
    (decodeHistories storeId maxRevisions seriesCount none 0 (SeriesRegistry.new storeId limits)
      (slice bytes registryHeaderLen payloadLen)).mapError invalidRegistryJournal
  refuse (rest ≠ []) .invalidRegistry
  refuse (decodedRevisions ≠ revisionCount) .invalidRegistry
  let canonical ← encodeRegistrySnapshot generation registry.snapshot
  refuse (canonical ≠ bytes) .invalidRegistry
  -- the bytes do not name their slot: the caller puts in the one that they were read from
  pure ⟨⟨255, generation, Fin.ofNat _ bytes.length, crc32c bytes⟩, registry⟩

def decodeRegistrySnapshotAtSlot (bytes : Bytes) (slot : UInt8) :
    Except ManifestStoreError DecodedRegistry := do
  refuse (3 ≤ slot) .invalidRegistry
  let decoded ← decodeRegistrySnapshot bytes
  pure { decoded with reference := { decoded.reference with slot := slot } }

def restoreDeclarations (history : SeriesHistory) :
    Bool → SeriesRegistry → List SeriesDeclaration → Except ManifestStoreError SeriesRegistry
  | _, registry, [] => .ok registry
  | initial, registry, declaration :: rest => do
    let (actual, next) ← (replayDeclaration registry history.seriesId initial history.binding
      declaration.previousRevision declaration.payload declaration.evidence).mapError
        fun _ => ManifestStoreError.invalidRegistry
    refuse (actual ≠ declaration) .invalidRegistry
    restoreDeclarations history false next rest

def restoreRetirement (history : SeriesHistory) (registry : SeriesRegistry) :
    Except ManifestStoreError SeriesRegistry :=
  match history.retirement with
  | none => .ok registry
  | some retirement => do
    let (actual, next) ← (registry.retire history.seriesId retirement.declarationRevision
      retirement.evidence).mapError fun _ => ManifestStoreError.invalidRegistry
    refuse (actual ≠ retirement) .invalidRegistry
    pure next

def restoreHistories : SeriesRegistry → List SeriesHistory →
    Except ManifestStoreError SeriesRegistry
  | registry, [] => .ok registry
  | registry, history :: rest => do
    let declared ← restoreDeclarations history true registry history.declarations
    let next ← restoreRetirement history declared
    restoreHistories next rest

def restoreSnapshot (snapshot : SeriesRegistrySnapshot) :
    Except ManifestStoreError SeriesRegistry := do
  validateSnapshotBounds snapshot
  let registry ←
    restoreHistories (SeriesRegistry.new snapshot.storeId snapshot.limits) snapshot.series
  refuse (registry.snapshot ≠ snapshot) .invalidRegistry
  pure registry

end Historian
