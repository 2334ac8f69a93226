import Historian.ActiveOpen
import Historian.GenerationCatalog
import Historian.RetryCodec
import Historian.RegistrySnapshot

namespace Historian

open Wire Checks Files

def storeFormatMagic : Bytes := [0x4f, 0x43, 0x48, 0x46, 0x4d, 0x54, 0x30, 0x31]
def storeFormatVersion : Nat := 1
def storeFormatLen : Nat := 32
def maxInventoryEntries : Nat := 91

structure RegistryPersistenceOptions where
  limits : SeriesRegistryLimits
  series_le : limits.maxSeries.val ≤ maxPersistedRegistrySeries
  revisions_le : limits.maxDeclarationRevisions.val ≤ maxPersistedRegistryRevisions

def RegistryPersistenceOptions.new (limits : SeriesRegistryLimits) :
    Except ManifestStoreError RegistryPersistenceOptions :=
  if h : limits.maxSeries.val ≤ maxPersistedRegistrySeries ∧
      limits.maxDeclarationRevisions.val ≤ maxPersistedRegistryRevisions then
    .ok ⟨limits, h.1, h.2⟩
  else .error .invalidOptions

structure ManifestStoreConfig where
  storeId : StoreId
  mode : ActiveJournalOpenMode
  journalLimits : ActiveJournalLimits
  registry : RegistryPersistenceOptions
  retry : RetryPersistenceOptions

def mapRetryCodec : RetryStateCodecError → ManifestStoreError
  | .invalid => .invalidRetry
  | .optionsMismatch => .invalidRetry
  | .storeMismatch => .storeMismatch

def mapRecoveryCodec : RecoveryCodecError → ManifestStoreError
  | .invalid => .invalidManifest
  | .storeMismatch => .storeMismatch

def mapGenerationCodec : GenerationCodecError → ManifestStoreError
  | .invalid => .invalidGeneration
  | .storeMismatch => .storeMismatch

/-- The two manifest slots as they were read. -/
structure ManifestSlots where
  first : Option ManifestRecord
  second : Option ManifestRecord
  deriving DecidableEq

namespace ManifestSlots

def get (slots : ManifestSlots) (slot : Fin 2) : Option ManifestRecord :=
  if slot = 0 then slots.first else slots.second

def set (slots : ManifestSlots) (slot : Fin 2) (record : ManifestRecord) : ManifestSlots :=
  if slot = 0 then { slots with first := some record } else { slots with second := some record }

/-- The manifests that are there, in the order of their slots. -/
def retained (slots : ManifestSlots) : List ManifestRecord :=
  slots.first.toList ++ slots.second.toList

/-- Both manifests in the order of their generations, when both are there. -/
def ordered (slots : ManifestSlots) : Option (ManifestRecord × ManifestRecord) :=
  match slots.first, slots.second with
  | some first, some second =>
    if second.generation < first.generation then some (second, first) else some (first, second)
  | _, _ => none

end ManifestSlots

def recoveryReferenceProgresses (older newer : Option RecoveryReference) : Bool :=
  match older, newer with
  | none, _ => true
  | some _, none => false
  | some older, some newer => older = newer ∨ older.slot ≠ newer.slot

def catalogReferenceProgresses (older newer : Option GenerationCatalogReference) : Bool :=
  match older, newer with
  | none, none => true
  | none, some newer => newer.generation = 1
  | some _, none => false
  | some older, some newer =>
    if older.generation = newer.generation then older = newer
    else older.generation.val + 1 = newer.generation.val ∧ older.slot ≠ newer.slot

def retryReferenceProgresses (older newer : RetryArtifactReference) : Bool :=
  if newer.state.generation = older.state.generation then newer = older
  else older.state.generation.val + 1 = newer.state.generation.val ∧
    newer.state.slot ≠ older.state.slot

def selectCurrentManifest (slots : ManifestSlots) :
    Except ManifestStoreError (Option (Fin 2 × ManifestRecord)) :=
  match slots.first, slots.second with
  | none, none => .ok none
  | some record, none => do
    refuse (record.generation ≠ 1) .invalidManifest
    pure (some (0, record))
  | none, some record => do
    refuse (record.generation ≠ 1) .invalidManifest
    pure (some (1, record))
  | some first, some second => do
    let (older, newerIndex, newer) : ManifestRecord × Fin 2 × ManifestRecord :=
      if first.generation < second.generation then (first, 1, second) else (second, 0, first)
    refuse (older.generation.val + 1 ≠ newer.generation.val ∨
      retryReferenceProgresses older.retry newer.retry = false ∨
      catalogReferenceProgresses older.catalog newer.catalog = false ∨
      recoveryReferenceProgresses older.recovery newer.recovery = false) .invalidManifest
    pure (some (newerIndex, newer))

def encodeStoreFormatMarker (storeId : StoreId) : Bytes :=
  withChecksum [storeFormatMagic, toBE 2 storeFormatVersion, toBE 2 storeFormatLen,
    storeId.bytes].flatten

def decodeStoreFormatMarker (bytes : Bytes) (expectedStore : StoreId) :
    Except ManifestStoreError Unit :=
  refuse (bytes.length ≠ storeFormatLen ∨ slice bytes 0 8 ≠ storeFormatMagic ∨
    u16At bytes 8 ≠ storeFormatVersion ∨ u16At bytes 10 ≠ storeFormatLen ∨
    crc32c (slice bytes 0 28) ≠ u32At bytes 28 ∨
    (Identity.fromBytes (slice bytes 12 16)).toOption ≠ some expectedStore)
    .unsupportedStoreFormat

def Artifact.journalGeneration? : Artifact → Option U64
  | .activeJournal generation => some generation
  | _ => none

def Artifact.checkpointGeneration? : Artifact → Option U64
  | .activeCheckpoint generation => some generation
  | _ => none

def Artifact.sealedGeneration? : Artifact → Option U64
  | .sealedJournal generation => some generation
  | _ => none

/-- Whether the inventory knows a name. -/
def Artifact.recognized : Artifact → Bool
  | .foreign _ => false
  | .registry slot => slot < 3
  | .retry slot => slot < 3
  | .recovery slot => slot < 3
  | .catalog slot => slot < 3
  | .sealedJournal generation => generation ≠ 0
  | .activeJournal generation => generation ≠ 0
  | .activeCheckpoint generation => generation ≠ 0
  | _ => true

theorem Artifact.journalGeneration?_inj (a b : Artifact) (g : U64)
    (ha : g ∈ a.journalGeneration?) (hb : g ∈ b.journalGeneration?) : a = b := by
  cases a <;> cases b <;> simp_all [Artifact.journalGeneration?]

theorem Artifact.checkpointGeneration?_inj (a b : Artifact) (g : U64)
    (ha : g ∈ a.checkpointGeneration?) (hb : g ∈ b.checkpointGeneration?) : a = b := by
  cases a <;> cases b <;> simp_all [Artifact.checkpointGeneration?]

theorem Artifact.sealedGeneration?_inj (a b : Artifact) (g : U64)
    (ha : g ∈ a.sealedGeneration?) (hb : g ∈ b.sealedGeneration?) : a = b := by
  cases a <;> cases b <;> simp_all [Artifact.sealedGeneration?]

/-- What a directory holds, by name. The generations of a family are the set of those present,
which the source keeps as a sorted vector. -/
structure Inventory where
  entries : Nat
  storeFormat : Bool
  storeFormatStaging : Bool
  registryStaging : Bool
  retryStaging : Bool
  recoveryStaging : Bool
  rotationStaging : Bool
  registrySlots : Nat
  retrySlots : Nat
  manifestSlots : Nat
  catalogSlots : Nat
  recoverySlots : Nat
  rotationIntent : Bool
  storeLock : Bool
  activeJournals : Finset U64
  activeCheckpoints : Finset U64
  sealedGenerations : Finset U64

def countPresent (d : StoreDirectory) (names : List Artifact) : Nat := names.countP (present d)

def journalGenerations (d : StoreDirectory) : Finset U64 :=
  d.keys.filterMap Artifact.journalGeneration? Artifact.journalGeneration?_inj

def checkpointGenerations (d : StoreDirectory) : Finset U64 :=
  d.keys.filterMap Artifact.checkpointGeneration? Artifact.checkpointGeneration?_inj

def sealedGenerations (d : StoreDirectory) : Finset U64 :=
  d.keys.filterMap Artifact.sealedGeneration? Artifact.sealedGeneration?_inj

def inspectInventory (d : StoreDirectory) : Except ManifestStoreError Inventory := do
  refuse (maxInventoryEntries < d.keys.card) .invalidInventory
  refuse (∃ name ∈ d.keys, Artifact.recognized name = false) .invalidInventory
  refuse (maxSealedGenerations < (sealedGenerations d).card) .invalidInventory
  pure {
    entries := d.keys.card
    storeFormat := present d .storeFormat
    storeFormatStaging := present d .storeFormatStaging
    registryStaging := present d .registryStaging
    retryStaging := present d .retryStaging
    recoveryStaging := present d .recoveryStaging
    rotationStaging := present d .catalogStaging || present d .sealedJournalStaging
    registrySlots := countPresent d (reusableSlots.map .registry)
    retrySlots := countPresent d (reusableSlots.map .retry)
    manifestSlots := countPresent d [.manifest 0, .manifest 1]
    catalogSlots := countPresent d (reusableSlots.map .catalog)
    recoverySlots := countPresent d (reusableSlots.map .recovery)
    rotationIntent := present d .rotationIntent
    storeLock := present d .storeLock
    activeJournals := journalGenerations d
    activeCheckpoints := checkpointGenerations d
    sealedGenerations := sealedGenerations d }

inductive FormatPreflight where
  | emptyCreate | markerStaging | current
  deriving DecidableEq, Repr

def preflightManifest (d : StoreDirectory) (storeId : StoreId) (slot : Fin 2) :
    Except ManifestStoreError (Option ManifestRecord) := do
  match ← readOptionalBounded d (.manifest slot) manifestLen with
  | none => pure none
  | some bytes => do
    refuse (manifestHeaderValid bytes = false) .unsupportedStoreFormat
    let record ← decodeManifest bytes storeId
    pure (some record)

/-- Whether an active journal that is listed starts with the current header of the store. -/
def journalHeaderCurrent (d : StoreDirectory) (storeId : StoreId) (generation : U64) : Bool :=
  match d.lookup (.activeJournal generation) with
  | none => false
  | some file =>
    let header := slice file 0 journalV1HeaderLen
    journalV1HeaderLen ≤ file.length ∧ slice header 0 8 = journalV1HeaderMagic ∧
      u16At header 8 = journalV1Version ∧ (decodeHeader header).toOption = some storeId

def preflightRetry (d : StoreDirectory) (config : ManifestStoreConfig) (slot : UInt8) :
    Except ManifestStoreError Unit := do
  match ← readOptionalBounded d (.retry slot) maxRetryStateBytes with
  | none => pure ()
  | some bytes => do
    refuse (bytes.length < retryHeaderLen + 4 ∨ slice bytes 0 8 ≠ retryMagic ∨
      u16At bytes 8 ≠ retryVersion) .unsupportedStoreFormat
    match decodeRetryStateAtSlot bytes slot config.storeId config.retry with
    | .ok _ => pure ()
    | .error .optionsMismatch => .error .invalidRetry
    | .error .storeMismatch => .error .storeMismatch
    | .error .invalid => .error .unsupportedStoreFormat

def preflightRecovery (d : StoreDirectory) (storeId : StoreId) (slot : UInt8) :
    Except ManifestStoreError Unit := do
  match ← readOptionalBounded d (.recovery slot) recoveryStateLen with
  | none => pure ()
  | some bytes => do
    let _ ← (decodeRecoveryState bytes storeId).mapError mapRecoveryCodec
    pure ()

/-- A staging file that is not whole is the trace of a publication that was interrupted. -/
def preflightStaging (d : StoreDirectory) (name : Artifact) (maximum : Nat)
    (whole : Bytes → Bool) : Except ManifestStoreError Unit :=
  match readOptionalBounded d name maximum with
  | .ok none => .ok ()
  | .ok (some bytes) => refuse (whole bytes = false) .interruptedPublication
  | .error (.io operation kind) => .error (.io operation kind)
  | .error _ => .error .interruptedPublication

def preflightCurrentArtifactVersions (d : StoreDirectory) (config : ManifestStoreConfig)
    (inventory : Inventory) : Except ManifestStoreError Unit := do
  let first ← preflightManifest d config.storeId 0
  let second ← preflightManifest d config.storeId 1
  let _ ← selectCurrentManifest ⟨first, second⟩
  -- one error answers every journal that fails, so the order of the generations is not seen
  refuse (inventory.activeJournals.filter fun generation =>
    journalHeaderCurrent d config.storeId generation = false).Nonempty .unsupportedStoreFormat
  (reusableSlots.forM (preflightRetry d config) : Except ManifestStoreError Unit)
  (reusableSlots.forM (preflightRecovery d config.storeId) : Except ManifestStoreError Unit)
  preflightStaging d .recoveryStaging recoveryStateLen
    fun bytes => (decodeRecoveryState bytes config.storeId).isOk
  preflightStaging d .manifestStaging manifestLen manifestHeaderValid

def preflightStoreFormat (d : StoreDirectory) (config : ManifestStoreConfig) :
    Except ManifestStoreError FormatPreflight := do
  let inventory ← match inspectInventory d with
    | .ok inventory => .ok inventory
    | .error (.io operation kind) => .error (.io operation kind)
    | .error _ => .error .unsupportedStoreFormat
  if inventory.entries = 0 then
    if config.mode = .createNew then pure .emptyCreate else .error .unsupportedStoreFormat
  else do
    refuse (inventory.storeLock = false ∨ inventory.storeFormat = inventory.storeFormatStaging ∨
      (inventory.storeFormat = false ∧ inventory.entries ≠ 2)) .unsupportedStoreFormat
    let name : Artifact := if inventory.storeFormat then .storeFormat else .storeFormatStaging
    let marker ← (readRequiredBounded d name storeFormatLen).mapError
      fun _ => ManifestStoreError.unsupportedStoreFormat
    decodeStoreFormatMarker marker config.storeId
    if inventory.storeFormatStaging then pure .markerStaging
    else do
      preflightCurrentArtifactVersions d config inventory
      refuse (config.mode = .createNew ∧ inventory.manifestSlots ≠ 0) .invalidInventory
      pure .current

def genesisPlaceholder (storeId : StoreId) : DurableCutoff :=
  ⟨⟨storeId, 1⟩, 1, 0, Fin.ofNat _ journalV1HeaderLen⟩

/-- The records of a new store must be encodable before any file is written. -/
def preflightGenesisRecords (config : ManifestStoreConfig) : Except ManifestStoreError Unit := do
  let _ ← encodeRegistrySnapshot 1
    (SeriesRegistry.new config.storeId config.registry.limits).snapshot
  let _ ← (encodeRetryState (RetryStateSnapshot.emptyPersisted config.storeId config.retry
    ⟨0, 1⟩)).mapError mapRetryCodec
  pure ()

end Historian
