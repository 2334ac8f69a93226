import Historian.ManifestStore

namespace Historian

open Wire Checks Files

/-- Where the recovery file of a commit comes from: a staging file, a slot, or a new report. -/
inductive RecoverySource where
  | staging
  | slot
  | report (bytes : Bytes)
  deriving DecidableEq

/-- A recovery that is to be committed. -/
structure RecoveryCommit where
  artifact : RecoveryArtifact
  source : RecoverySource
  manifest : PreparedManifestPublication

def mapRootOpen : ManifestRootOpenError → ManifestStoreError
  | .rootMismatch => .invalidManifest
  | .active error => .active error

namespace ManifestStore

variable (store : ManifestStore)

/-- The report generation of the current root, zero without one. -/
def latestReportGeneration : U64 :=
  match store.recoveryReport with
  | some report => report.reportGeneration
  | none => 0

/-- The files in recovery slots that no manifest names and that are not older than the report of
the root. -/
def recoveryCandidates (inventory : RecoveryInventoryState) : List RecoveryArtifact :=
  inventory.artifacts.filter fun artifact =>
    artifact.reference ∉ store.manifestSlots.recoveryReferences ∧
      ¬(0 < store.latestReportGeneration ∧
        artifact.report.reportGeneration < store.latestReportGeneration)

/-- A recovery file that was found must be the one that this root and this suffix lead to. -/
def validateFoundRecovery (targetSlot : UInt8) (expectedReportGeneration : U64)
    (plan : Option ActiveRecoveryPlan) (artifact : RecoveryArtifact) (fromStaging : Bool) :
    Except ManifestStoreError Unit := do
  refuse (artifact.reference.slot ≠ targetSlot ∨
    artifact.report.reportGeneration ≠ expectedReportGeneration) .invalidManifest
  let nextGeneration ← checkedNext store.current.generation
  refuse (reportMatchesSource artifact.report store.current nextGeneration = false)
    .invalidManifest
  match plan with
  | some plan =>
    refuse (artifact.report.originalJournalLength ≠ plan.originalLength ∨
      artifact.report.classification ≠ plan.classification) .invalidManifest
  | none => refuse (fromStaging = true) .interruptedPublication

/-- The recovery file that is there, or the one that the suffix of the journal asks for. -/
def selectRecovery (inventory : RecoveryInventoryState) (plan : Option ActiveRecoveryPlan) :
    Except ManifestStoreError (Option (RecoveryArtifact × RecoverySource)) := do
  let targetSlot ← candidateSlot store.manifestSlots.recoverySlots .invalidManifest
  let candidates := store.recoveryCandidates inventory
  refuse (1 < candidates.length) .invalidManifest
  refuse (inventory.staging ≠ none ∧ candidates ≠ []) .invalidManifest
  let expectedReportGeneration ← checkedNext store.latestReportGeneration
  match inventory.staging, candidates.head? with
  | some report, _ => do
    let bytes ← (encodeRecoveryState report).mapError mapRecoveryCodec
    let artifact : RecoveryArtifact := ⟨⟨targetSlot, crc32c bytes⟩, report⟩
    store.validateFoundRecovery targetSlot expectedReportGeneration plan artifact true
    pure (some (artifact, .staging))
  | none, some artifact => do
    store.validateFoundRecovery targetSlot expectedReportGeneration plan artifact false
    pure (some (artifact, .slot))
  | none, none => do
    refuse (inventory.manifestStaging ≠ none) .interruptedPublication
    match plan with
    | none => pure none
    | some plan => do
      let report ← (RecoveryReport.new store.storeId expectedReportGeneration
        store.current.generation (manifestChecksum store.current) store.current.cutoff
        store.current.sequenceFloor plan.originalLength plan.classification).mapError
        mapRecoveryCodec
      -- the target slot is below three, which the source checks again
      let bytes ← (encodeRecoveryState report).mapError mapRecoveryCodec
      pure (some (⟨⟨targetSlot, crc32c bytes⟩, report⟩, .report bytes))

def planRecovery (inventory : RecoveryInventoryState) (plan : Option ActiveRecoveryPlan) :
    Except ManifestStoreError (Option RecoveryCommit) := do
  match ← store.selectRecovery inventory plan with
  | none => pure none
  | some (artifact, source) => do
    refuse (plan ≠ none ∧ inventory.manifestStaging ≠ none) .invalidManifest
    let nextGeneration ← checkedNext store.current.generation
    let next : ManifestRecord := { store.current with
      generation := nextGeneration
      recovery := some artifact.reference }
    let manifest ← store.prepareManifest next
    refuse (∃ staged ∈ inventory.manifestStaging, staged ≠ next) .invalidManifest
    pure (some ⟨artifact, source, manifest⟩)

def publishPreparedRecoveryReport (artifact : RecoveryArtifact) (bytes : Bytes) :
    StoreAction Unit :=
  publishReusableSlot .recoveryStaging (.recovery artifact.reference.slot) bytes recoveryStateLen
    fun candidate => do
      let decoded ← (decodeRecoveryState candidate artifact.report.storeId).mapError
        mapRecoveryCodec
      refuse (decoded ≠ artifact.report ∨ crc32c candidate ≠ artifact.reference.checksum)
        .invalidManifest

/-- The recovery file is put in its slot, the suffix is cut off, and a root that names the file
is published. -/
def commitRecovery (inventory : RecoveryInventoryState) (plan : Option ActiveRecoveryPlan)
    (recovery : RecoveryCommit) : StoreAction ManifestStore := do
  match recovery.source with
  | .staging => convergeRecoveryStaging recovery.artifact store.storeId
  | .report bytes => publishPreparedRecoveryReport recovery.artifact bytes
  | .slot => pure ()
  match plan with
  | some plan => (store.journal.applyRecovery plan).mapError .active
  | none => (store.journal.synchronizeRecoveryCutoff store.current.cutoff).mapError .active
  let slot ← if inventory.manifestStaging ≠ none then
      convergeManifestStaging (1 - store.currentSlot) recovery.manifest.record
    else store.publishPreparedManifest recovery.manifest
  let adopted := { store.adoptPublishedManifest slot recovery.manifest.record with
    recoveryReport := some recovery.artifact.report }
  removeUnreferencedCatalogSlots adopted.manifestSlots
  removeUnreferencedRetrySlots adopted.manifestSlots
  removeUnreferencedRecoverySlots adopted.manifestSlots adopted.storeId
  pure adopted

def convergeRecovery (inventory : RecoveryInventoryState) (plan : Option ActiveRecoveryPlan) :
    StoreAction ManifestStore := do
  match ← ensure (store.planRecovery inventory plan) with
  | none => do
    removeUnreferencedRecoverySlots store.manifestSlots store.storeId
    pure store
  | some recovery => store.commitRecovery inventory plan recovery

end ManifestStore

/-- Everything that the root of a store is checked for, without a change to the directory. -/
structure CommittedRead where
  store : ManifestStore
  recoveryInventory : RecoveryInventoryState
  recoveryPlan : Option ActiveRecoveryPlan

/-- The checks of `openCommitted` behind the journal. -/
def readCommitted (config : ManifestStoreConfig) (manifestSlots : ManifestSlots)
    (currentSlot : Fin 2) (current : ManifestRecord) (rotationIntent : Option RotationIntent)
    (journal : ActiveJournal) (recoveryPlan : Option ActiveRecoveryPlan) (d : StoreDirectory) :
    Except ManifestStoreError CommittedRead := do
  let registry ← readReferencedRegistry d current.registry config.storeId
  validateRegistryInventory d manifestSlots current.registry config.storeId
  let catalog ← readManifestCatalog d current config.storeId
  validateCatalogInventory d manifestSlots config.storeId
  let inventory ← inspectInventory d
  validateGenerationInventory inventory current catalog rotationIntent
  let recoveryInventory ← readRecoveryInventory d config.storeId
  validateRecoveryManifestProgression manifestSlots recoveryInventory
  (validateRecoveredDeclarations registry journal.records).mapError
    fun _ => ManifestStoreError.invalidRegistry
  let retry ← readReferencedRetry d current config.storeId config.retry catalog
  validateRetryInventory d manifestSlots config.storeId config.retry rotationIntent.isSome
  validateRecoveryReportCoverage manifestSlots recoveryInventory current catalog journal
  let recoveryReport ← match current.recovery with
    | none => pure none
    | some reference => do
      let report ← referencedRecovery recoveryInventory reference
      pure (some report)
  pure ⟨⟨journal, registry, retry, catalog, recoveryReport, manifestSlots, currentSlot, current,
    .writable⟩, recoveryInventory, recoveryPlan⟩

def openCommitted (config : ManifestStoreConfig) (manifestSlots : ManifestSlots)
    (currentSlot : Fin 2) (current : ManifestRecord) (rotationIntent : Option RotationIntent) :
    StoreAction ManifestStore := do
  let activeConfig ← ensure (generationConfig config.storeId config.journalLimits
    current.cutoff.journal.generation current.sequenceFloor)
  let (journal, recoveryPlan) ←
    (ActiveJournal.openManifestRoot activeConfig current.cutoff).mapError mapRootOpen
  let read ← look (readCommitted config manifestSlots currentSlot current rotationIntent journal
    recoveryPlan)
  read.store.convergeRecovery read.recoveryInventory read.recoveryPlan

/-- The root that the first manifest is compared with before there is one. -/
def genesisRoot (storeId : StoreId) : ManifestRecord :=
  ⟨0, ⟨0, 0, 0, 0⟩, genesisPlaceholder storeId, ⟨⟨0, 0⟩, 0, 0⟩, none, 0, none⟩

/-- The journal of a store without a manifest: a new one, or one whose creation was
interrupted. -/
def openGenesisJournal (config : ManifestStoreConfig) (inventory : Inventory) :
    StoreAction ActiveJournal :=
  if inventory.activeJournals = ∅ then
    (ActiveJournal.open (ActiveJournalConfig.new config.storeId .createNew
      config.journalLimits).manifestCreate).mapError .active
  else do
    look fun d => (preflightManifestGenesis d config.storeId).mapError mapManifestGenesisPreflight
    (ActiveJournal.open (ActiveJournalConfig.new config.storeId .openExisting
      config.journalLimits).manifestGenesis).mapError .active

def publishGenesisRegistry (store : ManifestStore) : StoreAction RegistryReference := do
  let prepared ← ensure (store.prepareRegistrySnapshot 1 store.registry.snapshot)
  ManifestStore.publishPreparedRegistrySnapshot store.registry.snapshot prepared
  pure prepared.reference

def publishGenesisRetry (store : ManifestStore) : StoreAction RetryArtifactReference := do
  let reference : RetryStateReference := ⟨0, 1⟩
  let snapshot := RetryStateSnapshot.emptyPersisted store.retry.storeId store.retry.options
    reference
  let prepared ← ensure (store.prepareRetrySnapshot reference snapshot)
  ManifestStore.publishPreparedRetrySnapshot snapshot prepared
  pure prepared.reference

/-- The first registry file: a new one, or the one that an interrupted creation left. -/
def genesisRegistry (store : ManifestStore) (inventory : Inventory) :
    StoreAction RegistryReference :=
  if inventory.registrySlots = 0 then publishGenesisRegistry store
  else look fun d => readInterruptedGenesisRegistry d store.registry.snapshot none reusableSlots

/-- The first retry file: a new one, or the one that an interrupted creation left. -/
def genesisRetry (store : ManifestStore) (inventory : Inventory) :
    StoreAction RetryArtifactReference :=
  if inventory.retrySlots = 0 then publishGenesisRetry store
  else look fun d =>
    readInterruptedGenesisRetry d store.retry.storeId store.retry.options none reusableSlots

def initializeGenesis (config : ManifestStoreConfig) (inventory : Inventory)
    (manifestSlots : ManifestSlots) : StoreAction ManifestStore := do
  ensure (validateGenesisInventory inventory)
  let journal ← openGenesisJournal config inventory
  ensure (refuse (journal.records ≠ [] ∨
    journal.durableCutoff ≠ genesisPlaceholder config.storeId) .unsupportedStoreFormat)
  let store : ManifestStore := {
    journal := journal
    registry := SeriesRegistry.new config.storeId config.registry.limits
    retry := .empty config.storeId config.retry
    catalog := .empty config.storeId
    recoveryReport := none
    manifestSlots := manifestSlots
    currentSlot := 0
    current := genesisRoot config.storeId
    writeState := .writable }
  let registryReference ← genesisRegistry store inventory
  let retryReference ← genesisRetry store inventory
  let record : ManifestRecord :=
    ⟨1, registryReference, journal.durableCutoff, retryReference, none, 0, none⟩
  let retry ← look fun d => readReferencedRetry d record config.storeId config.retry store.catalog
  let prepared ← ensure (store.prepareManifest record)
  let slot ← store.publishPreparedManifest prepared
  pure { store.adoptPublishedManifest slot record with retry := retry }

/-- Lock and marker: created in an empty directory, or the marker's publication completed. -/
def convergeStoreFormat (config : ManifestStoreConfig) : FormatPreflight → StoreAction Unit
  | .emptyCreate => do
    emit (.put .storeLock [])
    publishReusableSlot .storeFormatStaging .storeFormat (encodeStoreFormatMarker config.storeId)
      storeFormatLen fun candidate => decodeStoreFormatMarker candidate config.storeId
  | .markerStaging => do
    look fun d => do
      refuse (present d .storeFormat = true) .unsupportedStoreFormat
      let bytes ← (readRequiredBounded d .storeFormatStaging storeFormatLen).mapError
        fun _ => ManifestStoreError.unsupportedStoreFormat
      decodeStoreFormatMarker bytes config.storeId
    emit (.rename .storeFormatStaging .storeFormat)
  | .current => pure ()

/-- The first part of an open: formats and names. -/
def openFormat (config : ManifestStoreConfig) : StoreAction Inventory := do
  let preflight ← look fun d => preflightStoreFormat d config
  ensure (preflightGenesisRecords config)
  convergeStoreFormat config preflight
  let repeated ← look fun d => preflightStoreFormat d config
  ensure (refuse (repeated ≠ .current) .unsupportedStoreFormat)
  let inventory ← look inspectInventory
  ensure (refuse ((inventory.registryStaging = true ∨ inventory.retryStaging = true ∨
    inventory.rotationStaging = true) ∧ inventory.rotationIntent = false) .interruptedPublication)
  pure inventory

/-- What the intent of an interrupted rotation was, for the root that is there. -/
def readInterruptedRotation (config : ManifestStoreConfig) (manifestSlots : ManifestSlots)
    (d : StoreDirectory) : Except ManifestStoreError (ManifestRecord × RotationIntent) := do
  let recoveryInventory ← readRecoveryInventory d config.storeId
  validateRecoveryManifestProgression manifestSlots recoveryInventory
  validateNoPendingRecovery manifestSlots recoveryInventory
  match ← selectCurrentManifest manifestSlots with
  | none => .error .invalidGeneration
  | some (_, current) => do
    let intent ← readRotationIntent d config.storeId
    pure (current, intent)

/-- The state of an open behind its rotation branch. -/
structure Converged where
  inventory : Inventory
  manifestSlots : ManifestSlots
  committedIntent : Option RotationIntent

/-- An interrupted rotation is rolled back before its commit and kept for the cleanup behind
it. -/
def convergeRotation (config : ManifestStoreConfig) (inventory : Inventory) :
    StoreAction Converged := do
  let manifestSlots ← look fun d => readManifestSlots d config.storeId
  if inventory.rotationIntent then do
    let (current, intent) ← look (readInterruptedRotation config manifestSlots)
    if current.cutoff.journal.generation = intent.sourceGeneration then do
      rollbackUncommittedRotation config manifestSlots current intent
      let inventory ← look inspectInventory
      let manifestSlots ← look fun d => readManifestSlots d config.storeId
      pure ⟨inventory, manifestSlots, none⟩
    else do
      ensure (refuse (current.cutoff.journal.generation ≠ intent.successorGeneration)
        .invalidGeneration)
      look fun d => validateCommittedRotationTransition d manifestSlots current intent
        config.storeId
      pure ⟨inventory, manifestSlots, some intent⟩
  else pure ⟨inventory, manifestSlots, none⟩

def finishOpen (store : ManifestStore) (committedIntent : Option RotationIntent) :
    StoreAction Unit := do
  match committedIntent with
  | some intent => do
    cleanupCommittedRotation intent.sourceGeneration
    removeUnreferencedRetrySlots store.manifestSlots
  | none => pure ()
  removeUnreferencedCatalogSlots store.manifestSlots
  removeUnreferencedRecoverySlots store.manifestSlots store.storeId

/-- The last part of an open: the committed root, or the first one of a new store. -/
def openRoot (config : ManifestStoreConfig) (converged : Converged) :
    StoreAction ManifestStore := do
  match ← ensure (selectCurrentManifest converged.manifestSlots) with
  | some (currentSlot, current) => do
    ensure (refuse (config.mode ≠ .openExisting) .invalidInventory)
    let store ← openCommitted config converged.manifestSlots currentSlot current
      converged.committedIntent
    finishOpen store converged.committedIntent
    pure store
  | none => initializeGenesis config converged.inventory converged.manifestSlots

def ManifestStore.open (config : ManifestStoreConfig) : StoreAction ManifestStore := do
  let inventory ← openFormat config
  let converged ← convergeRotation config inventory
  openRoot config converged

end Historian
