import Historian.StoreFormat

namespace Historian

open Wire Checks Files

def validateGenesisInventory (inventory : Inventory) : Except ManifestStoreError Unit :=
  refuse (¬((inventory.activeJournals = ∅ ∧ inventory.activeCheckpoints = ∅) ∨
      (inventory.activeJournals = {1} ∧
        (inventory.activeCheckpoints = ∅ ∨ inventory.activeCheckpoints = {1}))) ∨
    inventory.sealedGenerations ≠ ∅ ∨ inventory.catalogSlots ≠ 0 ∨ inventory.recoverySlots ≠ 0 ∨
    inventory.recoveryStaging = true ∨ inventory.rotationIntent = true ∨
    inventory.rotationStaging = true) .unsupportedStoreFormat

/-- The active journals that a root and an intent allow. -/
def allowedActive (inventory : Inventory) (current : ManifestRecord)
    (intent : Option RotationIntent) : Except ManifestStoreError (Finset U64) :=
  let activeGeneration := current.cutoff.journal.generation
  match intent with
  | none => .ok {activeGeneration}
  | some intent =>
    if activeGeneration = intent.sourceGeneration then
      if intent.successorGeneration ∈ inventory.activeJournals ∨
          intent.successorGeneration ∈ inventory.activeCheckpoints then
        .ok {activeGeneration, intent.successorGeneration}
      else .ok {activeGeneration}
    else if activeGeneration = intent.successorGeneration then
      if intent.sourceGeneration ∈ inventory.activeJournals then
        .ok {activeGeneration, intent.sourceGeneration}
      else .ok {activeGeneration}
    else .error .invalidGeneration

/-- The checkpoints follow the journals, except behind a committed rotation, where either file
of the source generation may be gone already. -/
def allowedCheckpoints (inventory : Inventory) (current : ManifestRecord)
    (intent : Option RotationIntent) (allowed : Finset U64) : Finset U64 :=
  let activeGeneration := current.cutoff.journal.generation
  match intent with
  | none => allowed
  | some intent =>
    if activeGeneration = intent.successorGeneration then
      if intent.sourceGeneration ∈ inventory.activeCheckpoints then
        {activeGeneration, intent.sourceGeneration}
      else {activeGeneration}
    else allowed

/-- The sealed generations that the catalog and an intent allow, as they are listed. -/
def allowedSealed (inventory : Inventory) (current : ManifestRecord)
    (catalog : GenerationCatalogSnapshot) (intent : Option RotationIntent) : List U64 :=
  let listed := catalog.entries.map (·.journalGeneration)
  match intent with
  | none => listed
  | some intent =>
    if current.cutoff.journal.generation = intent.sourceGeneration ∧
        intent.sourceGeneration ∈ inventory.sealedGenerations then
      listed ++ [intent.sourceGeneration]
    else listed

/-- Whether a list is the sorted vector of the generations in a set. -/
def listsExactly (listed : List U64) (generations : Finset U64) : Prop :=
  listed.Pairwise (· < ·) ∧ listed.toFinset = generations

instance (listed : List U64) (generations : Finset U64) :
    Decidable (listsExactly listed generations) :=
  inferInstanceAs (Decidable (_ ∧ _))

def validateGenerationInventory (inventory : Inventory) (current : ManifestRecord)
    (catalog : GenerationCatalogSnapshot) (intent : Option RotationIntent) :
    Except ManifestStoreError Unit := do
  let allowed ← allowedActive inventory current intent
  refuse (inventory.activeJournals ≠ allowed) .invalidInventory
  refuse (inventory.activeCheckpoints ≠ allowedCheckpoints inventory current intent allowed)
    .invalidInventory
  refuse (¬listsExactly (allowedSealed inventory current catalog intent)
    inventory.sealedGenerations) .invalidInventory

def readManifestSlot (d : StoreDirectory) (storeId : StoreId) (slot : Fin 2) :
    Except ManifestStoreError (Option ManifestRecord) := do
  match ← readOptionalBounded d (.manifest slot) manifestLen with
  | none => pure none
  | some bytes => do
    let record ← decodeManifest bytes storeId
    pure (some record)

def readManifestSlots (d : StoreDirectory) (storeId : StoreId) :
    Except ManifestStoreError ManifestSlots := do
  let first ← readManifestSlot d storeId 0
  let second ← readManifestSlot d storeId 1
  pure ⟨first, second⟩

structure RecoveryInventoryState where
  slots : UInt8 → Option RecoveryArtifact
  staging : Option RecoveryReport
  manifestStaging : Option ManifestRecord

def readRecoverySlot (d : StoreDirectory) (storeId : StoreId) (slot : UInt8) :
    Except ManifestStoreError (Option RecoveryArtifact) := do
  match ← readOptionalBounded d (.recovery slot) recoveryStateLen with
  | none => pure none
  | some bytes => do
    let report ← (decodeRecoveryState bytes storeId).mapError mapRecoveryCodec
    pure (some ⟨⟨slot, crc32c bytes⟩, report⟩)

def readRecoveryStaging (d : StoreDirectory) (storeId : StoreId) :
    Except ManifestStoreError (Option RecoveryReport) := do
  match ← readOptionalBounded d .recoveryStaging recoveryStateLen with
  | none => pure none
  | some bytes => do
    let report ← (decodeRecoveryState bytes storeId).mapError mapRecoveryCodec
    pure (some report)

def readManifestStaging (d : StoreDirectory) (storeId : StoreId) :
    Except ManifestStoreError (Option ManifestRecord) := do
  match ← readOptionalBounded d .manifestStaging manifestLen with
  | none => pure none
  | some bytes => do
    let record ← decodeManifest bytes storeId
    pure (some record)

def readRecoveryInventory (d : StoreDirectory) (storeId : StoreId) :
    Except ManifestStoreError RecoveryInventoryState := do
  let first ← readRecoverySlot d storeId 0
  let second ← readRecoverySlot d storeId 1
  let third ← readRecoverySlot d storeId 2
  let staging ← readRecoveryStaging d storeId
  let manifestStaging ← readManifestStaging d storeId
  let slots := fun slot =>
    if slot = 0 then first else if slot = 1 then second else if slot = 2 then third else none
  pure ⟨slots, staging, manifestStaging⟩

/-- The recovery files that are there, in the order of their slots. -/
def RecoveryInventoryState.artifacts (inventory : RecoveryInventoryState) :
    List RecoveryArtifact :=
  reusableSlots.filterMap inventory.slots

def referencedRecovery (inventory : RecoveryInventoryState) (reference : RecoveryReference) :
    Except ManifestStoreError RecoveryReport :=
  match inventory.slots reference.slot with
  | none => .error .invalidManifest
  | some artifact => do
    refuse (artifact.reference ≠ reference) .invalidManifest
    pure artifact.report

def reportMatchesSource (report : RecoveryReport) (source : ManifestRecord)
    (committingGeneration : U64) : Bool :=
  report.sourceManifestGeneration = source.generation ∧
    report.committingManifestGeneration = committingGeneration ∧
    report.sourceManifestChecksum = manifestChecksum source ∧ report.cutoff = source.cutoff ∧
    report.sequenceFloor = source.sequenceFloor

def manifestAuthorityEqualForRecovery (older newer : ManifestRecord) : Bool :=
  older.generation.val + 1 = newer.generation.val ∧ older.registry = newer.registry ∧
    older.cutoff = newer.cutoff ∧ older.retry = newer.retry ∧
    older.sequenceFloor = newer.sequenceFloor ∧ older.catalog = newer.catalog

def validateRecoveryReference (inventory : RecoveryInventoryState) (manifest : ManifestRecord) :
    Except ManifestStoreError Unit :=
  match manifest.recovery with
  | none => .ok ()
  | some reference => do
    let report ← referencedRecovery inventory reference
    refuse (manifest.generation < report.committingManifestGeneration) .invalidManifest

/-- The report generation that a recovery behind the older manifest has to carry. -/
def expectedReportGeneration (inventory : RecoveryInventoryState) (older : ManifestRecord) :
    Except ManifestStoreError Nat :=
  match older.recovery with
  | none => .ok 1
  | some reference => do
    let report ← referencedRecovery inventory reference
    pure (report.reportGeneration.val + 1)

def validateRecoveryManifestProgression (manifests : ManifestSlots)
    (inventory : RecoveryInventoryState) : Except ManifestStoreError Unit := do
  manifests.retained.forM (validateRecoveryReference inventory)
  match manifests.ordered with
  | none => pure ()
  | some (older, newer) =>
    if older.recovery = newer.recovery then pure ()
    else
      match newer.recovery with
      | none => .error .invalidManifest
      | some reference => do
        let report ← referencedRecovery inventory reference
        let expected ← expectedReportGeneration inventory older
        refuse (expected ≠ report.reportGeneration.val ∨
          manifestAuthorityEqualForRecovery older newer = false ∨
          reportMatchesSource report older newer.generation = false) .invalidManifest

/-- The recovery references of the manifests that are there. -/
def ManifestSlots.recoveryReferences (manifests : ManifestSlots) : List RecoveryReference :=
  manifests.retained.filterMap (·.recovery)

def maxGeneration : List U64 → Option U64
  | [] => none
  | generation :: rest =>
    match maxGeneration rest with
    | none => some generation
    | some other => some (if other < generation then generation else other)

def validateNoPendingRecovery (manifests : ManifestSlots) (inventory : RecoveryInventoryState) :
    Except ManifestStoreError Unit := do
  refuse (inventory.staging ≠ none) .invalidGeneration
  let referenced := manifests.recoveryReferences
  let reports ← referenced.mapM (referencedRecovery inventory)
  let latest := maxGeneration (reports.map (·.reportGeneration))
  refuse (∃ artifact ∈ inventory.artifacts, artifact.reference ∉ referenced ∧
    latest.all (· ≤ artifact.report.reportGeneration) = true) .invalidGeneration

def readReferencedRegistry (d : StoreDirectory) (reference : RegistryReference)
    (storeId : StoreId) : Except ManifestStoreError SeriesRegistry := do
  refuse (3 ≤ reference.slot) .invalidRegistry
  let bytes ← readRequiredBounded d (.registry reference.slot) maxRegistrySnapshotBytes
  refuse (bytes.length ≠ reference.length.val ∨ crc32c bytes ≠ reference.checksum)
    .invalidRegistry
  let decoded ← decodeRegistrySnapshotAtSlot bytes reference.slot
  refuse (decoded.registry.storeId ≠ storeId) .storeMismatch
  refuse (decoded.reference ≠ reference) .invalidRegistry
  pure decoded.registry

def validateRegistrySlot (d : StoreDirectory) (manifests : ManifestSlots)
    (current : RegistryReference) (storeId : StoreId) (slot : UInt8) :
    Except ManifestStoreError Unit := do
  match ← readOptionalBounded d (.registry slot) maxRegistrySnapshotBytes with
  | none => pure ()
  | some bytes => do
    let decoded ← decodeRegistrySnapshotAtSlot bytes slot
    refuse (decoded.registry.storeId ≠ storeId) .storeMismatch
    refuse (decoded.reference.slot ≠ slot) .invalidRegistry
    refuse (¬(∃ manifest ∈ manifests.retained, manifest.registry = decoded.reference) ∧
      ¬(decoded.reference.generation ≤ current.generation ∨
        current.generation.val + 1 = decoded.reference.generation.val)) .invalidRegistry

def validateRegistryInventory (d : StoreDirectory) (manifests : ManifestSlots)
    (current : RegistryReference) (storeId : StoreId) : Except ManifestStoreError Unit := do
  reusableSlots.forM (validateRegistrySlot d manifests current storeId)
  manifests.retained.forM fun manifest => do
    let _ ← readReferencedRegistry d manifest.registry storeId
    pure ()

/-- The only registry file of a store without a manifest, read in the order of the slots. -/
def readInterruptedGenesisRegistry (d : StoreDirectory) (expected : SeriesRegistrySnapshot) :
    Option RegistryReference → List UInt8 → Except ManifestStoreError RegistryReference
  | none, [] => .error .invalidRegistry
  | some found, [] => .ok found
  | found, slot :: rest => do
    match ← readOptionalBounded d (.registry slot) maxRegistrySnapshotBytes with
    | none => readInterruptedGenesisRegistry d expected found rest
    | some bytes => do
      refuse (found ≠ none) .invalidRegistry
      let decoded ← decodeRegistrySnapshotAtSlot bytes slot
      refuse (decoded.reference.slot ≠ slot ∨ decoded.reference.generation ≠ 1 ∨
        decoded.registry.snapshot ≠ expected) .invalidRegistry
      readInterruptedGenesisRegistry d expected (some decoded.reference) rest

def validateSealedMetadata (d : StoreDirectory) (storeId : StoreId) (entry : SealedGeneration) :
    Except ManifestStoreError Unit :=
  match d.lookup (.sealedJournal entry.journalGeneration) with
  | none => .error (.io .read .notFound)
  | some file => do
    refuse (file.length ≠ entry.artifactLength.val ∨ file.length ≠ entry.endOffset.val)
      .invalidGeneration
    refuse (file.length < journalV1HeaderLen) (.io .read .unexpectedEof)
    let found ← (decodeHeader (slice file 0 journalV1HeaderLen)).mapError
      fun _ => ManifestStoreError.invalidGeneration
    refuse (found ≠ storeId) .storeMismatch

def validateSealedInventoryMetadata (d : StoreDirectory) (catalog : GenerationCatalogSnapshot) :
    Except ManifestStoreError Unit :=
  catalog.entries.forM (validateSealedMetadata d catalog.storeId)

def readReferencedCatalog (d : StoreDirectory) (reference : GenerationCatalogReference)
    (storeId : StoreId) : Except ManifestStoreError GenerationCatalogSnapshot := do
  refuse (3 ≤ reference.slot) .invalidGeneration
  let bytes ← readRequiredBounded d (.catalog reference.slot) maxGenerationCatalogBytes
  refuse (bytes.length ≠ reference.length.val ∨ crc32c bytes ≠ reference.checksum)
    .invalidGeneration
  let snapshot ← (decodeCatalog bytes reference.slot storeId).mapError mapGenerationCodec
  refuse (snapshot.reference ≠ some reference) .invalidGeneration
  validateSealedInventoryMetadata d snapshot
  pure snapshot

/-- The catalog that a manifest names, or the empty one of a store that was never rotated. -/
def readManifestCatalog (d : StoreDirectory) (manifest : ManifestRecord) (storeId : StoreId) :
    Except ManifestStoreError GenerationCatalogSnapshot :=
  match manifest.catalog with
  | some reference => readReferencedCatalog d reference storeId
  | none => .ok (.empty storeId)

def validateManifestCatalogBinding (manifest : ManifestRecord)
    (catalog : GenerationCatalogSnapshot) : Except ManifestStoreError Unit :=
  match catalog.reference, catalog.entries.getLast? with
  | some reference, some last =>
    refuse (manifest.catalog ≠ some reference ∨
      last.journalGeneration.val + 1 ≠ manifest.cutoff.journal.generation.val ∨
      manifest.sequenceFloor ≠ last.sequenceCutoff ∨
      manifest.registry.generation < last.registryGeneration) .invalidGeneration
  | _, _ => .error .invalidGeneration

def catalogAppendsExactlyOne (older newer : GenerationCatalogSnapshot) : Bool :=
  match older.reference, newer.reference with
  | some olderReference, some newerReference =>
    olderReference.generation.val + 1 = newerReference.generation.val ∧
      older.entries.length + 1 = newer.entries.length ∧ older.entries <+: newer.entries
  | _, _ => false

/-- Whether the newer catalog is the older one with the generation that was rotated out. -/
def catalogProgresses (olderManifest : ManifestRecord)
    (olderCatalog newerCatalog : GenerationCatalogSnapshot) : Bool :=
  match olderManifest.catalog with
  | none => olderCatalog.reference = none ∧ olderCatalog.entries = [] ∧
    newerCatalog.entries.length = 1 ∧
    ∃ reference ∈ newerCatalog.reference, reference.generation = 1
  | some reference => olderCatalog.reference = some reference ∧
    catalogAppendsExactlyOne olderCatalog newerCatalog

def validateCatalogAdvancingTransition (olderManifest newerManifest : ManifestRecord)
    (olderCatalog newerCatalog : GenerationCatalogSnapshot) : Except ManifestStoreError Unit :=
  match newerCatalog.entries.getLast? with
  | none => .error .invalidGeneration
  | some appended =>
    refuse (catalogProgresses olderManifest olderCatalog newerCatalog = false ∨
      newerManifest.catalog ≠ newerCatalog.reference ∨
      catalogReferenceProgresses olderManifest.catalog newerManifest.catalog = false ∨
      olderManifest.generation.val + 1 ≠ newerManifest.generation.val ∨
      appended.journalGeneration ≠ olderManifest.cutoff.journal.generation ∨
      appended.sequenceFloor ≠ olderManifest.sequenceFloor ∨
      appended.sequenceCutoff ≠ olderManifest.cutoff.appendSequence ∨
      appended.endOffset ≠ olderManifest.cutoff.endOffset ∨
      appended.artifactLength ≠ olderManifest.cutoff.endOffset ∨
      appended.registryGeneration ≠ olderManifest.registry.generation ∨
      olderManifest.cutoff.journal.generation.val + 1 ≠
        newerManifest.cutoff.journal.generation.val ∨
      newerManifest.sequenceFloor ≠ olderManifest.cutoff.appendSequence ∨
      newerManifest.cutoff.appendSequence ≠ olderManifest.cutoff.appendSequence ∨
      newerManifest.cutoff.endOffset.val ≠ journalV1HeaderLen ∨
      newerManifest.cutoff.checkpointGeneration ≠ 1 ∨
      newerManifest.registry ≠ olderManifest.registry ∨
      newerManifest.retry ≠ olderManifest.retry ∨
      newerManifest.recovery ≠ olderManifest.recovery) .invalidGeneration

def catalogIsStrictPrefix (older newer : GenerationCatalogSnapshot) : Bool :=
  older.entries.length < newer.entries.length ∧ older.entries <+: newer.entries ∧
    ∃ olderReference ∈ older.reference, ∃ newerReference ∈ newer.reference,
      olderReference.generation < newerReference.generation

/-- The catalogs that the manifests name, each bound to its manifest. -/
def referencedCatalogs (d : StoreDirectory) (storeId : StoreId) :
    List ManifestRecord → Except ManifestStoreError (List GenerationCatalogSnapshot)
  | [] => .ok []
  | manifest :: rest =>
    match manifest.catalog with
    | none => referencedCatalogs d storeId rest
    | some reference => do
      let snapshot ← readReferencedCatalog d reference storeId
      validateManifestCatalogBinding manifest snapshot
      let others ← referencedCatalogs d storeId rest
      pure (snapshot :: others)

def validateCatalogProgression (d : StoreDirectory) (manifests : ManifestSlots)
    (storeId : StoreId) : Except ManifestStoreError Unit :=
  match manifests.ordered with
  | none => .ok ()
  | some (older, newer) =>
    if older.catalog = newer.catalog then .ok ()
    else do
      let olderCatalog ← readManifestCatalog d older storeId
      match newer.catalog with
      | none => .error .invalidGeneration
      | some reference => do
        let newerCatalog ← readReferencedCatalog d reference storeId
        validateCatalogAdvancingTransition older newer olderCatalog newerCatalog

def validateCatalogSlot (d : StoreDirectory) (manifests : ManifestSlots) (storeId : StoreId)
    (referenced : List GenerationCatalogSnapshot) (slot : UInt8) :
    Except ManifestStoreError Unit := do
  match ← readOptionalBounded d (.catalog slot) maxGenerationCatalogBytes with
  | none => pure ()
  | some bytes => do
    let snapshot ← (decodeCatalog bytes slot storeId).mapError mapGenerationCodec
    refuse (¬(∃ manifest ∈ manifests.retained, manifest.catalog ≠ none ∧
        manifest.catalog = snapshot.reference) ∧
      ¬(∃ current ∈ referenced, catalogIsStrictPrefix snapshot current = true)) .invalidGeneration
    validateSealedInventoryMetadata d snapshot

def validateCatalogInventory (d : StoreDirectory) (manifests : ManifestSlots)
    (storeId : StoreId) : Except ManifestStoreError Unit := do
  let referenced ← referencedCatalogs d storeId manifests.retained
  validateCatalogProgression d manifests storeId
  reusableSlots.forM (validateCatalogSlot d manifests storeId referenced)

end Historian
