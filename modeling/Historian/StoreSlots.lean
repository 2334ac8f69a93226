import Historian.StoreChecks

namespace Historian

open Wire Checks Files

def readReferencedRetry (d : StoreDirectory) (owningManifest : ManifestRecord)
    (storeId : StoreId) (options : RetryPersistenceOptions) (catalog : GenerationCatalogSnapshot) :
    Except ManifestStoreError RetryStateSnapshot := do
  let reference := owningManifest.retry
  refuse (3 ≤ reference.state.slot) .invalidRetry
  let bytes ← readRequiredBounded d (.retry reference.state.slot) maxRetryStateBytes
  refuse (bytes.length ≠ reference.length.val ∨ crc32c bytes ≠ reference.checksum) .invalidRetry
  let (decodedReference, snapshot) ←
    (decodeRetryStateAtSlot bytes reference.state.slot storeId options).mapError mapRetryCodec
  refuse (decodedReference ≠ reference ∨
    snapshot.validatesRootWithCatalog owningManifest.commit catalog = false) .invalidRetry
  pure snapshot

/-- Whether every retry generation that a manifest names is above this one. -/
def belowEveryRetry (manifests : ManifestSlots) (generation : U64) : Bool :=
  manifests.retained ≠ [] ∧
    ∀ manifest ∈ manifests.retained, generation < manifest.retry.state.generation

def validateRetrySlot (d : StoreDirectory) (manifests : ManifestSlots) (storeId : StoreId)
    (options : RetryPersistenceOptions) (allowRotationRedundancy : Bool) (slot : UInt8) :
    Except ManifestStoreError Unit := do
  match ← readOptionalBounded d (.retry slot) maxRetryStateBytes with
  | none => pure ()
  | some bytes => do
    let (reference, _) ←
      (decodeRetryStateAtSlot bytes slot storeId options).mapError mapRetryCodec
    refuse (¬((∃ manifest ∈ manifests.retained, manifest.retry = reference) ∨
      (allowRotationRedundancy = true ∧
        belowEveryRetry manifests reference.state.generation = true))) .invalidRetry

def validateRetryInventory (d : StoreDirectory) (manifests : ManifestSlots) (storeId : StoreId)
    (options : RetryPersistenceOptions) (allowRotationRedundancy : Bool) :
    Except ManifestStoreError Unit := do
  reusableSlots.forM (validateRetrySlot d manifests storeId options allowRotationRedundancy)
  manifests.retained.forM fun manifest => do
    let catalog ← readManifestCatalog d manifest storeId
    let _ ← readReferencedRetry d manifest storeId options catalog
    pure ()

/-- The only retry file of a store without a manifest, read in the order of the slots. -/
def readInterruptedGenesisRetry (d : StoreDirectory) (storeId : StoreId)
    (options : RetryPersistenceOptions) :
    Option RetryArtifactReference → List UInt8 → Except ManifestStoreError RetryArtifactReference
  | none, [] => .error .invalidRetry
  | some found, [] => .ok found
  | found, slot :: rest => do
    match ← readOptionalBounded d (.retry slot) maxRetryStateBytes with
    | none => readInterruptedGenesisRetry d storeId options found rest
    | some bytes => do
      refuse (found ≠ none) .invalidRetry
      let (reference, snapshot) ←
        (decodeRetryStateAtSlot bytes slot storeId options).mapError mapRetryCodec
      refuse (reference.state.generation ≠ 1 ∨ snapshot.replay ≠ [] ∨ snapshot.guard ≠ [])
        .invalidRetry
      readInterruptedGenesisRetry d storeId options (some reference) rest

def ManifestSlots.retrySlots (manifests : ManifestSlots) : List UInt8 :=
  manifests.retained.map (·.retry.state.slot)

def ManifestSlots.registrySlots (manifests : ManifestSlots) : List UInt8 :=
  manifests.retained.map (·.registry.slot)

def ManifestSlots.catalogSlots (manifests : ManifestSlots) : List UInt8 :=
  manifests.retained.filterMap fun manifest => manifest.catalog.map (·.slot)

def ManifestSlots.recoverySlots (manifests : ManifestSlots) : List UInt8 :=
  manifests.recoveryReferences.map (·.slot)

/-- The slots of a family that no manifest names, in their order. -/
def unreferenced (referenced : List UInt8) : List UInt8 :=
  reusableSlots.filter (· ∉ referenced)

/-- The slot of a family that the next file goes to. -/
def candidateSlot (referenced : List UInt8) (error : ManifestStoreError) :
    Except ManifestStoreError UInt8 :=
  match (unreferenced referenced).head? with
  | some slot => .ok slot
  | none => .error error

def removeUnreferencedRetrySlots (manifests : ManifestSlots) : StoreAction Unit :=
  removeEach ((unreferenced manifests.retrySlots).map .retry)

def removeUnreferencedCatalogSlots (manifests : ManifestSlots) : StoreAction Unit :=
  removeEach ((unreferenced manifests.catalogSlots).map .catalog)

/-- The report generation of a recovery file that a manifest names. -/
def readReportGeneration (d : StoreDirectory) (storeId : StoreId)
    (reference : RecoveryReference) : Except ManifestStoreError U64 := do
  let bytes ← readRequiredBounded d (.recovery reference.slot) recoveryStateLen
  refuse (crc32c bytes ≠ reference.checksum) .invalidManifest
  let report ← (decodeRecoveryState bytes storeId).mapError mapRecoveryCodec
  pure report.reportGeneration

/-- Each file is read before it is removed, and one that is not older than the latest report of
a manifest stays. -/
def removeRecoverySlots (storeId : StoreId) (latest : Option U64) :
    List UInt8 → StoreAction Unit
  | [] => pure ()
  | slot :: rest => do
    let found ← look fun d => readOptionalBounded d (.recovery slot) recoveryStateLen
    match found with
    | none => removeRecoverySlots storeId latest rest
    | some bytes => do
      let report ← ensure ((decodeRecoveryState bytes storeId).mapError mapRecoveryCodec)
      ensure (refuse (latest.all (· ≤ report.reportGeneration) = true)
        .invalidManifest)
      emit (.remove (.recovery slot))
      removeRecoverySlots storeId latest rest

def removeUnreferencedRecoverySlots (manifests : ManifestSlots) (storeId : StoreId) :
    StoreAction Unit := do
  let generations ← look fun d =>
    manifests.recoveryReferences.mapM (readReportGeneration d storeId)
  removeRecoverySlots storeId (maxGeneration generations) (unreferenced manifests.recoverySlots)

def validatePendingRetryPreflight (prior cutoff : DurableCutoff) (pendingLen : Nat) :
    Except ManifestStoreError Unit :=
  refuse (pendingLen = 0 ∨ maxPersistedRetryEntries < pendingLen ∨
    prior.journal ≠ cutoff.journal ∨
    prior.appendSequence.val + pendingLen ≠ cutoff.appendSequence.val ∨
    cutoff.endOffset ≤ prior.endOffset) .invalidRetry

/-- Each outcome carries the next sequence and ends behind the one before it. -/
def validatePendingEntries (cutoff : DurableCutoff) :
    U64 → U64 → List PendingRetryOutcome → Except ManifestStoreError Unit
  | _, _, [] => .ok ()
  | expectedSequence, previousEnd, entry :: rest => do
    refuse (entry.appendSequence ≠ expectedSequence ∨ entry.endOffset ≤ previousEnd) .invalidRetry
    match checkedAdd expectedSequence 1 with
    | none => .error .generationExhausted
    | some next => validatePendingEntries cutoff next entry.endOffset rest

def validatePendingRetry (prior cutoff : DurableCutoff) (pending : List PendingRetryOutcome) :
    Except ManifestStoreError Unit := do
  validatePendingRetryPreflight prior cutoff pending.length
  match checkedAdd prior.appendSequence 1 with
  | none => .error .generationExhausted
  | some expectedSequence => validatePendingEntries cutoff expectedSequence prior.endOffset pending
  match pending.getLast? with
  | none => .error .invalidRetry
  | some last =>
    refuse (last.appendSequence ≠ cutoff.appendSequence ∨ last.endOffset ≠ cutoff.endOffset)
      .invalidRetry

/-- Whether a report ends at the floor of a generation or at one of its records. -/
def reportCoveredByActive (report : RecoveryReport) (current : ManifestRecord)
    (journal : ActiveJournal) : Bool :=
  report.sequenceFloor = current.sequenceFloor ∧
    current.sequenceFloor ≤ report.appendSequence ∧
    report.appendSequence ≤ current.cutoff.appendSequence ∧
    report.committedEndOffset ≤ current.cutoff.endOffset ∧
    ((report.appendSequence = current.sequenceFloor ∧
        report.committedEndOffset.val = journalV1HeaderLen) ∨
      ∃ record ∈ journal.records, record.admission.appendSequence = report.appendSequence ∧
        record.endOffset = report.committedEndOffset)

def reportCoveredBySealed (report : RecoveryReport) (entry : SealedGeneration) : Bool :=
  entry.journalGeneration = report.activeGeneration ∧
    entry.sequenceFloor = report.sequenceFloor ∧
    ((report.appendSequence = entry.sequenceFloor ∧
        report.committedEndOffset.val = journalV1HeaderLen) ∨
      (entry.sequenceFloor < report.appendSequence ∧
        report.appendSequence ≤ entry.sequenceCutoff ∧
        journalV1HeaderLen < report.committedEndOffset.val ∧
        report.committedEndOffset ≤ entry.endOffset))

def reportCovered (report : RecoveryReport) (current : ManifestRecord)
    (catalog : GenerationCatalogSnapshot) (journal : ActiveJournal) : Bool :=
  if report.activeGeneration = current.cutoff.journal.generation then
    reportCoveredByActive report current journal
  else catalog.entries.any (reportCoveredBySealed report)

/-- A reference that both manifests carry is checked once in the source; here twice, with the
same answer. -/
def validateRecoveryReportCoverage (manifests : ManifestSlots)
    (inventory : RecoveryInventoryState) (current : ManifestRecord)
    (catalog : GenerationCatalogSnapshot) (journal : ActiveJournal) :
    Except ManifestStoreError Unit :=
  manifests.recoveryReferences.forM fun reference => do
    let report ← referencedRecovery inventory reference
    refuse (current.generation < report.committingManifestGeneration) .invalidManifest
    refuse (reportCovered report current catalog journal = false) .invalidManifest

def convergeRecoveryStaging (artifact : RecoveryArtifact) (storeId : StoreId) :
    StoreAction Unit := do
  let bytes ← look fun d => readRequiredBounded d .recoveryStaging recoveryStateLen
  let report ← ensure ((decodeRecoveryState bytes storeId).mapError mapRecoveryCodec)
  ensure (refuse (report ≠ artifact.report ∨ crc32c bytes ≠ artifact.reference.checksum)
    .invalidManifest)
  emit (.rename .recoveryStaging (.recovery artifact.reference.slot))

def convergeManifestStaging (target : Fin 2) (expected : ManifestRecord) :
    StoreAction (Fin 2) := do
  let bytes ← look fun d => readRequiredBounded d .manifestStaging manifestLen
  ensure (refuse (bytes ≠ encodeManifest expected) .invalidManifest)
  emit (.rename .manifestStaging (.manifest target))
  pure target

/-- Whether the registry still holds exactly the declaration that a record was admitted under. -/
def resolvesTo (registry : SeriesRegistry) (decoded : DecodedDeclarationV1) : Bool :=
  match registry.resolve decoded.seriesId decoded.revision with
  | none => false
  | some declaration => declarationMatches declaration decoded

def validateRecoveredDeclarations (registry : SeriesRegistry)
    (records : List RecoveredAdmissionV1) : Except ManifestStoreError Unit :=
  records.forM fun record =>
    refuse (resolvesTo registry record.admission.declaration = false)
      .historicalDeclarationMismatch

def mapManifestGenesisPreflight : ActiveJournalError → ManifestStoreError
  | .io operation kind => .active (.io operation kind)
  | _ => .unsupportedStoreFormat

end Historian
