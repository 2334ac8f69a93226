import Historian.StoreRotation

namespace Historian

open Wire Checks Files

/-- An open store. Paths, locks and file handles are those of its directory. -/
structure ManifestStore where
  journal : ActiveJournal
  registry : SeriesRegistry
  retry : RetryStateSnapshot
  catalog : GenerationCatalogSnapshot
  recoveryReport : Option RecoveryReport
  manifestSlots : ManifestSlots
  currentSlot : Fin 2
  current : ManifestRecord
  writeState : StoreWriteState

structure PreparedManifestPublication where
  record : ManifestRecord
  target : Fin 2
  bytes : Bytes

structure PreparedRetryPublication where
  reference : RetryArtifactReference
  bytes : Bytes

structure PreparedRegistryPublication where
  reference : RegistryReference
  bytes : Bytes

structure PreparedCatalogPublication where
  snapshot : GenerationCatalogSnapshot
  bytes : Bytes

structure RotationPlan where
  intent : RotationIntent
  sealedEntry : SealedGeneration
  successorConfig : ActiveJournalConfig
  catalog : PreparedCatalogPublication
  manifest : PreparedManifestPublication

structure PendingCommitPlan where
  cutoff : DurableCutoff
  retry : RetryStateSnapshot
  retryPublication : PreparedRetryPublication
  manifest : PreparedManifestPublication

/-- What a registry operation comes to: nothing to publish, or a new snapshot and its root. -/
inductive RegistryPlan (α : Type) where
  | unchanged (output : α)
  | publish (output : α) (candidate : SeriesRegistry) (registry : PreparedRegistryPublication)
      (manifest : PreparedManifestPublication)

/-- The result of a method, the store behind it, and the changes that it made to the directory. -/
structure Answer (α : Type) where
  result : Except ManifestStoreError α
  store : ManifestStore
  effects : List StoreEffect

def checkedNext (generation : U64) : Except ManifestStoreError U64 :=
  match checkedAdd generation 1 with
  | some next => .ok next
  | none => .error .generationExhausted

/-- The first manifest slot that is empty. -/
def ManifestSlots.firstEmpty (slots : ManifestSlots) : Option (Fin 2) :=
  if slots.first = none then some 0 else if slots.second = none then some 1 else none

namespace ManifestStore

variable (store : ManifestStore)

def storeId : StoreId := store.current.cutoff.journal.storeId

def commit : ManifestCommit := store.current.commit

def ensureUsable : Except ManifestStoreError Unit :=
  match store.writeState with
  | .writable => .ok ()
  | .reopenRequired => .error .reopenRequired
  | .faulted => .error .faulted

def recordActiveError : ManifestStore :=
  match store.journal.writeState with
  | .writable => store
  | state => { store with writeState := state }

def recordTerminalError (error : ManifestStoreError) : ManifestStore :=
  { store with writeState :=
      if error = .reopenRequired ∨ error = .active .reopenRequired then .reopenRequired
      else .faulted }

def refused {α : Type} (error : ManifestStoreError) : Answer α := ⟨.error error, store, []⟩

def settled {α : Type} (output : α) : Answer α := ⟨.ok output, store, []⟩

/-- A part that changes the directory. When it fails the method ends with `onError`. -/
def attempt {α β : Type} (onError : ManifestStoreError → ManifestStore) (part : StoreAction β)
    (next : β → StoreDirectory → Answer α) (d : StoreDirectory) : Answer α :=
  match part d with
  | (.error error, effects) => ⟨.error error, onError error, effects⟩
  | (.ok x, effects) =>
    let answer := next x (applyAll d effects)
    { answer with effects := effects ++ answer.effects }

def prepareManifest (record : ManifestRecord) :
    Except ManifestStoreError PreparedManifestPublication := do
  let target ← if record.generation = 1 then
      match store.manifestSlots.firstEmpty with
      | some slot => .ok slot
      | none => .error .invalidManifest
    else .ok (1 - store.currentSlot)
  let bytes := encodeManifest record
  refuse (bytes.length ≠ manifestLen) .invalidManifest
  pure ⟨record, target, bytes⟩

def publishPreparedManifest (prepared : PreparedManifestPublication) :
    StoreAction (Fin 2) := do
  publishReusableSlot .manifestStaging (.manifest prepared.target) prepared.bytes manifestLen
    fun candidate => do
      let decoded ← decodeManifest candidate store.storeId
      refuse (decoded ≠ prepared.record) .invalidManifest
  pure prepared.target

def prepareRegistrySnapshot (generation : U64) (snapshot : SeriesRegistrySnapshot) :
    Except ManifestStoreError PreparedRegistryPublication := do
  let slot ← candidateSlot store.manifestSlots.registrySlots .invalidRegistry
  let bytes ← encodeRegistrySnapshot generation snapshot
  pure ⟨⟨slot, generation, Fin.ofNat _ bytes.length, crc32c bytes⟩, bytes⟩

def publishPreparedRegistrySnapshot (snapshot : SeriesRegistrySnapshot)
    (prepared : PreparedRegistryPublication) : StoreAction Unit :=
  publishReusableSlot .registryStaging (.registry prepared.reference.slot) prepared.bytes
    maxRegistrySnapshotBytes fun candidate => do
      let decoded ← decodeRegistrySnapshotAtSlot candidate prepared.reference.slot
      refuse (decoded.reference ≠ prepared.reference ∨ decoded.registry.snapshot ≠ snapshot)
        .invalidRegistry

def selectRetryCandidateSlot : Except ManifestStoreError UInt8 :=
  candidateSlot store.manifestSlots.retrySlots .invalidRetry

def prepareRetrySnapshot (reference : RetryStateReference) (snapshot : RetryStateSnapshot) :
    Except ManifestStoreError PreparedRetryPublication := do
  refuse (snapshot.reference ≠ some reference ∨ 3 ≤ reference.slot) .invalidRetry
  let selected ← store.selectRetryCandidateSlot
  refuse (selected ≠ reference.slot) .invalidRetry
  let bytes ← (encodeRetryState snapshot).mapError mapRetryCodec
  pure ⟨⟨reference, Fin.ofNat _ bytes.length, crc32c bytes⟩, bytes⟩

def publishPreparedRetrySnapshot (snapshot : RetryStateSnapshot)
    (prepared : PreparedRetryPublication) : StoreAction Unit :=
  publishReusableSlot .retryStaging (.retry prepared.reference.state.slot) prepared.bytes
    maxRetryStateBytes fun candidate => do
      let (reference, decoded) ← (decodeRetryStateAtSlot candidate prepared.reference.state.slot
        snapshot.storeId snapshot.options).mapError mapRetryCodec
      refuse (reference ≠ prepared.reference ∨ decoded ≠ snapshot) .invalidRetry

def selectCatalogCandidateSlot : Except ManifestStoreError UInt8 :=
  candidateSlot store.manifestSlots.catalogSlots .invalidGeneration

def prepareCatalogSnapshot (slot : UInt8) (generation : U64)
    (provisional : GenerationCatalogSnapshot) :
    Except ManifestStoreError PreparedCatalogPublication := do
  refuse (3 ≤ slot) .invalidGeneration
  let selected ← store.selectCatalogCandidateSlot
  refuse (selected ≠ slot ∨
    ¬∃ reference ∈ provisional.reference, reference.slot = slot ∧
      reference.generation = generation) .invalidGeneration
  let provisionalBytes ← (encodeCatalog provisional).mapError mapGenerationCodec
  let reference : GenerationCatalogReference :=
    ⟨slot, generation, Fin.ofNat _ provisionalBytes.length, crc32c provisionalBytes⟩
  let snapshot ← (provisional.withReference reference).mapError mapGenerationCodec
  let bytes ← (encodeCatalog snapshot).mapError mapGenerationCodec
  refuse (bytes ≠ provisionalBytes) .invalidGeneration
  pure ⟨snapshot, bytes⟩

def publishPreparedCatalogSnapshot (prepared : PreparedCatalogPublication) :
    StoreAction Unit := do
  let reference ← ensure (match prepared.snapshot.reference with
    | some reference => .ok reference
    | none => .error .invalidGeneration)
  publishReusableSlot .catalogStaging (.catalog reference.slot) prepared.bytes
    maxGenerationCatalogBytes fun candidate => do
      let decoded ← (decodeCatalog candidate reference.slot prepared.snapshot.storeId).mapError
        mapGenerationCodec
      refuse (decoded ≠ prepared.snapshot) .invalidGeneration

def adoptPublishedManifest (slot : Fin 2) (record : ManifestRecord) : ManifestStore :=
  { store with
    manifestSlots := store.manifestSlots.set slot record
    currentSlot := slot
    current := record }

/-- The manifest is published, and what no manifest names any more is removed before the store
adopts it. -/
def publishAndAdoptPreparedManifest (prepared : PreparedManifestPublication) :
    StoreAction ManifestStore := do
  let slot ← store.publishPreparedManifest prepared
  let slots := store.manifestSlots.set slot prepared.record
  removeUnreferencedCatalogSlots slots
  removeUnreferencedRetrySlots slots
  removeUnreferencedRecoverySlots slots store.storeId
  pure (store.adoptPublishedManifest slot prepared.record)

def nextAppendSequence : Except ManifestStoreError AppendSequenceV1 := do
  store.ensureUsable
  store.journal.nextAppendSequence.mapError .active

def preflightHistoricalDeclaration (declaration : SeriesDeclaration) :
    Except ManifestStoreError Unit := do
  store.ensureUsable
  refuse (store.registry.resolve declaration.seriesId declaration.revision ≠ some declaration)
    .historicalDeclarationMismatch

def append (frame : PreparedFrameV1) (d : StoreDirectory) : Answer U64 :=
  match store.preflightHistoricalDeclaration frame.admission.declaration with
  | .error error => store.refused error
  | .ok () =>
    attempt (fun _ => store.recordActiveError) ((store.journal.append frame).mapError .active)
      (fun appended _ => ({ store with journal := appended.2 } : ManifestStore).settled appended.1)
      d

def requiresRotation (frameLen : Nat) : Except ManifestStoreError Bool := do
  store.ensureUsable
  refuse (store.journal.limits.recordLimit = 0 ∨
    store.journal.limits.activeBytes < journalV1HeaderLen + frameLen) (.active .frameTooLarge)
  pure (!store.journal.canFit frameLen)

/-- The intent of a rotation, written for the store's root. -/
def rotationIntent (successorGeneration catalogGeneration : U64) : RotationIntent :=
  let cutoff := store.journal.durableCutoff
  { storeId := cutoff.journal.storeId
    sourceGeneration := cutoff.journal.generation
    successorGeneration := successorGeneration
    sequenceCutoff := cutoff.appendSequence
    sourceEndOffset := cutoff.endOffset
    registryGeneration := store.current.registry.generation
    catalogGeneration := catalogGeneration
    sourceCheckpointGeneration := cutoff.checkpointGeneration }

def prepareRotation (d : StoreDirectory) : Except ManifestStoreError RotationPlan := do
  let cutoff := store.journal.durableCutoff
  refuse (store.journal.records = [] ∨ cutoff ≠ store.current.cutoff ∨
    store.journal.lastAppendSequence ≠ cutoff.appendSequence ∨
    store.journal.activeBytes ≠ cutoff.endOffset) .invalidGeneration
  refuse (maxSealedGenerations ≤ store.catalog.entries.length) .generationCatalogFull
  let successorGeneration ← checkedNext cutoff.journal.generation
  let catalogGeneration ← match store.catalog.reference with
    | none => pure 1
    | some reference => checkedNext reference.generation
  let catalogSlot ← store.selectCatalogCandidateSlot
  let manifestGeneration ← checkedNext store.current.generation
  let intent := store.rotationIntent successorGeneration catalogGeneration
  let sealedEntry ← prepareSealedGeneration d intent store.current.sequenceFloor
    store.journal.limits store.registry
  let provisional ← (store.catalog.advance ⟨catalogSlot, catalogGeneration, 1, 1⟩
    sealedEntry).mapError mapGenerationCodec
  let catalog ← store.prepareCatalogSnapshot catalogSlot catalogGeneration provisional
  let successorConfig ← ((ActiveJournalConfig.new cutoff.journal.storeId .createNew
    store.journal.limits).manifestCreate.manifestGeneration successorGeneration
    cutoff.appendSequence).mapError .active
  let manifest ← store.prepareManifest { store.current with
    generation := manifestGeneration
    cutoff := ⟨⟨cutoff.journal.storeId, successorGeneration⟩, 1, cutoff.appendSequence,
      Fin.ofNat _ journalV1HeaderLen⟩
    sequenceFloor := cutoff.appendSequence
    catalog := catalog.snapshot.reference }
  pure ⟨intent, sealedEntry, successorConfig, catalog, manifest⟩

/-- The part of a rotation up to its commit, with the store that has adopted the successor. -/
def publishRotation (plan : RotationPlan) : StoreAction ManifestStore := do
  publishRotationIntent plan.intent
  publishSealedGeneration plan.intent plan.sealedEntry
  let successor ← (ActiveJournal.open plan.successorConfig).mapError .active
  ensure (refuse (successor.durableCutoff ≠ plan.manifest.record.cutoff) .invalidGeneration)
  publishPreparedCatalogSnapshot plan.catalog
  let slot ← store.publishPreparedManifest plan.manifest
  pure { store.adoptPublishedManifest slot plan.manifest.record with
    journal := successor
    catalog := plan.catalog.snapshot }

/-- The part of a rotation behind its commit, on the store that has adopted the successor. -/
def finishRotation (sourceGeneration : U64) : StoreAction Unit := do
  cleanupCommittedRotation sourceGeneration
  removeUnreferencedCatalogSlots store.manifestSlots
  removeUnreferencedRetrySlots store.manifestSlots
  removeUnreferencedRecoverySlots store.manifestSlots store.storeId

def rotate (d : StoreDirectory) : Answer ManifestCommit :=
  match store.ensureUsable >>= fun _ => store.prepareRotation d with
  | .error error => store.refused error
  | .ok plan =>
    attempt store.recordTerminalError (store.publishRotation plan) (fun adopted =>
      attempt adopted.recordTerminalError (adopted.finishRotation plan.intent.sourceGeneration)
        fun _ _ => adopted.settled adopted.commit) d

def prepareSyncedPending (cutoff : DurableCutoff) (pending : List PendingRetryOutcome) :
    Except ManifestStoreError PendingCommitPlan := do
  validatePendingRetry store.current.cutoff cutoff pending
  let generation ← checkedNext store.current.generation
  let retryGeneration ← checkedNext store.current.retry.state.generation
  let retrySlot ← store.selectRetryCandidateSlot
  let reference : RetryStateReference := ⟨retrySlot, retryGeneration⟩
  let anticipated : ManifestCommit := ⟨generation, store.current.registry.generation,
    store.current.registry.slot, cutoff, reference, store.current.sequenceFloor,
    store.current.catalog⟩
  let candidate ← (store.retry.advance reference pending anticipated).mapError
    fun _ => ManifestStoreError.invalidRetry
  let retryPublication ← store.prepareRetrySnapshot reference candidate
  let manifest ← store.prepareManifest { store.current with
    generation := generation
    cutoff := cutoff
    retry := retryPublication.reference }
  pure ⟨cutoff, candidate, retryPublication, manifest⟩

def commitSyncedPending (plan : PendingCommitPlan) : StoreAction ManifestStore := do
  publishPreparedRetrySnapshot plan.retry plan.retryPublication
  let adopted ← store.publishAndAdoptPreparedManifest plan.manifest
  pure { adopted with retry := plan.retry }

/-- The plan of a synchronisation, or none when the root is already at the journal's end. -/
def planSync (pending : List PendingRetryOutcome) :
    Except ManifestStoreError (Option PendingCommitPlan) := do
  store.ensureUsable
  refuse (maxPersistedRetryEntries < pending.length) .invalidRetry
  let anticipated ← store.journal.pendingDurableCutoff.mapError .active
  if anticipated = store.current.cutoff then do
    refuse (pending ≠ []) .invalidRetry
    pure none
  else do
    let plan ← store.prepareSyncedPending anticipated pending
    pure (some plan)

def syncPending (pending : List PendingRetryOutcome) (d : StoreDirectory) :
    Answer (ManifestCommit × RetryStateSnapshot) :=
  match store.planSync pending with
  | .error error => store.refused error
  | .ok none => store.settled (store.commit, store.retry)
  | .ok (some plan) =>
    attempt (fun _ => store.recordActiveError) (store.journal.syncPending.mapError .active)
      (fun synced =>
        let store := { store with journal := synced.2 }
        attempt store.recordTerminalError (do
          ensure (refuse (synced.1 ≠ plan.cutoff) .invalidRetry)
          store.commitSyncedPending plan)
          fun adopted _ => adopted.settled (adopted.commit, adopted.retry)) d

section

variable {α : Type} (operation : SeriesRegistry → Except ModelError (α × SeriesRegistry))

def planRegistry : Except ManifestStoreError (RegistryPlan α) := do
  store.ensureUsable
  let restored ← restoreSnapshot store.registry.snapshot
  let (output, candidate) ← (operation restored).mapError .model
  if candidate.snapshot = restored.snapshot then pure (.unchanged output)
  else do
    let registryGeneration ← checkedNext store.current.registry.generation
    let manifestGeneration ← checkedNext store.current.generation
    let registry ← store.prepareRegistrySnapshot registryGeneration candidate.snapshot
    let manifest ← store.prepareManifest { store.current with
      generation := manifestGeneration
      registry := registry.reference
      cutoff := store.journal.durableCutoff }
    pure (.publish output candidate registry manifest)

def publishRegistry (candidate : SeriesRegistry) (registry : PreparedRegistryPublication)
    (manifest : PreparedManifestPublication) : StoreAction ManifestStore := do
  publishPreparedRegistrySnapshot candidate.snapshot registry
  let adopted ← store.publishAndAdoptPreparedManifest manifest
  pure { adopted with registry := candidate }

def applyRegistry (d : StoreDirectory) : Answer (α × ManifestCommit) :=
  match store.planRegistry operation with
  | .error error => store.refused error
  | .ok (.unchanged output) => store.settled (output, store.commit)
  | .ok (.publish output candidate registry manifest) =>
    attempt store.recordTerminalError (store.publishRegistry candidate registry manifest)
      (fun adopted _ => adopted.settled (output, adopted.commit)) d

end

def register (seriesId : SeriesId) (binding : SeriesBinding) (payload : SeriesDeclarationPayload)
    (evidence : DeclarationEvidence) :
    StoreDirectory → Answer (SeriesDeclaration × ManifestCommit) :=
  store.applyRegistry fun registry => registry.register seriesId binding payload evidence

def revise (seriesId : SeriesId) (expectedRevision : DeclarationRevision)
    (payload : SeriesDeclarationPayload) (evidence : DeclarationEvidence) :
    StoreDirectory → Answer (SeriesDeclaration × ManifestCommit) :=
  store.applyRegistry fun registry => registry.revise seriesId expectedRevision payload evidence

def retire (seriesId : SeriesId) (expectedRevision : DeclarationRevision)
    (evidence : DeclarationEvidence) :
    StoreDirectory → Answer (SeriesRetirement × ManifestCommit) :=
  store.applyRegistry fun registry => registry.retire seriesId expectedRevision evidence

end ManifestStore

end Historian
