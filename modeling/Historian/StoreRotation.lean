import Historian.StoreSlots

namespace Historian

open Wire Checks Files

def checksumFileBounded (d : StoreDirectory) (name : Artifact) (expectedLength : U64) :
    Except ManifestStoreError U32 := do
  refuse (expectedLength = 0 ∨ maxActiveJournalBytes < expectedLength.val) .invalidGeneration
  match d.lookup name with
  | none => .error (.io .read .notFound)
  | some file => do
    refuse (file.length ≠ expectedLength.val) .invalidGeneration
    pure (crc32c file)

/-- The loop of `validateSealedJournal`: the sequence of the last frame and the offset behind it.
Every frame must be admitted under a declaration that the registry holds. -/
def scanSealedFrames (storeId : StoreId) (limits : ActiveJournalLimits)
    (registry : SeriesRegistry) (endOffset : U64) :
    Nat → Nat → U64 → Option AppendSequenceV1 → Bytes →
      Except ManifestStoreError (U64 × Option AppendSequenceV1)
  | 0, _, offset, previous, _ =>
    if endOffset ≤ offset then .ok (offset, previous) else .error .invalidGeneration
  | fuel + 1, count, offset, previous, rest =>
    if endOffset ≤ offset then .ok (offset, previous)
    else do
      refuse (limits.recordLimit < count + 1) .invalidGeneration
      refuse (rest.length < journalV1FramePrefixLen) (.io .read .unexpectedEof)
      let frameLen ← (frameLenFromPrefixV1 (slice rest 0 journalV1FramePrefixLen)
        limits.decode).mapError fun _ => ManifestStoreError.invalidGeneration
      refuse (rest.length < frameLen) (.io .read .unexpectedEof)
      let decoded ← (decodeAdmissionFrameV1 (slice rest 0 frameLen) limits.decode
        previous).mapError fun _ => ManifestStoreError.invalidGeneration
      refuse (decoded.storeId ≠ storeId ∨ resolvesTo registry decoded.declaration = false)
        .invalidGeneration
      let sequence ← (AppendSequenceV1.new decoded.appendSequence).mapError
        fun _ => ManifestStoreError.invalidGeneration
      match checkedAdd offset frameLen with
      | none => .error .invalidGeneration
      | some next => do
        refuse (endOffset < next) .invalidGeneration
        scanSealedFrames storeId limits registry endOffset fuel (count + 1) next (some sequence)
          (rest.drop frameLen)

def validateSealedJournal (d : StoreDirectory) (name : Artifact) (expected : SealedGeneration)
    (storeId : StoreId) (limits : ActiveJournalLimits) (registry : SeriesRegistry) :
    Except ManifestStoreError Unit :=
  match d.lookup name with
  | none => .error (.io .read .notFound)
  | some file => do
    refuse (file.length ≠ expected.artifactLength.val) .invalidGeneration
    refuse (file.length < journalV1HeaderLen) (.io .read .unexpectedEof)
    let headerStore ← (decodeHeader (slice file 0 journalV1HeaderLen)).mapError
      fun _ => ManifestStoreError.invalidGeneration
    refuse (headerStore ≠ storeId) .storeMismatch
    let (offset, previous) ← scanSealedFrames storeId limits registry expected.endOffset file.length
      0 (Fin.ofNat _ journalV1HeaderLen) (floorSequence expected.sequenceFloor)
      (file.drop journalV1HeaderLen)
    refuse (offset ≠ expected.endOffset ∨
      previous.map (·.value) ≠ some expected.sequenceCutoff ∨
      crc32c (slice file 0 offset.val) ≠ expected.artifactChecksum) .invalidGeneration

/-- The catalog entry that an intent leads to, with the checksum of the file at `name`. -/
def expectedSealedEntry (d : StoreDirectory) (name : Artifact) (intent : RotationIntent)
    (sequenceFloor : U64) : Except ManifestStoreError SealedGeneration := do
  let checksum ← checksumFileBounded d name intent.sourceEndOffset
  pure ⟨intent.sourceGeneration, sequenceFloor, intent.sequenceCutoff, intent.sourceEndOffset,
    intent.registryGeneration, intent.sourceEndOffset, checksum⟩

def prepareSealedGeneration (d : StoreDirectory) (intent : RotationIntent) (sequenceFloor : U64)
    (limits : ActiveJournalLimits) (registry : SeriesRegistry) :
    Except ManifestStoreError SealedGeneration := do
  let source : Artifact := .activeJournal intent.sourceGeneration
  refuse (present d (.sealedJournal intent.sourceGeneration) = true) .invalidGeneration
  let entry ← expectedSealedEntry d source intent sequenceFloor
  validateSealedJournal d source entry intent.storeId limits registry
  pure entry

def readRotationIntent (d : StoreDirectory) (storeId : StoreId) :
    Except ManifestStoreError RotationIntent := do
  let bytes ← readRequiredBounded d .rotationIntent rotationIntentLen
  (decodeRotationIntent bytes storeId).mapError mapGenerationCodec

def publishRotationIntent (intent : RotationIntent) : StoreAction Unit := do
  look fun d => refuse (present d .rotationIntent = true) .interruptedPublication
  emit (.put .rotationIntent (encodeRotationIntent intent))
  let readback ← look fun d =>
    readRequiredBounded d .rotationIntent (encodeRotationIntent intent).length
  let decoded ← ensure ((decodeRotationIntent readback intent.storeId).mapError mapGenerationCodec)
  ensure (refuse (decoded ≠ intent) .invalidGeneration)

def publishSealedGeneration (intent : RotationIntent) (expected : SealedGeneration) :
    StoreAction Unit := do
  let target : Artifact := .sealedJournal intent.sourceGeneration
  look fun d => refuse (present d target = true) .invalidGeneration
  let source ← look fun d =>
    match d.lookup (.activeJournal intent.sourceGeneration) with
    | some file => .ok file
    | none => .error (.io .read .notFound)
  ensure (refuse (source.length ≠ intent.sourceEndOffset.val) .invalidGeneration)
  look fun d => refuse (present d .sealedJournalStaging = true) .interruptedPublication
  emit (.put .sealedJournalStaging source)
  ensure (refuse (crc32c source ≠ expected.artifactChecksum) .invalidGeneration)
  let staged ← look fun d => checksumFileBounded d .sealedJournalStaging expected.artifactLength
  ensure (refuse (staged ≠ expected.artifactChecksum) .invalidGeneration)
  emit (.rename .sealedJournalStaging target)
  let published ← look fun d => checksumFileBounded d target expected.artifactLength
  ensure (refuse (published ≠ expected.artifactChecksum) .invalidGeneration)

def cleanupCommittedRotation (sourceGeneration : U64) : StoreAction Unit :=
  removeEach [.activeJournal sourceGeneration, .activeCheckpoint sourceGeneration,
    .rotationIntent, .sealedJournalStaging]

/-- The catalog generation behind the one that a manifest names. -/
def nextCatalogGeneration (reference : Option GenerationCatalogReference) : Option U64 :=
  match reference with
  | some reference => checkedAdd reference.generation 1
  | none => some 1

/-- The catalog entry is the one that the intent announced. -/
def entryMatchesIntent (entry : SealedGeneration) (intent : RotationIntent)
    (sequenceFloor : U64) : Prop :=
  entry.journalGeneration = intent.sourceGeneration ∧ entry.sequenceFloor = sequenceFloor ∧
    entry.sequenceCutoff = intent.sequenceCutoff ∧ entry.endOffset = intent.sourceEndOffset ∧
    entry.registryGeneration = intent.registryGeneration ∧
    entry.artifactLength = intent.sourceEndOffset

instance (entry : SealedGeneration) (intent : RotationIntent) (sequenceFloor : U64) :
    Decidable (entryMatchesIntent entry intent sequenceFloor) :=
  inferInstanceAs (Decidable (_ ∧ _))

/-- The intent was written for exactly this root. -/
def intentMatchesRoot (intent : RotationIntent) (root : ManifestRecord) : Prop :=
  root.cutoff.journal.generation = intent.sourceGeneration ∧
    root.cutoff.appendSequence = intent.sequenceCutoff ∧
    root.cutoff.endOffset = intent.sourceEndOffset ∧
    root.cutoff.checkpointGeneration = intent.sourceCheckpointGeneration ∧
    root.registry.generation = intent.registryGeneration ∧
    nextCatalogGeneration root.catalog = some intent.catalogGeneration

instance (intent : RotationIntent) (root : ManifestRecord) :
    Decidable (intentMatchesRoot intent root) :=
  inferInstanceAs (Decidable (_ ∧ _))

def validateCommittedRotationTransition (d : StoreDirectory) (manifests : ManifestSlots)
    (current : ManifestRecord) (intent : RotationIntent) (storeId : StoreId) :
    Except ManifestStoreError Unit := do
  match manifests.retained.find?
      (fun manifest => manifest.cutoff.journal.generation = intent.sourceGeneration) with
  | none => .error .invalidGeneration
  | some source => do
    let sourceCatalog ← readManifestCatalog d source storeId
    match current.catalog with
    | none => .error .invalidGeneration
    | some reference => do
      let currentCatalog ← readReferencedCatalog d reference storeId
      match currentCatalog.entries.getLast? with
      | none => .error .invalidGeneration
      | some last => do
        validateCatalogAdvancingTransition source current sourceCatalog currentCatalog
        refuse (¬intentMatchesRoot intent { source with catalog := sourceCatalog.reference } ∨
          current.cutoff.journal.generation ≠ intent.successorGeneration ∨
          current.cutoff.checkpointGeneration ≠ 1 ∨
          (currentCatalog.reference.map (·.generation)) ≠ some intent.catalogGeneration ∨
          ¬entryMatchesIntent last intent source.sequenceFloor) .invalidGeneration
        validateManifestCatalogBinding current currentCatalog

/-- The sealed copies of the source that an abandoned rotation left, in the order in which they
are looked for; both must give the same catalog entry. -/
def abandonedSealed (config : ManifestStoreConfig) (registry : SeriesRegistry)
    (intent : RotationIntent) (sequenceFloor : U64) (d : StoreDirectory) :
    Option SealedGeneration → List Artifact → Except ManifestStoreError (Option SealedGeneration)
  | found, [] => .ok found
  | found, name :: rest =>
    if present d name = false then abandonedSealed config registry intent sequenceFloor d found rest
    else do
      let entry ← expectedSealedEntry d name intent sequenceFloor
      validateSealedJournal d name entry config.storeId config.journalLimits registry
      refuse (∃ prior ∈ found, prior ≠ entry) .invalidGeneration
      abandonedSealed config registry intent sequenceFloor d (some entry) rest

/-- The configuration of one generation of the store's journal. -/
def generationConfig (storeId : StoreId) (limits : ActiveJournalLimits)
    (generation sequenceFloor : U64) : Except ManifestStoreError ActiveJournalConfig :=
  ((ActiveJournalConfig.new storeId .openExisting limits).manifestExisting.manifestGeneration
    generation sequenceFloor).mapError .active

/-- The cutoff of the successor that an abandoned rotation left. Half of one is refused. -/
def abandonedSuccessor (config : ManifestStoreConfig) (intent : RotationIntent) :
    StoreAction (Option DurableCutoff) := do
  let (journalExists, checkpointExists) ← look fun d =>
    .ok (present d (.activeJournal intent.successorGeneration),
      present d (.activeCheckpoint intent.successorGeneration))
  if journalExists || checkpointExists then do
    ensure (refuse (journalExists = false ∨ checkpointExists = false) .invalidGeneration)
    let successorConfig ← ensure (generationConfig config.storeId config.journalLimits
      intent.successorGeneration intent.sequenceCutoff)
    let successor ← (ActiveJournal.open successorConfig).mapError .active
    ensure (refuse (successor.records ≠ []) .invalidGeneration)
    pure (some successor.durableCutoff)
  else pure none

/-- The catalogs that an abandoned rotation left: the prior one and the entry of the source. -/
def abandonedCatalog (config : ManifestStoreConfig) (intent : RotationIntent)
    (priorCatalog : GenerationCatalogSnapshot) (sealedEntry : Option SealedGeneration)
    (slot : UInt8) (d : StoreDirectory) :
    Option GenerationCatalogReference → List Artifact →
      Except ManifestStoreError (Option GenerationCatalogReference)
  | found, [] => .ok found
  | found, name :: rest =>
    if present d name = false then
      abandonedCatalog config intent priorCatalog sealedEntry slot d found rest
    else do
      let bytes ← readRequiredBounded d name maxGenerationCatalogBytes
      let decoded ← (decodeCatalog bytes slot config.storeId).mapError mapGenerationCodec
      match decoded.reference with
      | none => .error .invalidGeneration
      | some reference => do
        refuse (reference.generation ≠ intent.catalogGeneration ∨ sealedEntry = none ∨
          decoded.entries.getLast? ≠ sealedEntry ∨
          priorCatalog.entries.length + 1 ≠ decoded.entries.length ∨
          decoded.entries.take priorCatalog.entries.length ≠ priorCatalog.entries ∨
          (∃ prior ∈ found, prior ≠ reference)) .invalidGeneration
        abandonedCatalog config intent priorCatalog sealedEntry slot d (some reference) rest

/-- The manifest that an abandoned rotation staged. -/
def abandonedManifest (config : ManifestStoreConfig) (current : ManifestRecord)
    (intent : RotationIntent) (successorCutoff : Option DurableCutoff)
    (catalogReference : Option GenerationCatalogReference) (d : StoreDirectory) :
    Except ManifestStoreError Unit :=
  if present d .manifestStaging = false then .ok ()
  else do
    let bytes ← readRequiredBounded d .manifestStaging manifestLen
    let decoded ← decodeManifest bytes config.storeId
    refuse (successorCutoff ≠ some decoded.cutoff ∨
      current.generation.val + 1 ≠ decoded.generation.val ∨
      decoded.registry ≠ current.registry ∨ decoded.retry ≠ current.retry ∨
      decoded.recovery ≠ current.recovery ∨ decoded.sequenceFloor ≠ intent.sequenceCutoff ∨
      decoded.catalog ≠ catalogReference) .invalidGeneration

/-- The files of an abandoned rotation, in the order in which they are removed. -/
def abandonedFiles (intent : RotationIntent) (slot : UInt8) : List Artifact :=
  [.manifestStaging, .catalogStaging, .catalog slot, .sealedJournalStaging,
    .sealedJournal intent.sourceGeneration, .activeJournal intent.successorGeneration,
    .activeCheckpoint intent.successorGeneration, .rotationIntent]

/-- Every check of a rollback, and the catalog slot that the rotation wrote to. -/
def checkAbandonedRotation (config : ManifestStoreConfig) (manifests : ManifestSlots)
    (current : ManifestRecord) (intent : RotationIntent) : StoreAction UInt8 := do
  look fun d => refuse (¬intentMatchesRoot intent current ∨ present d .registryStaging = true ∨
    present d .retryStaging = true) .invalidGeneration
  let priorCatalog ← look fun d => readManifestCatalog d current config.storeId
  let inventory ← look inspectInventory
  ensure (validateGenerationInventory inventory current priorCatalog (some intent))
  let registry ← look fun d => readReferencedRegistry d current.registry config.storeId
  let sourceConfig ← ensure (generationConfig config.storeId config.journalLimits
    intent.sourceGeneration current.sequenceFloor)
  let source ← (ActiveJournal.open sourceConfig).mapError .active
  ensure (refuse (source.durableCutoff ≠ current.cutoff) .invalidGeneration)
  ensure (validateRecoveredDeclarations registry source.records)
  let sealedEntry ← look fun d => abandonedSealed config registry intent current.sequenceFloor d
    none [.sealedJournal intent.sourceGeneration, .sealedJournalStaging]
  let successorCutoff ← abandonedSuccessor config intent
  let slot ← ensure (candidateSlot manifests.catalogSlots .invalidGeneration)
  let catalogReference ← look fun d => abandonedCatalog config intent priorCatalog sealedEntry slot
    d none [.catalog slot, .catalogStaging]
  look (abandonedManifest config current intent successorCutoff catalogReference)
  pure slot

def rollbackUncommittedRotation (config : ManifestStoreConfig) (manifests : ManifestSlots)
    (current : ManifestRecord) (intent : RotationIntent) : StoreAction Unit := do
  let slot ← checkAbandonedRotation config manifests current intent
  removeEach (abandonedFiles intent slot)

end Historian
