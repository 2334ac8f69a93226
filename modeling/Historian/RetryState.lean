import Historian.SourceEvidence
import Historian.ManifestCommit

namespace Historian

open Checks

def maxPersistedRetryEntries : Nat := 4096

/-- Both tiers hold at least one entry and together at most the persisted maximum. -/
structure RetryPersistenceOptions where
  replayCapacity : Nat
  guardCapacity : Nat
  replay_pos : 0 < replayCapacity
  guard_pos : 0 < guardCapacity
  bounded : replayCapacity + guardCapacity ≤ maxPersistedRetryEntries
  deriving DecidableEq

def RetryPersistenceOptions.new (replayCapacity guardCapacity : Nat) :
    Option RetryPersistenceOptions :=
  if h : 0 < replayCapacity ∧ 0 < guardCapacity ∧
      replayCapacity + guardCapacity ≤ maxPersistedRetryEntries then
    some ⟨replayCapacity, guardCapacity, h.1, h.2.1, h.2.2⟩
  else none

/-- One append of the writer that is not yet part of a durable snapshot. -/
structure PendingRetryOutcome where
  qualification : RetryQualification
  appendSequence : U64
  endOffset : U64
  deriving DecidableEq

structure RetryReplayOutcome where
  qualification : RetryQualification
  appendSequence : U64
  endOffset : U64
  committed : ManifestCommit
  deriving DecidableEq

structure RetryGuardEntry where
  qualification : RetryQualification
  appendSequence : U64
  deriving DecidableEq

inductive RetryStateMatch where
  | replay (outcome : RetryReplayOutcome)
  | expired
  | conflict
  | fresh
  deriving DecidableEq

/-- Outcomes that can still be replayed, and older entries that only guard their keys. -/
structure RetryStateSnapshot where
  storeId : StoreId
  options : RetryPersistenceOptions
  reference : Option RetryStateReference
  replay : List RetryReplayOutcome
  guard : List RetryGuardEntry
  deriving DecidableEq

inductive RetryStateCodecError where
  | invalid | storeMismatch | optionsMismatch
  deriving DecidableEq, Repr

def RetryStateSnapshot.empty (storeId : StoreId) (options : RetryPersistenceOptions) :
    RetryStateSnapshot :=
  ⟨storeId, options, none, [], []⟩

def RetryStateSnapshot.emptyPersisted (storeId : StoreId) (options : RetryPersistenceOptions)
    (reference : RetryStateReference) : RetryStateSnapshot :=
  ⟨storeId, options, some reference, [], []⟩

/-- Every qualification that a snapshot retains, replay tier first. -/
def RetryStateSnapshot.retained (snapshot : RetryStateSnapshot) : List RetryQualification :=
  snapshot.replay.map (·.qualification) ++ snapshot.guard.map (·.qualification)

def classifyGuard (qualification : RetryQualification) : List RetryGuardEntry → RetryStateMatch
  | [] => .fresh
  | entry :: rest =>
    match entry.qualification.classify qualification with
    | .equivalent => .expired
    | .conflict => .conflict
    | .distinct => classifyGuard qualification rest

def classifyReplay (qualification : RetryQualification) (guard : List RetryGuardEntry) :
    List RetryReplayOutcome → RetryStateMatch
  | [] => classifyGuard qualification guard
  | outcome :: rest =>
    match outcome.qualification.classify qualification with
    | .equivalent => .replay outcome
    | .conflict => .conflict
    | .distinct => classifyReplay qualification guard rest

/-- The first entry that is not distinct decides, replay tier before guard tier. -/
def RetryStateSnapshot.classify (snapshot : RetryStateSnapshot)
    (qualification : RetryQualification) : RetryStateMatch :=
  classifyReplay qualification snapshot.guard snapshot.replay

/-- Guards are older than replay outcomes: their sequences increase from zero. -/
def validateGuardOrder : U64 → List RetryGuardEntry → Except RetryStateCodecError U64
  | previous, [] => .ok previous
  | previous, entry :: rest => do
    refuse (entry.appendSequence = 0 ∨ entry.appendSequence ≤ previous) .invalid
    validateGuardOrder entry.appendSequence rest

/-- The values of the outcome before the one that is checked. -/
structure ReplayProgress where
  previous : U64
  previousEnd : U64
  previousJournal : U64
  previousManifest : U64
  previousRegistry : U64
  previousCheckpoint : U64
  previousCutoffSequence : U64
  previousRetryGeneration : U64

def RetryReplayOutcome.progress (outcome : RetryReplayOutcome) : ReplayProgress :=
  let commit := outcome.committed
  let cutoff := commit.durableCutoff
  ⟨outcome.appendSequence, outcome.endOffset, cutoff.journal.generation,
    commit.manifestGeneration, commit.registryGeneration, cutoff.checkpointGeneration,
    cutoff.appendSequence, commit.retryState.generation⟩

def validateOutcome (snapshot : RetryStateSnapshot) (before : ReplayProgress)
    (outcome : RetryReplayOutcome) : Except RetryStateCodecError Unit := do
  let commit := outcome.committed
  let cutoff := commit.durableCutoff
  let retry := commit.retryState
  refuse (outcome.appendSequence = 0 ∨ outcome.appendSequence ≤ before.previous ∨
    outcome.endOffset = 0 ∨ commit.manifestGeneration = 0 ∨ commit.registryGeneration = 0 ∨
    3 ≤ commit.registrySlot) .invalid
  refuse (cutoff.journal.storeId ≠ snapshot.storeId ∨ cutoff.journal.generation = 0 ∨
    cutoff.checkpointGeneration = 0 ∨ cutoff.appendSequence = 0 ∨ cutoff.endOffset = 0 ∨
    cutoff.appendSequence < outcome.appendSequence ∨ cutoff.endOffset < outcome.endOffset ∨
    (outcome.appendSequence = cutoff.appendSequence ∧ outcome.endOffset ≠ cutoff.endOffset) ∨
    (outcome.appendSequence < cutoff.appendSequence ∧ cutoff.endOffset ≤ outcome.endOffset) ∨
    3 ≤ retry.slot ∨ retry.generation = 0 ∨
    commit.manifestGeneration < commit.registryGeneration ∨
    commit.manifestGeneration < retry.generation ∨
    (cutoff.journal.generation = before.previousJournal ∧
      outcome.endOffset ≤ before.previousEnd) ∨
    cutoff.journal.generation < before.previousJournal ∨
    commit.manifestGeneration < before.previousManifest ∨
    commit.registryGeneration < before.previousRegistry ∨
    (cutoff.journal.generation = before.previousJournal ∧
      cutoff.checkpointGeneration < before.previousCheckpoint) ∨
    cutoff.appendSequence < before.previousCutoffSequence ∨
    retry.generation < before.previousRetryGeneration ∨
    (∃ current ∈ snapshot.reference, current.generation < retry.generation)) .invalid
  if cutoff.journal.generation.val = activeJournalGeneration then
    refuse (commit.sequenceFloor ≠ 0 ∨ commit.catalog ≠ none) .invalid
  else
    refuse (commit.sequenceFloor = 0 ∨ commit.catalog = none ∨
      cutoff.appendSequence < commit.sequenceFloor) .invalid

def validateReplay (snapshot : RetryStateSnapshot) :
    ReplayProgress → List RetryReplayOutcome → Except RetryStateCodecError Unit
  | _, [] => .ok ()
  | before, outcome :: rest => do
    validateOutcome snapshot before outcome
    validateReplay snapshot outcome.progress rest

/-- No qualification may share scope and key with one listed before it. -/
def validateDistinct : List RetryQualification → List RetryQualification →
    Except RetryStateCodecError Unit
  | _, [] => .ok ()
  | retained, qualification :: rest => do
    refuse (retained.any (fun prior => prior.classify qualification ≠ .distinct) = true) .invalid
    validateDistinct (retained ++ [qualification]) rest

def validateState (snapshot : RetryStateSnapshot) : Except RetryStateCodecError Unit := do
  refuse (snapshot.options.replayCapacity < snapshot.replay.length ∨
    snapshot.options.guardCapacity < snapshot.guard.length ∨
    maxPersistedRetryEntries < snapshot.replay.length + snapshot.guard.length ∨
    (∃ reference ∈ snapshot.reference, 3 ≤ reference.slot ∨ reference.generation = 0)) .invalid
  let previous ← validateGuardOrder 0 snapshot.guard
  validateReplay snapshot ⟨previous, 0, 0, 0, 0, 0, 0, 0⟩ snapshot.replay
  validateDistinct [] snapshot.retained

/-- Consecutive sequences without a hole, none above the cutoff. -/
def validateChronology (cutoff : U64) : U64 → List U64 → Except RetryStateCodecError Unit
  | _, [] => .ok ()
  | previous, sequence :: rest => do
    refuse (previous.val + 1 ≠ sequence.val ∨ cutoff < sequence) .invalid
    validateChronology cutoff sequence rest

def validateCommitProgression (prior current : ManifestCommit) :
    Except RetryStateCodecError Unit :=
  let priorReference := prior.retryState
  let currentReference := current.retryState
  if currentReference.generation = priorReference.generation then
    refuse (current ≠ prior) .invalid
  else
    let priorCutoff := prior.durableCutoff
    let currentCutoff := current.durableCutoff
    let crossesGeneration := currentCutoff.journal.generation ≠ priorCutoff.journal.generation
    refuse (priorReference.generation.val + 1 ≠ currentReference.generation.val ∨
      currentReference.slot = priorReference.slot ∨
      current.manifestGeneration ≤ prior.manifestGeneration ∨
      currentCutoff.appendSequence ≤ priorCutoff.appendSequence ∨
      (¬crossesGeneration ∧
        (priorCutoff.checkpointGeneration.val + 1 ≠ currentCutoff.checkpointGeneration.val ∨
          currentCutoff.endOffset ≤ priorCutoff.endOffset)) ∨
      (crossesGeneration ∧
        (priorCutoff.journal.generation.val + 1 ≠ currentCutoff.journal.generation.val ∨
          current.sequenceFloor ≠ priorCutoff.appendSequence ∨ current.catalog = none)) ∨
      current.registryGeneration < prior.registryGeneration ∨
      (current.registryGeneration = prior.registryGeneration ∧
        current.registrySlot ≠ prior.registrySlot)) .invalid

/-- Whether a frame of an earlier generation is accounted for: by the catalog when it is
known, and otherwise by the root naming one. -/
def coveredBySealed (root : ManifestCommit) (catalog : Option GenerationCatalogSnapshot)
    (generation appendSequence endOffset : U64) : Bool :=
  match catalog with
  | none => root.catalog.isSome
  | some catalog => catalog.coversCommit generation appendSequence endOffset

def validateRootOutcome (root : ManifestCommit) (catalog : Option GenerationCatalogSnapshot)
    (outcome : RetryReplayOutcome) : Except RetryStateCodecError Unit :=
  let commit := outcome.committed
  let cutoff := commit.durableCutoff
  let rootCutoff := root.durableCutoff
  refuse (root.manifestGeneration < commit.manifestGeneration ∨
    root.registryGeneration < commit.registryGeneration ∨
    (commit.registryGeneration = root.registryGeneration ∧
      commit.registrySlot ≠ root.registrySlot) ∨
    cutoff.journal.storeId ≠ rootCutoff.journal.storeId ∨
    rootCutoff.journal.generation < cutoff.journal.generation ∨
    (cutoff.journal.generation = rootCutoff.journal.generation ∧
      rootCutoff.checkpointGeneration < cutoff.checkpointGeneration) ∨
    rootCutoff.appendSequence < cutoff.appendSequence ∨
    (cutoff.journal.generation = rootCutoff.journal.generation ∧
      rootCutoff.endOffset < cutoff.endOffset) ∨
    (cutoff.journal.generation < rootCutoff.journal.generation ∧
      coveredBySealed root catalog cutoff.journal.generation outcome.appendSequence
        outcome.endOffset = false) ∨
    root.retryState.generation < commit.retryState.generation ∨
    (commit.manifestGeneration = root.manifestGeneration ∧ commit ≠ root)) .invalid

/-- Each outcome against the root, against the commit before it, and against its own cutoff
when it is the last of the outcomes that one retry snapshot committed. -/
def validateRootReplay (root : ManifestCommit) (catalog : Option GenerationCatalogSnapshot) :
    Option ManifestCommit → List RetryReplayOutcome → Except RetryStateCodecError Unit
  | _, [] => .ok ()
  | prior, outcome :: rest => do
    validateRootOutcome root catalog outcome
    match prior with
    | some prior => validateCommitProgression prior outcome.committed
    | none => .ok ()
    let groupEnds := ∀ next ∈ rest.head?,
      next.committed.retryState ≠ outcome.committed.retryState
    refuse (groupEnds ∧ (outcome.appendSequence ≠ outcome.committed.durableCutoff.appendSequence ∨
      outcome.endOffset ≠ outcome.committed.durableCutoff.endOffset)) .invalid
    validateRootReplay root catalog (some outcome.committed) rest

/-- Whether the newest outcome ends exactly at the root's cutoff. -/
def newestCovered (root : ManifestCommit) (catalog : Option GenerationCatalogSnapshot)
    (newest : RetryReplayOutcome) : Bool :=
  let rootCutoff := root.durableCutoff
  let newestGeneration := newest.committed.durableCutoff.journal.generation
  if newestGeneration = rootCutoff.journal.generation then
    newest.endOffset == rootCutoff.endOffset
  else
    rootCutoff.appendSequence == root.sequenceFloor &&
      newestGeneration < rootCutoff.journal.generation &&
      coveredBySealed root catalog newestGeneration newest.appendSequence newest.endOffset

def validateRoot (snapshot : RetryStateSnapshot) (root : ManifestCommit)
    (catalog : Option GenerationCatalogSnapshot) : Except RetryStateCodecError Unit := do
  validateState snapshot
  let rootCutoff := root.durableCutoff
  let rootGeneration := rootCutoff.journal.generation.val
  refuse (snapshot.reference ≠ some root.retryState ∨
    snapshot.storeId ≠ rootCutoff.journal.storeId ∨
    (rootGeneration = activeJournalGeneration ∧ (root.sequenceFloor ≠ 0 ∨ root.catalog ≠ none)) ∨
    (activeJournalGeneration < rootGeneration ∧ (root.sequenceFloor = 0 ∨ root.catalog = none ∨
      rootCutoff.appendSequence < root.sequenceFloor)) ∨
    (∃ known ∈ catalog, known.reference ≠ root.catalog)) .invalid
  match snapshot.replay.getLast? with
  | none => refuse (snapshot.guard ≠ [] ∨ root.retryState.generation.val ≠ 1) .invalid
  | some newest => do
    refuse ((snapshot.guard ≠ [] ∧ snapshot.replay.length ≠ snapshot.options.replayCapacity) ∨
      newest.appendSequence ≠ rootCutoff.appendSequence ∨
      newestCovered root catalog newest = false ∨
      newest.committed.retryState ≠ root.retryState) .invalid
    match snapshot.guard.map (·.appendSequence) ++ snapshot.replay.map (·.appendSequence) with
    | [] => .error .invalid
    | first :: rest => do
      refuse (rootCutoff.appendSequence < first) .invalid
      validateChronology rootCutoff.appendSequence first rest
    validateRootReplay root catalog none snapshot.replay

def validateTransitionPreflight (snapshot : RetryStateSnapshot) (reference : RetryStateReference)
    (pending : List PendingRetryOutcome) (committed : ManifestCommit) :
    Except RetryStateCodecError Unit :=
  let cutoff := committed.durableCutoff
  match pending.head?, pending.getLast? with
  | some first, some last => do
    refuse (cutoff.appendSequence.val < pending.length - 1) .invalid
    refuse (committed.retryState ≠ reference ∨ maxPersistedRetryEntries < pending.length ∨
      cutoff.journal.storeId ≠ snapshot.storeId ∨
      first.appendSequence.val ≠ cutoff.appendSequence.val - (pending.length - 1) ∨
      last.appendSequence ≠ cutoff.appendSequence ∨ last.endOffset ≠ cutoff.endOffset) .invalid
    match snapshot.replay.getLast? with
    | some prior =>
      refuse (prior.committed.durableCutoff.appendSequence.val + pending.length ≠
        cutoff.appendSequence.val) .invalid
    | none => .ok ()
  | _, _ => .error .invalid

/-- The two tiers while a batch is folded into them. -/
structure RetryTiers where
  replay : List RetryReplayOutcome
  guard : List RetryGuardEntry
  deriving DecidableEq

def RetryReplayOutcome.promoted (outcome : RetryReplayOutcome) : RetryGuardEntry :=
  ⟨outcome.qualification, outcome.appendSequence⟩

/-- A new outcome enters the replay tier; the oldest one moves to the guard tier when there
is no room, and the oldest guard is dropped when there is no room there either. -/
def RetryTiers.push (options : RetryPersistenceOptions) (tiers : RetryTiers)
    (outcome : RetryReplayOutcome) : RetryTiers :=
  let replay := tiers.replay ++ [outcome]
  if options.replayCapacity < replay.length then
    match replay with
    | [] => ⟨replay, tiers.guard⟩
    | oldest :: replay =>
      let guard := tiers.guard ++ [oldest.promoted]
      if options.guardCapacity < guard.length then ⟨replay, guard.tail⟩ else ⟨replay, guard⟩
  else ⟨replay, tiers.guard⟩

def advanceEntries (snapshot : RetryStateSnapshot) (committed : ManifestCommit) :
    U64 → RetryTiers → List PendingRetryOutcome → Except RetryStateCodecError RetryTiers
  | _, tiers, [] => .ok tiers
  | previous, tiers, entry :: rest => do
    refuse (entry.appendSequence = 0 ∨ entry.appendSequence ≤ previous ∨ entry.endOffset = 0 ∨
      snapshot.classify entry.qualification ≠ .fresh ∨
      tiers.replay.any (fun retained =>
        retained.qualification.classify entry.qualification ≠ .distinct) = true ∨
      tiers.guard.any (fun retained =>
        retained.qualification.classify entry.qualification ≠ .distinct) = true) .invalid
    let outcome : RetryReplayOutcome :=
      ⟨entry.qualification, entry.appendSequence, entry.endOffset, committed⟩
    advanceEntries snapshot committed entry.appendSequence
      (tiers.push snapshot.options outcome) rest

def RetryStateSnapshot.lastSequence (snapshot : RetryStateSnapshot) : U64 :=
  match snapshot.replay.getLast? with
  | some outcome => outcome.appendSequence
  | none =>
    match snapshot.guard.getLast? with
    | some entry => entry.appendSequence
    | none => 0

def RetryStateSnapshot.advance (snapshot : RetryStateSnapshot) (reference : RetryStateReference)
    (pending : List PendingRetryOutcome) (committed : ManifestCommit) :
    Except RetryStateCodecError RetryStateSnapshot := do
  validateTransitionPreflight snapshot reference pending committed
  let tiers ← advanceEntries snapshot committed snapshot.lastSequence
    ⟨snapshot.replay, snapshot.guard⟩ pending
  let candidate : RetryStateSnapshot :=
    ⟨snapshot.storeId, snapshot.options, some reference, tiers.replay, tiers.guard⟩
  validateState candidate
  validateRoot candidate committed none
  pure candidate

def RetryStateSnapshot.verifiesTransition (snapshot candidate : RetryStateSnapshot)
    (pending : List PendingRetryOutcome) (committed : ManifestCommit) : Bool :=
  match candidate.reference with
  | none => false
  | some reference =>
    match snapshot.advance reference pending committed with
    | .ok expected => expected = candidate
    | .error _ => false

def RetryStateSnapshot.validatesRootWithCatalog (snapshot : RetryStateSnapshot)
    (root : ManifestCommit) (catalog : GenerationCatalogSnapshot) : Bool :=
  (validateRoot snapshot root (some catalog)).isOk

end Historian
