import Historian.CommitLog
import Historian.CatalogChain
import Historian.RegistrySound
import Historian.RetryCommits

namespace Historian

open Checks

/-- What a root stands for: its record, and what the files that it refers to hold. -/
structure RootState where
  record : ManifestRecord
  registry : SeriesRegistry
  retry : RetryStateSnapshot
  catalog : GenerationCatalogSnapshot

def ManifestStore.rootState (store : ManifestStore) : RootState :=
  ⟨store.current, store.registry, store.retry, store.catalog⟩

namespace RootState

/-- The root that a new store begins with. -/
structure First (config : ManifestStoreConfig) (state : RootState) : Prop where
  generation : state.record.generation = 1
  registryGeneration : state.record.registry.generation = 1
  cutoff : state.record.cutoff = genesisPlaceholder config.storeId
  sequenceFloor : state.record.sequenceFloor = 0
  catalogReference : state.record.catalog = none
  recovery : state.record.recovery = none
  registry : state.registry = .new config.storeId config.registry.limits
  replay : state.retry.replay = []
  guard : state.retry.guard = []
  catalog : state.catalog = .empty config.storeId

/-- The catalog entry that seals the active generation of a root. -/
structure Seals (state : RootState) (entry : SealedGeneration) : Prop where
  generation : entry.journalGeneration = state.record.cutoff.journal.generation
  floor : entry.sequenceFloor = state.record.sequenceFloor
  cutoff : entry.sequenceCutoff = state.record.cutoff.appendSequence
  ends : entry.endOffset = state.record.cutoff.endOffset
  follows : entry.Follows state.catalog.entries.getLast?

/-- The commits of a store and the outcomes that each of them makes durable: a batch behind the
cutoff, a registry call, the sealing of the active generation, or the recovery of a torn journal. -/
inductive Commits (state : RootState) : List PendingRetryOutcome → RootState → Prop
  | batch {pending : List PendingRetryOutcome} {cutoff : DurableCutoff}
      {reference : RetryArtifactReference} {generation : U64} {retry : RetryStateSnapshot}
      (numbered : state.record.generation.val + 1 = generation.val)
      (referenced : state.record.retry.state.generation.val + 1 = reference.state.generation.val)
      (accepted : validatePendingRetry state.record.cutoff cutoff pending = .ok ())
      (advances : state.retry.advance reference.state pending (ManifestRecord.commit
        { state.record with
          generation := generation
          cutoff := cutoff
          retry := reference }) = .ok retry) :
    Commits state pending ⟨{ state.record with
      generation := generation
      cutoff := cutoff
      retry := reference }, state.registry, retry, state.catalog⟩
  | registry (call : RegistryCall) {reference : RegistryReference} {generation : U64}
      (numbered : state.record.generation.val + 1 = generation.val)
      (referenced : state.record.registry.generation.val + 1 = reference.generation.val) :
    Commits state [] ⟨{ state.record with
      generation := generation
      registry := reference }, (state.registry.call call).2, state.retry, state.catalog⟩
  | rotation {entry : SealedGeneration} {reference : GenerationCatalogReference}
      {generation successor : U64} (seals : state.Seals entry)
      (numbered : state.record.generation.val + 1 = generation.val)
      (follows : state.record.cutoff.journal.generation.val + 1 = successor.val)
      (room : state.catalog.entries.length < maxSealedGenerations)
      (referenced : nextCatalogGeneration state.catalog.reference = some reference.generation) :
    Commits state [] ⟨{ state.record with
      generation := generation
      cutoff := ⟨⟨state.record.cutoff.journal.storeId, successor⟩, 1,
        state.record.cutoff.appendSequence, Fin.ofNat _ journalV1HeaderLen⟩
      sequenceFloor := state.record.cutoff.appendSequence
      catalog := some reference }, state.registry, state.retry,
      ⟨state.catalog.storeId, some reference, state.catalog.entries ++ [entry]⟩⟩
  | recovery {reference : RecoveryReference} {generation : U64}
      (numbered : state.record.generation.val + 1 = generation.val) :
    Commits state [] ⟨{ state.record with
      generation := generation
      recovery := some reference }, state.registry, state.retry, state.catalog⟩

/-- A recovery changes the number of the root and its report, and nothing else. -/
def Recovers (state next : RootState) : Prop :=
  ∃ (reference : RecoveryReference) (generation : U64),
    state.record.generation.val + 1 = generation.val ∧ next = ⟨{ state.record with
      generation := generation
      recovery := some reference }, state.registry, state.retry, state.catalog⟩

theorem Recovers.commits {state next : RootState} (h : state.Recovers next) :
    state.Commits [] next := by
  obtain ⟨reference, generation, hnumbered, rfl⟩ := h
  exact .recovery hnumbered

/-- What a later root keeps of an earlier one. -/
structure Extends (later earlier : RootState) : Prop where
  store : later.record.cutoff.journal.storeId = earlier.record.cutoff.journal.storeId
  generation : earlier.record.generation ≤ later.record.generation
  journal : earlier.record.cutoff.journal.generation ≤ later.record.cutoff.journal.generation
  sequence : earlier.record.cutoff.appendSequence ≤ later.record.cutoff.appendSequence
  retry : earlier.record.retry.state.generation ≤ later.record.retry.state.generation
  registry : later.registry.Extends earlier.registry
  catalog : earlier.catalog.entries <+: later.catalog.entries

theorem Extends.refl (state : RootState) : state.Extends state :=
  ⟨rfl, Fin.le_refl _, Fin.le_refl _, Fin.le_refl _, Fin.le_refl _,
    SeriesRegistry.Extends.refl _, List.prefix_refl _⟩

theorem Extends.trans {first second third : RootState} (h : second.Extends first)
    (hnext : third.Extends second) : third.Extends first where
  store := hnext.store.trans h.store
  generation := Fin.le_trans h.generation hnext.generation
  journal := Fin.le_trans h.journal hnext.journal
  sequence := Fin.le_trans h.sequence hnext.sequence
  retry := Fin.le_trans h.retry hnext.retry
  registry := fun seriesId revision declaration hfound =>
    hnext.registry seriesId revision declaration (h.registry seriesId revision declaration hfound)
  catalog := h.catalog.trans hnext.catalog

variable {state next : RootState} {batch : List PendingRetryOutcome}

theorem Commits.generation (h : state.Commits batch next) :
    state.record.generation.val + 1 = next.record.generation.val := by
  cases h with
  | batch numbered => exact numbered
  | registry _ numbered => exact numbered
  | rotation _ numbered => exact numbered
  | recovery numbered => exact numbered

theorem Commits.extends (h : state.Commits batch next) : next.Extends state := by
  have hnumbered := h.generation
  have hgeneration : state.record.generation ≤ next.record.generation := by
    rw [Fin.le_def]
    omega
  have hregistry := SeriesRegistry.Extends.refl state.registry
  cases h with
  | batch _ referenced accepted _ =>
    obtain ⟨hjournal, -, hcount, -⟩ := validatePendingRetry_behind accepted
    refine ⟨congrArg _ hjournal, hgeneration, Fin.le_of_eq ?_, ?_, ?_, hregistry,
      List.prefix_refl _⟩
    · exact congrArg JournalIdentity.generation hjournal.symm
    · rw [Fin.le_def]
      exact Nat.le.intro hcount
    · rw [Fin.le_def]
      exact Nat.le_of_lt (Nat.lt_of_succ_le (Nat.le_of_eq referenced))
  | registry call =>
    exact ⟨rfl, hgeneration, Fin.le_refl _, Fin.le_refl _, Fin.le_refl _,
      SeriesRegistry.extends_call _ call, List.prefix_refl _⟩
  | rotation _ _ follows =>
    refine ⟨rfl, hgeneration, ?_, Fin.le_refl _, Fin.le_refl _, hregistry,
      List.prefix_append _ _⟩
    rw [Fin.le_def]
    exact Nat.le_of_lt (Nat.lt_of_succ_le (Nat.le_of_eq follows))
  | recovery =>
    exact ⟨rfl, hgeneration, Fin.le_refl _, Fin.le_refl _, Fin.le_refl _, hregistry,
      List.prefix_refl _⟩

theorem validatePendingEntries_numbered {cutoff : DurableCutoff} {expected previousEnd : U64}
    {pending : List PendingRetryOutcome}
    (h : validatePendingEntries cutoff expected previousEnd pending = .ok ()) :
    pending.map (·.appendSequence.val) = List.range' expected.val pending.length := by
  induction pending generalizing expected previousEnd with
  | nil => rfl
  | cons entry rest ih =>
    rw [validatePendingEntries, then_ok, refuse_ok, not_or, not_not] at h
    obtain ⟨⟨hsequence, -⟩, h⟩ := h
    split at h
    next => cases h
    next next hnext =>
      rw [checkedAdd_eq_some] at hnext
      have hrest := ih h
      rw [← hnext] at hrest
      rw [List.map_cons, List.length_cons, List.range'_succ, hrest, hsequence]

/-- A batch carries the sequences from the cutoff of the root to its own. -/
theorem validatePendingRetry_numbered {prior cutoff : DurableCutoff}
    {pending : List PendingRetryOutcome} (h : validatePendingRetry prior cutoff pending = .ok ()) :
    pending.map (·.appendSequence.val) =
      List.range' (prior.appendSequence.val + 1) pending.length := by
  unfold validatePendingRetry at h
  rw [then_ok] at h
  obtain ⟨-, h⟩ := h
  dsimp only at h
  split at h
  next => cases h
  next expected hexpected =>
    rw [checkedAdd_eq_some] at hexpected
    rw [then_ok] at h
    rw [validatePendingEntries_numbered h.1, ← hexpected]

theorem Commits.numbered (h : state.Commits batch next) :
    batch.map (·.appendSequence.val) =
        List.range' (state.record.cutoff.appendSequence.val + 1) batch.length ∧
      next.record.cutoff.appendSequence.val =
        state.record.cutoff.appendSequence.val + batch.length := by
  cases h with
  | batch _ _ accepted _ =>
    obtain ⟨-, -, hcount, -⟩ := validatePendingRetry_behind accepted
    exact ⟨validatePendingRetry_numbered accepted, hcount.symm⟩
  | registry => exact ⟨rfl, rfl⟩
  | rotation => exact ⟨rfl, rfl⟩
  | recovery => exact ⟨rfl, rfl⟩

/-- The sealed generations reach from the first outcome to the floor of the active one. -/
structure Sealed (state : RootState) : Prop where
  chained : SealedGeneration.Chained none state.catalog.entries
  room : state.catalog.entries.length ≤ maxSealedGenerations
  active : state.record.cutoff.journal.generation.val = state.catalog.entries.length + 1
  floor : state.record.sequenceFloor =
    (state.catalog.entries.getLast?.map (·.sequenceCutoff)).getD 0
  reference : state.catalog.reference = state.record.catalog
  behind : state.record.sequenceFloor ≤ state.record.cutoff.appendSequence

theorem First.sealed {config : ManifestStoreConfig} (h : state.First config) : state.Sealed := by
  have hentries : state.catalog.entries = [] := by
    rw [h.catalog]
    rfl
  refine ⟨?_, ?_, ?_, ?_, ?_, ?_⟩
  · rw [hentries]
    trivial
  · rw [hentries]
    exact Nat.zero_le _
  · rw [hentries, h.cutoff]
    rfl
  · rw [hentries]
    exact h.sequenceFloor
  · rw [h.catalog, h.catalogReference]
    rfl
  · rw [h.sequenceFloor]
    exact Fin.zero_le _

theorem Commits.sealed (h : state.Commits batch next) (hstate : state.Sealed) : next.Sealed := by
  have hbehind := hstate.behind
  cases h with
  | batch _ _ accepted _ =>
    obtain ⟨hjournal, -, hcount, -⟩ := validatePendingRetry_behind accepted
    refine ⟨hstate.chained, hstate.room, ?_, hstate.floor, hstate.reference, ?_⟩
    · rw [hjournal]
      exact hstate.active
    · dsimp only
      rw [Fin.le_def] at hbehind ⊢
      omega
  | registry => exact ⟨hstate.chained, hstate.room, hstate.active, hstate.floor, hstate.reference,
      hstate.behind⟩
  | rotation seals _ follows room _ =>
    refine ⟨?_, ?_, ?_, ?_, rfl, Fin.le_refl _⟩
    · refine chained_snoc hstate.chained ?_
      rw [Option.or_none]
      exact seals.follows
    · rw [List.length_append]
      exact room
    · dsimp only
      rw [List.length_append, ← follows, hstate.active]
      rfl
    · dsimp only
      rw [List.getLast?_append, List.getLast?_singleton, Option.some_or, Option.map_some,
        Option.getD_some, seals.cutoff]
  | recovery => exact ⟨hstate.chained, hstate.room, hstate.active, hstate.floor, hstate.reference,
      hstate.behind⟩

end RootState

/-- The log of a store: it begins with a first root, and every commit goes on from the root before
it. -/
inductive StoreCommits (config : ManifestStoreConfig) :
    Option RootState → List PendingRetryOutcome → Option RootState → Prop
  | genesis {state : RootState} (first : state.First config) :
    StoreCommits config none [] (some state)
  | commit {state next : RootState} {batch : List PendingRetryOutcome}
      (commits : state.Commits batch next) : StoreCommits config (some state) batch (some next)

/-- The append sequence up to which a log has committed. -/
def committedSequence : Option RootState → ℕ
  | none => 0
  | some state => state.record.cutoff.appendSequence.val

theorem StoreCommits.numbered {config : ManifestStoreConfig} {before after : Option RootState}
    {batch : List PendingRetryOutcome} (h : StoreCommits config before batch after) :
    batch.map (·.appendSequence.val) =
        List.range' (committedSequence before + 1) batch.length ∧
      committedSequence after = committedSequence before + batch.length := by
  cases h with
  | @genesis state first =>
    refine ⟨rfl, ?_⟩
    change state.record.cutoff.appendSequence.val = 0
    rw [first.cutoff]
    rfl
  | commit commits => exact commits.numbered

end Historian
