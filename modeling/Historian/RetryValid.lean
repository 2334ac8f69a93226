import Historian.RetryWindow

namespace Historian

open Checks

/-- What a snapshot demands of an outcome by itself. -/
structure OutcomeValid (storeId : StoreId) (reference : Option RetryStateReference)
    (outcome : RetryReplayOutcome) : Prop where
  sequence : outcome.appendSequence ≠ 0
  offset : outcome.endOffset ≠ 0
  manifest : outcome.committed.manifestGeneration ≠ 0
  registry : outcome.committed.registryGeneration ≠ 0
  registrySlot : outcome.committed.registrySlot < 3
  store : outcome.committed.durableCutoff.journal.storeId = storeId
  journal : outcome.committed.durableCutoff.journal.generation ≠ 0
  checkpoint : outcome.committed.durableCutoff.checkpointGeneration ≠ 0
  cutoff : outcome.committed.durableCutoff.appendSequence ≠ 0
  cutoffEnd : outcome.committed.durableCutoff.endOffset ≠ 0
  within : outcome.Within
  last : outcome.appendSequence = outcome.committed.durableCutoff.appendSequence →
    outcome.endOffset = outcome.committed.durableCutoff.endOffset
  inner : outcome.appendSequence < outcome.committed.durableCutoff.appendSequence →
    outcome.endOffset < outcome.committed.durableCutoff.endOffset
  retrySlot : outcome.committed.retryState.slot < 3
  retry : outcome.committed.retryState.generation ≠ 0
  registered : outcome.committed.registryGeneration ≤ outcome.committed.manifestGeneration
  retried : outcome.committed.retryState.generation ≤ outcome.committed.manifestGeneration
  current : ∀ current ∈ reference, outcome.committed.retryState.generation ≤ current.generation
  first : outcome.committed.durableCutoff.journal.generation.val = activeJournalGeneration →
    outcome.committed.sequenceFloor = 0 ∧ outcome.committed.catalog = none
  later : outcome.committed.durableCutoff.journal.generation.val ≠ activeJournalGeneration →
    outcome.committed.sequenceFloor ≠ 0 ∧ outcome.committed.catalog ≠ none ∧
      outcome.committed.sequenceFloor ≤ outcome.committed.durableCutoff.appendSequence

/-- What a snapshot demands of an outcome behind the one before it. -/
structure OutcomeAfter (before : ReplayProgress) (outcome : RetryReplayOutcome) : Prop where
  sequence : before.previous < outcome.appendSequence
  offset : outcome.committed.durableCutoff.journal.generation = before.previousJournal →
    before.previousEnd < outcome.endOffset
  journal : before.previousJournal ≤ outcome.committed.durableCutoff.journal.generation
  manifest : before.previousManifest ≤ outcome.committed.manifestGeneration
  registry : before.previousRegistry ≤ outcome.committed.registryGeneration
  checkpoint : outcome.committed.durableCutoff.journal.generation = before.previousJournal →
    before.previousCheckpoint ≤ outcome.committed.durableCutoff.checkpointGeneration
  cutoff : before.previousCutoffSequence ≤ outcome.committed.durableCutoff.appendSequence
  retry : before.previousRetryGeneration ≤ outcome.committed.retryState.generation

theorem validateOutcome_ok {snapshot : RetryStateSnapshot} {before : ReplayProgress}
    {outcome : RetryReplayOutcome} :
    validateOutcome snapshot before outcome = .ok () ↔
      OutcomeValid snapshot.storeId snapshot.reference outcome ∧ OutcomeAfter before outcome := by
  unfold validateOutcome
  dsimp only
  rw [then_ok, then_ok]
  simp only [refuse_ok, not_or, not_and, not_exists, not_not, Fin.not_lt, Fin.not_le,
    UInt8.not_le]
  constructor
  · intro h
    obtain ⟨⟨h1, h2, h3, h4, h5, h6⟩, ⟨h7, h8, h9, h10, h11, h12, h13, h14, h15, h16, h17, h18, h19,
      h20, h21, h22, h23, h24, h25, h26, h27⟩, h28⟩ := h
    have hgeneration : (outcome.committed.durableCutoff.journal.generation.val =
          activeJournalGeneration →
        outcome.committed.sequenceFloor = 0 ∧ outcome.committed.catalog = none) ∧
        (outcome.committed.durableCutoff.journal.generation.val ≠ activeJournalGeneration →
          outcome.committed.sequenceFloor ≠ 0 ∧ outcome.committed.catalog ≠ none ∧
            outcome.committed.sequenceFloor ≤
              outcome.committed.durableCutoff.appendSequence) := by
      split at h28
      next hone =>
        simp only [refuse_ok, not_or, not_not] at h28
        exact ⟨fun _ => h28, fun hne => absurd hone hne⟩
      next hmany =>
        simp only [refuse_ok, not_or, Fin.not_lt] at h28
        exact ⟨fun heq => absurd heq hmany, fun _ => h28⟩
    exact ⟨⟨h1, h3, h4, h5, h6, h7, h8, h9, h10, h11, ⟨h12, h13⟩, h14, h15, h16, h17, h18, h19,
      h27, hgeneration.1, hgeneration.2⟩, ⟨h2, h20, h21, h22, h23, h24, h25, h26⟩⟩
  · intro h
    obtain ⟨hvalid, hafter⟩ := h
    refine ⟨⟨hvalid.sequence, hafter.sequence, hvalid.offset, hvalid.manifest, hvalid.registry,
      hvalid.registrySlot⟩, ⟨hvalid.store, hvalid.journal, hvalid.checkpoint, hvalid.cutoff,
      hvalid.cutoffEnd, hvalid.within.1, hvalid.within.2, hvalid.last, hvalid.inner,
      hvalid.retrySlot, hvalid.retry, hvalid.registered, hvalid.retried, hafter.offset,
      hafter.journal, hafter.manifest, hafter.registry, hafter.checkpoint, hafter.cutoff,
      hafter.retry, hvalid.current⟩, ?_⟩
    split
    next hone =>
      simp only [refuse_ok, not_or, not_not]
      exact hvalid.first hone
    next hmany =>
      simp only [refuse_ok, not_or, Fin.not_lt]
      exact hvalid.later hmany

/-- Nothing lies before the first outcome but the guard entries. -/
def ReplayProgress.origin (previous : U64) : ReplayProgress := ⟨previous, 0, 0, 0, 0, 0, 0, 0⟩

theorem outcomeAfter_origin {previous : U64} {outcome : RetryReplayOutcome}
    (hjournal : outcome.committed.durableCutoff.journal.generation ≠ 0) :
    OutcomeAfter (.origin previous) outcome ↔ previous < outcome.appendSequence := by
  constructor
  · intro h
    exact h.sequence
  · intro h
    exact ⟨h, fun heq => absurd heq hjournal, Fin.zero_le _, Fin.zero_le _, Fin.zero_le _,
      fun heq => absurd heq hjournal, Fin.zero_le _, Fin.zero_le _⟩

theorem validateReplay_ok {snapshot : RetryStateSnapshot} {before : ReplayProgress}
    {replay : List RetryReplayOutcome} :
    validateReplay snapshot before replay = .ok () ↔
      (∀ outcome ∈ replay, OutcomeValid snapshot.storeId snapshot.reference outcome) ∧
        (∀ first ∈ replay.head?, OutcomeAfter before first) ∧
        replay.IsChain fun a b => OutcomeAfter a.progress b := by
  induction replay generalizing before with
  | nil => simp [validateReplay]
  | cons outcome rest ih =>
    rw [validateReplay, then_ok, validateOutcome_ok, ih, List.isChain_cons]
    simp only [List.forall_mem_cons, List.head?_cons, Option.mem_some_iff, forall_eq']
    tauto

theorem validateGuardOrder_of_chain {previous : U64} {guard : List RetryGuardEntry}
    (h : (previous :: guard.map (·.appendSequence)).IsChain (· < ·)) :
    validateGuardOrder previous guard =
      .ok ((guard.map (·.appendSequence)).getLast?.getD previous) := by
  induction guard generalizing previous with
  | nil => rfl
  | cons entry rest ih =>
    rw [List.map_cons, List.isChain_cons_cons] at h
    have hpositive : entry.appendSequence ≠ 0 := by
      intro hzero
      have hlt := h.1
      rw [hzero, Fin.lt_def] at hlt
      simp at hlt
    rw [validateGuardOrder, ih h.2, List.map_cons, List.getLast?_cons]
    have hkeep : refuse (entry.appendSequence = 0 ∨ entry.appendSequence ≤ previous)
        RetryStateCodecError.invalid = .ok () := by
      rw [refuse_ok, not_or, Fin.not_le]
      exact ⟨hpositive, h.1⟩
    rw [hkeep]
    rfl

/-- The sequences of consecutive entries follow each other without a hole. -/
def Consecutive (sequences : List U64) : Prop := sequences.IsChain fun a b => a.val + 1 = b.val

theorem Consecutive.increasing {sequences : List U64} (h : Consecutive sequences) :
    sequences.IsChain (· < ·) := by
  refine List.IsChain.imp (fun a b hab => ?_) h
  rw [Fin.lt_def]
  omega

theorem chronological_iff {cutoff : U64} {sequences : List U64} :
    Chronological cutoff sequences ↔
      sequences ≠ [] ∧ Consecutive sequences ∧ ∀ sequence ∈ sequences, sequence ≤ cutoff := by
  have hrest : ∀ {first : U64} {rest : List U64}, validateChronology cutoff first rest = .ok () ↔
      Consecutive (first :: rest) ∧ ∀ sequence ∈ rest, sequence ≤ cutoff := by
    intro first rest
    induction rest generalizing first with
    | nil => simp [validateChronology, Consecutive]
    | cons sequence rest ih =>
      rw [validateChronology, then_ok, refuse_ok, not_or, not_not, Fin.not_lt, ih,
        List.forall_mem_cons]
      simp only [Consecutive, List.isChain_cons_cons]
      tauto
  cases sequences with
  | nil => simp [Chronological]
  | cons first rest =>
    rw [Chronological, hrest, List.forall_mem_cons]
    simp only [ne_eq, reduceCtorEq, not_false_eq_true, true_and]
    tauto

/-- A root of a later generation than its newest outcome has nothing of its own yet. -/
theorem newestCovered_crossed {root : ManifestCommit} {catalog : Option GenerationCatalogSnapshot}
    {newest : RetryReplayOutcome} (h : newestCovered root catalog newest = true)
    (hne : newest.committed.durableCutoff.journal.generation ≠
      root.durableCutoff.journal.generation) :
    root.durableCutoff.appendSequence = root.sequenceFloor := by
  unfold newestCovered at h
  dsimp only at h
  rw [if_neg hne] at h
  simp only [Bool.and_eq_true, beq_iff_eq] at h
  exact h.1.1

theorem validateCommitProgression_self (commit : ManifestCommit) :
    validateCommitProgression commit commit = .ok () := by
  unfold validateCommitProgression
  simp

theorem validateCommitProgression_next {prior current : ManifestCommit}
    (hne : current.retryState.generation ≠ prior.retryState.generation) :
    validateCommitProgression prior current = .ok () ↔
      prior.retryState.generation.val + 1 = current.retryState.generation.val ∧
      current.retryState.slot ≠ prior.retryState.slot ∧
      prior.manifestGeneration < current.manifestGeneration ∧
      prior.durableCutoff.appendSequence < current.durableCutoff.appendSequence ∧
      (current.durableCutoff.journal.generation = prior.durableCutoff.journal.generation →
        prior.durableCutoff.checkpointGeneration.val + 1 =
            current.durableCutoff.checkpointGeneration.val ∧
          prior.durableCutoff.endOffset < current.durableCutoff.endOffset) ∧
      (current.durableCutoff.journal.generation ≠ prior.durableCutoff.journal.generation →
        prior.durableCutoff.journal.generation.val + 1 =
            current.durableCutoff.journal.generation.val ∧
          current.sequenceFloor = prior.durableCutoff.appendSequence ∧ current.catalog ≠ none) ∧
      prior.registryGeneration ≤ current.registryGeneration ∧
      (current.registryGeneration = prior.registryGeneration →
        current.registrySlot = prior.registrySlot) := by
  unfold validateCommitProgression
  dsimp only
  rw [if_neg hne, refuse_ok]
  simp only [not_or, not_not, not_and, ne_eq, Fin.not_le, Fin.not_lt]

/-- How one outcome may follow another: under the same commit, or as the first of the next one
behind the last of its own. -/
structure OutcomeSucceeds (a b : RetryReplayOutcome) : Prop where
  progression : validateCommitProgression a.committed b.committed = .ok ()
  ends : b.committed.retryState ≠ a.committed.retryState →
    a.appendSequence = a.committed.durableCutoff.appendSequence ∧
      a.endOffset = a.committed.durableCutoff.endOffset

theorem progression_iff {prior : Option ManifestCommit} {replay : List RetryReplayOutcome} :
    Progression prior replay ↔
      (∀ commit ∈ prior, ∀ first ∈ replay.head?,
        validateCommitProgression commit first.committed = .ok ()) ∧
      replay.IsChain OutcomeSucceeds ∧
      ∀ last ∈ replay.getLast?, last.appendSequence = last.committed.durableCutoff.appendSequence ∧
        last.endOffset = last.committed.durableCutoff.endOffset := by
  induction replay generalizing prior with
  | nil => simp [Progression]
  | cons outcome rest ih =>
    rw [Progression, ih]
    cases rest with
    | nil => simp
    | cons next others =>
      rw [List.isChain_cons_cons, List.getLast?_cons_cons]
      simp only [List.head?_cons, Option.mem_some_iff, forall_eq']
      constructor
      · intro h
        exact ⟨h.1, ⟨⟨h.2.2.1, h.2.1⟩, h.2.2.2.1⟩, h.2.2.2.2⟩
      · intro h
        exact ⟨h.1, h.2.1.1.ends, h.2.1.1.progression, h.2.1.2, h.2.2⟩

end Historian
