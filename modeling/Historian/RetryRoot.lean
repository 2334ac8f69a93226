import Historian.RetryTransition

namespace Historian

open Checks

/-- The commits of the outcomes follow each other, and the last outcome of each commit ends at
the cutoff of the commit. -/
def Progression : Option ManifestCommit → List RetryReplayOutcome → Prop
  | _, [] => True
  | prior, outcome :: rest =>
    (∀ commit ∈ prior, validateCommitProgression commit outcome.committed = .ok ()) ∧
      ((∀ next ∈ rest.head?, next.committed.retryState ≠ outcome.committed.retryState) →
        outcome.appendSequence = outcome.committed.durableCutoff.appendSequence ∧
          outcome.endOffset = outcome.committed.durableCutoff.endOffset) ∧
      Progression (some outcome.committed) rest

/-- The retained sequences have no hole up to the cutoff. -/
def Chronological (cutoff : U64) : List U64 → Prop
  | [] => False
  | first :: rest => first ≤ cutoff ∧ validateChronology cutoff first rest = .ok ()

/-- What a snapshot has to satisfy under a root, clause by clause. -/
structure ValidRoot (snapshot : RetryStateSnapshot) (root : ManifestCommit)
    (catalog : Option GenerationCatalogSnapshot) : Prop where
  state : validateState snapshot = .ok ()
  reference : snapshot.reference = some root.retryState
  store : snapshot.storeId = root.durableCutoff.journal.storeId
  first : root.durableCutoff.journal.generation.val = activeJournalGeneration →
    root.sequenceFloor = 0 ∧ root.catalog = none
  later : activeJournalGeneration < root.durableCutoff.journal.generation.val →
    root.sequenceFloor ≠ 0 ∧ root.catalog ≠ none ∧
      root.sequenceFloor ≤ root.durableCutoff.appendSequence
  known : ∀ known ∈ catalog, known.reference = root.catalog
  empty : snapshot.replay = [] → snapshot.guard = [] ∧ root.retryState.generation.val = 1
  newest : ∀ newest ∈ snapshot.replay.getLast?,
    (snapshot.guard ≠ [] → snapshot.replay.length = snapshot.options.replayCapacity) ∧
      newest.appendSequence = root.durableCutoff.appendSequence ∧
      newestCovered root catalog newest = true ∧ newest.committed.retryState = root.retryState
  chronological : snapshot.replay ≠ [] → Chronological root.durableCutoff.appendSequence
    (snapshot.guard.map (·.appendSequence) ++ snapshot.replay.map (·.appendSequence))
  outcomes : ∀ outcome ∈ snapshot.replay, validateRootOutcome root catalog outcome = .ok ()
  progression : Progression none snapshot.replay

theorem validateRootReplay_ok {root : ManifestCommit} {catalog : Option GenerationCatalogSnapshot}
    {prior : Option ManifestCommit} {replay : List RetryReplayOutcome} :
    validateRootReplay root catalog prior replay = .ok () ↔
      (∀ outcome ∈ replay, validateRootOutcome root catalog outcome = .ok ()) ∧
        Progression prior replay := by
  induction replay generalizing prior with
  | nil => simp [validateRootReplay, Progression]
  | cons outcome rest ih =>
    have hgroup : ¬((∀ next ∈ rest.head?,
          next.committed.retryState ≠ outcome.committed.retryState) ∧
        (outcome.appendSequence ≠ outcome.committed.durableCutoff.appendSequence ∨
          outcome.endOffset ≠ outcome.committed.durableCutoff.endOffset)) ↔
        ((∀ next ∈ rest.head?, next.committed.retryState ≠ outcome.committed.retryState) →
          outcome.appendSequence = outcome.committed.durableCutoff.appendSequence ∧
            outcome.endOffset = outcome.committed.durableCutoff.endOffset) := by
      rw [not_and, not_or, not_not, not_not]
    cases prior with
    | none =>
      simp only [validateRootReplay, then_ok, refuse_ok, ih, hgroup, List.mem_cons,
        forall_eq_or_imp, Progression, Option.not_mem_none, false_implies, implies_true, true_and]
      tauto
    | some commit =>
      simp only [validateRootReplay, then_ok, refuse_ok, ih, hgroup, List.mem_cons,
        forall_eq_or_imp, Progression, Option.mem_some_iff, forall_eq']
      tauto

theorem validateRoot_ok {snapshot : RetryStateSnapshot} {root : ManifestCommit}
    {catalog : Option GenerationCatalogSnapshot} :
    validateRoot snapshot root catalog = .ok () ↔ ValidRoot snapshot root catalog := by
  unfold validateRoot
  simp only [then_ok, refuse_ok, not_or, not_not, not_exists, not_and]
  constructor
  · intro h
    obtain ⟨hstate, ⟨hreference, hstore, hfirst, hlater, hknown⟩, h⟩ := h
    have hlater' : activeJournalGeneration < root.durableCutoff.journal.generation.val →
        root.sequenceFloor ≠ 0 ∧ root.catalog ≠ none ∧
          root.sequenceFloor ≤ root.durableCutoff.appendSequence := by
      intro hgeneration
      have hall := hlater hgeneration
      exact ⟨hall.1, hall.2.1, Fin.not_lt.mp hall.2.2⟩
    split at h
    next hnone =>
      rw [refuse_ok, not_or, not_not, not_not] at h
      have hnil : snapshot.replay = [] := List.getLast?_eq_none_iff.mp hnone
      exact ⟨hstate, hreference, hstore, hfirst, hlater', hknown, fun _ => h, by simp [hnil],
        fun hne => absurd hnil hne, by simp [hnil], by simp [hnil, Progression]⟩
    next newest hnewest =>
      have hne : snapshot.replay ≠ [] := by
        intro hnil
        simp [hnil] at hnewest
      simp only [then_ok, refuse_ok, not_or, not_and, not_not, Bool.not_eq_false] at h
      obtain ⟨⟨hguard, hsequence, hcovered, hretry⟩, h⟩ := h
      obtain ⟨hchronology, houtcomes, hprogression⟩ :
          Chronological root.durableCutoff.appendSequence (snapshot.guard.map (·.appendSequence) ++
            snapshot.replay.map (·.appendSequence)) ∧
          (∀ outcome ∈ snapshot.replay, validateRootOutcome root catalog outcome = .ok ()) ∧
          Progression none snapshot.replay := by
        split at h
        next => cases h
        next first rest heq =>
          rw [heq]
          simp only [then_ok, refuse_ok, Fin.not_lt, validateRootReplay_ok] at h
          exact ⟨⟨h.1, h.2.1⟩, h.2.2⟩
      refine ⟨hstate, hreference, hstore, hfirst, hlater', hknown,
        fun hnil => absurd hnil hne, ?_, fun _ => hchronology, houtcomes, hprogression⟩
      intro found hfound
      rw [hnewest, Option.mem_some_iff] at hfound
      subst hfound
      exact ⟨hguard, hsequence, hcovered, hretry⟩
  · intro h
    refine ⟨h.state, ⟨h.reference, h.store, ?_, ?_, ?_⟩, ?_⟩
    · exact h.first
    · intro hgeneration
      have hall := h.later hgeneration
      exact ⟨hall.1, hall.2.1, Fin.not_lt.mpr hall.2.2⟩
    · exact h.known
    · split
      next hnone =>
        rw [refuse_ok, not_or, not_not, not_not]
        exact h.empty (List.getLast?_eq_none_iff.mp hnone)
      next newest hnewest =>
        have hne : snapshot.replay ≠ [] := by
          intro hnil
          simp [hnil] at hnewest
        have hchronology := h.chronological hne
        obtain ⟨hguard, hsequence, hcovered, hretry⟩ := h.newest newest hnewest
        simp only [then_ok, refuse_ok, not_or, not_and, not_not, Bool.not_eq_false]
        refine ⟨⟨hguard, hsequence, hcovered, hretry⟩, ?_⟩
        split
        next heq => simp [heq, Chronological] at hchronology
        next first rest heq =>
          rw [heq] at hchronology
          simp only [then_ok, refuse_ok, Fin.not_lt, validateRootReplay_ok]
          exact ⟨hchronology.1, hchronology.2, h.outcomes, h.progression⟩

theorem validatesRootWithCatalog_iff {snapshot : RetryStateSnapshot} {root : ManifestCommit}
    {catalog : GenerationCatalogSnapshot} :
    snapshot.validatesRootWithCatalog root catalog = true ↔
      ValidRoot snapshot root (some catalog) := by
  unfold RetryStateSnapshot.validatesRootWithCatalog
  rw [← validateRoot_ok]
  cases validateRoot snapshot root (some catalog) <;> simp [Except.isOk, Except.toBool]

/-- The outcome ends no later than the commit that it belongs to. -/
def RetryReplayOutcome.Within (outcome : RetryReplayOutcome) : Prop :=
  outcome.appendSequence ≤ outcome.committed.durableCutoff.appendSequence ∧
    outcome.endOffset ≤ outcome.committed.durableCutoff.endOffset

theorem validateReplay_within {snapshot : RetryStateSnapshot} {before : ReplayProgress}
    {replay : List RetryReplayOutcome} (h : validateReplay snapshot before replay = .ok ()) :
    ∀ outcome ∈ replay, outcome.Within := by
  induction replay generalizing before with
  | nil => simp
  | cons outcome rest ih =>
    rw [validateReplay, then_ok] at h
    intro found hfound
    rw [List.mem_cons] at hfound
    obtain rfl | hfound := hfound
    · have hcheck := h.1
      unfold validateOutcome at hcheck
      simp only [then_ok, refuse_ok, not_or, Fin.not_lt] at hcheck
      obtain ⟨-, ⟨-, -, -, -, -, hsequence, hend, -⟩, -⟩ := hcheck
      exact ⟨hsequence, hend⟩
    · exact ih h.2 found hfound

theorem validateState_within {snapshot : RetryStateSnapshot}
    (h : validateState snapshot = .ok ()) : ∀ outcome ∈ snapshot.replay, outcome.Within := by
  unfold validateState at h
  simp only [bind_ok, exists_unit] at h
  obtain ⟨-, previous, -, hreplay, -⟩ := h
  exact validateReplay_within hreplay

/-- The relations of an outcome's commit to a root, clause by clause. -/
structure RootOutcome (root : ManifestCommit) (catalog : Option GenerationCatalogSnapshot)
    (outcome : RetryReplayOutcome) : Prop where
  manifest : outcome.committed.manifestGeneration ≤ root.manifestGeneration
  registry : outcome.committed.registryGeneration ≤ root.registryGeneration
  registrySlot : outcome.committed.registryGeneration = root.registryGeneration →
    outcome.committed.registrySlot = root.registrySlot
  store : outcome.committed.durableCutoff.journal.storeId = root.durableCutoff.journal.storeId
  journal : outcome.committed.durableCutoff.journal.generation ≤
    root.durableCutoff.journal.generation
  checkpoint : outcome.committed.durableCutoff.journal.generation =
      root.durableCutoff.journal.generation →
    outcome.committed.durableCutoff.checkpointGeneration ≤ root.durableCutoff.checkpointGeneration
  sequence : outcome.committed.durableCutoff.appendSequence ≤ root.durableCutoff.appendSequence
  offset : outcome.committed.durableCutoff.journal.generation =
      root.durableCutoff.journal.generation →
    outcome.committed.durableCutoff.endOffset ≤ root.durableCutoff.endOffset
  covered : outcome.committed.durableCutoff.journal.generation <
      root.durableCutoff.journal.generation →
    coveredBySealed root catalog outcome.committed.durableCutoff.journal.generation
      outcome.appendSequence outcome.endOffset = true
  retry : outcome.committed.retryState.generation ≤ root.retryState.generation
  same : outcome.committed.manifestGeneration = root.manifestGeneration → outcome.committed = root

theorem validateRootOutcome_ok {root : ManifestCommit} {catalog : Option GenerationCatalogSnapshot}
    {outcome : RetryReplayOutcome} :
    validateRootOutcome root catalog outcome = .ok () ↔ RootOutcome root catalog outcome := by
  unfold validateRootOutcome
  simp only [refuse_ok, not_or, not_and, not_not, Fin.not_lt, Bool.not_eq_false]
  constructor
  · intro h
    obtain ⟨h1, h2, h3, h4, h5, h6, h7, h8, h9, h10, h11⟩ := h
    exact ⟨h1, h2, h3, h4, h5, h6, h7, h8, h9, h10, h11⟩
  · intro h
    exact ⟨h.manifest, h.registry, h.registrySlot, h.store, h.journal, h.checkpoint, h.sequence,
      h.offset, h.covered, h.retry, h.same⟩

/-- A root that only moves its manifest generation, and perhaps its registry, keeps every
snapshot valid. -/
theorem ValidRoot.advance_manifest {snapshot : RetryStateSnapshot} {root next : ManifestCommit}
    {catalog : GenerationCatalogSnapshot} (h : ValidRoot snapshot root (some catalog))
    (hmanifest : root.manifestGeneration < next.manifestGeneration)
    (hregistry : (next.registryGeneration = root.registryGeneration ∧
        next.registrySlot = root.registrySlot) ∨
      root.registryGeneration < next.registryGeneration)
    (hcutoff : next.durableCutoff = root.durableCutoff) (hretry : next.retryState = root.retryState)
    (hfloor : next.sequenceFloor = root.sequenceFloor) (hcatalog : next.catalog = root.catalog) :
    ValidRoot snapshot next (some catalog) := by
  obtain ⟨manifestGeneration, registryGeneration, registrySlot, _, _, _, _⟩ := next
  dsimp only at hmanifest hregistry hcutoff hretry hfloor hcatalog
  subst hcutoff hretry hfloor hcatalog
  refine ⟨h.state, h.reference, h.store, h.first, h.later, h.known, h.empty, h.newest,
    h.chronological, ?_, h.progression⟩
  intro outcome houtcome
  have hold := validateRootOutcome_ok.mp (h.outcomes outcome houtcome)
  rw [validateRootOutcome_ok]
  refine ⟨?_, ?_, ?_, hold.store, hold.journal, hold.checkpoint, hold.sequence, hold.offset,
    hold.covered, hold.retry, ?_⟩
  · exact Fin.le_of_lt (Fin.lt_of_le_of_lt hold.manifest hmanifest)
  · dsimp only
    rcases hregistry with ⟨hsame, -⟩ | hlater
    · rw [hsame]
      exact hold.registry
    · exact Fin.le_of_lt (Fin.lt_of_le_of_lt hold.registry hlater)
  · dsimp only
    intro hequal
    rcases hregistry with ⟨hsame, hslot⟩ | hlater
    · rw [hslot]
      exact hold.registrySlot (hequal.trans hsame)
    · have hlt := Fin.lt_of_le_of_lt hold.registry hlater
      rw [hequal] at hlt
      exact absurd hlt (Fin.lt_irrefl _)
  · dsimp only
    intro hequal
    have hlt := Fin.lt_of_le_of_lt hold.manifest hmanifest
    rw [hequal] at hlt
    exact absurd hlt (Fin.lt_irrefl _)

theorem RetryTiers.replay_push {options : RetryPersistenceOptions} {tiers : RetryTiers}
    {outcome found : RetryReplayOutcome} (h : found ∈ (tiers.push options outcome).replay) :
    found ∈ tiers.replay ∨ found = outcome := by
  have hall : ∀ x ∈ tiers.replay ++ [outcome], x ∈ tiers.replay ∨ x = outcome := by simp
  unfold RetryTiers.push at h
  dsimp only at h
  split at h
  next =>
    split at h
    next => exact hall found h
    next oldest kept hsplit =>
      have hkept : found ∈ kept := by
        split at h
        next => exact h
        next => exact h
      exact hall found (by rw [hsplit]; exact List.mem_cons_of_mem _ hkept)
  next => exact hall found h

/-- A batch brings in outcomes of its own entries and of its own commit, and no others. -/
theorem advanceEntries_replay {snapshot : RetryStateSnapshot} {committed : ManifestCommit}
    {previous : U64} {tiers result : RetryTiers} {pending : List PendingRetryOutcome}
    (h : advanceEntries snapshot committed previous tiers pending = .ok result)
    {outcome : RetryReplayOutcome} (houtcome : outcome ∈ result.replay) :
    outcome ∈ tiers.replay ∨ (outcome.committed = committed ∧ ∃ entry ∈ pending,
      outcome.appendSequence = entry.appendSequence ∧ outcome.endOffset = entry.endOffset) := by
  induction pending generalizing previous tiers with
  | nil =>
    cases h
    exact Or.inl houtcome
  | cons entry rest ih =>
    simp only [advanceEntries, then_ok] at h
    obtain hold | ⟨hcommitted, found, hfound, hfields⟩ := ih h.2
    · obtain hold | rfl := RetryTiers.replay_push hold
      · exact Or.inl hold
      · exact Or.inr ⟨rfl, entry, by simp, rfl, rfl⟩
    · exact Or.inr ⟨hcommitted, found, List.mem_cons_of_mem _ hfound, hfields⟩

/-- A batch on the active generation leads to a snapshot that is valid with the same catalog. -/
theorem ValidRoot.advance {snapshot candidate : RetryStateSnapshot} {root next : ManifestCommit}
    {catalog : GenerationCatalogSnapshot} {reference : RetryStateReference}
    {pending : List PendingRetryOutcome} (h : ValidRoot snapshot root (some catalog))
    (hadvance : snapshot.advance reference pending next = .ok candidate)
    (hjournal : next.durableCutoff.journal = root.durableCutoff.journal)
    (hcatalog : next.catalog = root.catalog)
    (hretry : root.retryState.generation < next.retryState.generation) :
    ValidRoot candidate next (some catalog) := by
  obtain ⟨-, -, -, hentries, -, -, hroot⟩ := RetryStateSnapshot.advance_ok hadvance
  have hnone := validateRoot_ok.mp hroot
  have hmember : ∀ outcome ∈ candidate.replay, outcome ∈ snapshot.replay ∨
      outcome.committed = next := by
    intro outcome houtcome
    obtain hold | ⟨hnew, -⟩ := advanceEntries_replay hentries houtcome
    · exact Or.inl hold
    · exact Or.inr hnew
  refine ⟨hnone.state, hnone.reference, hnone.store, hnone.first, hnone.later, ?_, hnone.empty, ?_,
    hnone.chronological, ?_, hnone.progression⟩
  · intro known hknown
    rw [hcatalog]
    exact h.known known hknown
  · intro newest hnewest
    obtain ⟨hguard, hsequence, hcovered, hstate⟩ := hnone.newest newest hnewest
    refine ⟨hguard, hsequence, ?_, hstate⟩
    -- an outcome of the snapshot before carries an older retry state than the new root
    have hcommitted : newest.committed = next := by
      obtain hold | hnew := hmember newest (List.mem_of_getLast? hnewest)
      · have hle := (validateRootOutcome_ok.mp (h.outcomes newest hold)).retry
        rw [hstate] at hle
        exact absurd (Fin.lt_of_lt_of_le hretry hle) (Fin.lt_irrefl _)
      · exact hnew
    unfold newestCovered at hcovered ⊢
    simp only [hcommitted, if_true] at hcovered ⊢
    exact hcovered
  · intro outcome houtcome
    have hbare := validateRootOutcome_ok.mp (hnone.outcomes outcome houtcome)
    rw [validateRootOutcome_ok]
    refine ⟨hbare.manifest, hbare.registry, hbare.registrySlot, hbare.store, hbare.journal,
      hbare.checkpoint, hbare.sequence, hbare.offset, ?_, hbare.retry, hbare.same⟩
    intro hlt
    obtain hold | hnew := hmember outcome houtcome
    · rw [hjournal] at hlt
      exact (validateRootOutcome_ok.mp (h.outcomes outcome hold)).covered hlt
    · rw [hnew] at hlt
      exact absurd hlt (Fin.lt_irrefl _)

/-- The outcomes of the active generation lie behind its floor and its header. -/
def ActiveOutcomes (snapshot : RetryStateSnapshot) (generation sequenceFloor : U64) : Prop :=
  ∀ outcome ∈ snapshot.replay,
    outcome.committed.durableCutoff.journal.generation = generation →
      sequenceFloor < outcome.appendSequence ∧ journalV1HeaderLen < outcome.endOffset.val

/-- The catalog entry of a generation covers what the snapshot holds of the generation. -/
theorem ValidRoot.covered_by_entry {snapshot : RetryStateSnapshot} {root : ManifestCommit}
    {catalog next : GenerationCatalogSnapshot} {entry : SealedGeneration}
    (h : ValidRoot snapshot root (some catalog))
    (hactive : ActiveOutcomes snapshot root.durableCutoff.journal.generation root.sequenceFloor)
    (hentries : next.entries = catalog.entries ++ [entry])
    (hgeneration : entry.journalGeneration = root.durableCutoff.journal.generation)
    (hfloor : entry.sequenceFloor = root.sequenceFloor)
    (hcutoff : entry.sequenceCutoff = root.durableCutoff.appendSequence)
    (hend : entry.endOffset = root.durableCutoff.endOffset)
    {outcome : RetryReplayOutcome} (houtcome : outcome ∈ snapshot.replay) :
    next.coversCommit outcome.committed.durableCutoff.journal.generation outcome.appendSequence
      outcome.endOffset = true := by
  have hold := validateRootOutcome_ok.mp (h.outcomes outcome houtcome)
  unfold GenerationCatalogSnapshot.coversCommit
  rw [hentries, List.any_append, Bool.or_eq_true]
  by_cases hlt : outcome.committed.durableCutoff.journal.generation <
      root.durableCutoff.journal.generation
  · exact Or.inl (hold.covered hlt)
  · right
    have heq : outcome.committed.durableCutoff.journal.generation =
        root.durableCutoff.journal.generation := Fin.le_antisymm hold.journal (Fin.not_lt.mp hlt)
    obtain ⟨hbehind, hheader⟩ := hactive outcome houtcome heq
    obtain ⟨hsequence, hoffset⟩ := validateState_within h.state outcome houtcome
    have hsequence' := Fin.le_trans hsequence hold.sequence
    have hoffset' := Fin.le_trans hoffset (hold.offset heq)
    simp [hgeneration, hfloor, hcutoff, hend, heq, hbehind, hsequence', hheader, hoffset']

/-- Sealing the active generation keeps the snapshot valid under the root of its successor. -/
theorem ValidRoot.rotate {snapshot : RetryStateSnapshot} {root next : ManifestCommit}
    {catalog successor : GenerationCatalogSnapshot} {entry : SealedGeneration}
    (h : ValidRoot snapshot root (some catalog))
    (hactive : ActiveOutcomes snapshot root.durableCutoff.journal.generation root.sequenceFloor)
    (hentries : successor.entries = catalog.entries ++ [entry])
    (hgeneration : entry.journalGeneration = root.durableCutoff.journal.generation)
    (hfloor : entry.sequenceFloor = root.sequenceFloor)
    (hcutoff : entry.sequenceCutoff = root.durableCutoff.appendSequence)
    (hend : entry.endOffset = root.durableCutoff.endOffset)
    (hbehind : root.sequenceFloor < root.durableCutoff.appendSequence)
    (hmanifest : root.manifestGeneration < next.manifestGeneration)
    (hregistry : next.registryGeneration = root.registryGeneration ∧
      next.registrySlot = root.registrySlot)
    (hstore : next.durableCutoff.journal.storeId = root.durableCutoff.journal.storeId)
    (hpositive : root.durableCutoff.journal.generation ≠ 0)
    (hjournal : root.durableCutoff.journal.generation.val + 1 =
      next.durableCutoff.journal.generation.val)
    (hsequence : next.durableCutoff.appendSequence = root.durableCutoff.appendSequence)
    (hretry : next.retryState = root.retryState)
    (hnextFloor : next.sequenceFloor = root.durableCutoff.appendSequence)
    (hcatalog : next.catalog = successor.reference) (hreference : successor.reference ≠ none) :
    ValidRoot snapshot next (some successor) := by
  have hcovers := fun outcome (houtcome : outcome ∈ snapshot.replay) =>
    h.covered_by_entry hactive hentries hgeneration hfloor hcutoff hend houtcome
  have hbefore : ∀ outcome ∈ snapshot.replay,
      outcome.committed.durableCutoff.journal.generation <
        next.durableCutoff.journal.generation := by
    intro outcome houtcome
    have hle := (validateRootOutcome_ok.mp (h.outcomes outcome houtcome)).journal
    rw [Fin.le_def] at hle
    rw [Fin.lt_def]
    omega
  refine ⟨h.state, ?_, ?_, ?_, ?_, ?_, ?_, ?_, ?_, ?_, h.progression⟩
  · rw [hretry]
    exact h.reference
  · rw [hstore]
    exact h.store
  · intro hone
    have h1 : activeJournalGeneration = 1 := rfl
    have hzero : root.durableCutoff.journal.generation = 0 := Fin.ext (by simp; omega)
    exact absurd hzero hpositive
  · intro _
    refine ⟨?_, ?_, ?_⟩
    · intro hzero
      rw [hnextFloor] at hzero
      rw [hzero, Fin.lt_def] at hbehind
      simp at hbehind
    · rw [hcatalog]
      exact hreference
    · exact Fin.le_of_eq (hnextFloor.trans hsequence.symm)
  · intro known hknown
    rw [Option.mem_some_iff] at hknown
    rw [hcatalog, hknown]
  · rw [hretry]
    exact h.empty
  · intro newest hnewest
    obtain ⟨hguard, hsame, -, hstate⟩ := h.newest newest hnewest
    have hmem := List.mem_of_getLast? hnewest
    refine ⟨hguard, ?_, ?_, ?_⟩
    · rw [hsequence]
      exact hsame
    · have hlt := hbefore newest hmem
      unfold newestCovered
      dsimp only
      rw [if_neg (Fin.ne_of_lt hlt)]
      simp [hsequence, hnextFloor, hlt, coveredBySealed, hcovers newest hmem]
    · rw [hretry]
      exact hstate
  · rw [hsequence]
    exact h.chronological
  · intro outcome houtcome
    have hold := validateRootOutcome_ok.mp (h.outcomes outcome houtcome)
    have hlt := hbefore outcome houtcome
    rw [validateRootOutcome_ok]
    refine ⟨Fin.le_of_lt (Fin.lt_of_le_of_lt hold.manifest hmanifest), ?_, ?_, ?_,
      Fin.le_of_lt hlt, fun heq => absurd heq (Fin.ne_of_lt hlt), ?_,
      fun heq => absurd heq (Fin.ne_of_lt hlt), fun _ => hcovers outcome houtcome, ?_, ?_⟩
    · rw [hregistry.1]
      exact hold.registry
    · rw [hregistry.1, hregistry.2]
      exact hold.registrySlot
    · rw [hstore]
      exact hold.store
    · rw [hsequence]
      exact hold.sequence
    · rw [hretry]
      exact hold.retry
    · intro hequal
      have hlt := Fin.lt_of_le_of_lt hold.manifest hmanifest
      rw [hequal] at hlt
      exact absurd hlt (Fin.lt_irrefl _)

end Historian
