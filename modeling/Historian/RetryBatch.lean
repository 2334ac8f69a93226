import Historian.RetryValid
import Historian.JournalBound
import Historian.RetryCodec
import Historian.ActiveJournal

namespace Historian

open Wire Checks

/-- A batch that continues a cutoff: consecutive sequences, increasing offsets, and keys that
neither the batch nor the snapshot holds twice. -/
structure LegalBatch (snapshot : RetryStateSnapshot) (prior cutoff : DurableCutoff)
    (pending : List PendingRetryOutcome) : Prop where
  bounded : pending.length ≤ maxActiveJournalRecords
  journal : cutoff.journal = prior.journal
  checkpoint : prior.checkpointGeneration.val + 1 = cutoff.checkpointGeneration.val
  sequences : Consecutive (prior.appendSequence :: pending.map (·.appendSequence))
  offsets : (prior.endOffset :: pending.map (·.endOffset)).IsChain (· < ·)
  ends : ∃ last, pending.getLast? = some last ∧ last.appendSequence = cutoff.appendSequence ∧
    last.endOffset = cutoff.endOffset
  distinct : PairwiseDistinct (pending.map (·.qualification))
  fresh : ∀ entry ∈ pending, snapshot.classify entry.qualification = .fresh

/-- The root that a batch leads to. -/
def ManifestCommit.batch (root : ManifestCommit) (generation : U64) (cutoff : DurableCutoff)
    (reference : RetryStateReference) : ManifestCommit :=
  { root with
    manifestGeneration := generation
    durableCutoff := cutoff
    retryState := reference }

/-- What holds between a snapshot and its root beyond the checks: the newest outcome was committed
at the cutoff of the root, or the root is that of the next generation. -/
structure RootLink (snapshot : RetryStateSnapshot) (root : ManifestCommit) : Prop where
  registry : root.registryGeneration ≠ 0
  registrySlot : root.registrySlot < 3
  journal : root.durableCutoff.journal.generation ≠ 0
  registered : root.registryGeneration ≤ root.manifestGeneration
  retried : root.retryState.generation ≤ root.manifestGeneration
  header : journalV1HeaderLen ≤ root.durableCutoff.endOffset.val
  same : ∀ newest ∈ snapshot.replay.getLast?,
    newest.committed.durableCutoff.journal.generation = root.durableCutoff.journal.generation →
      newest.committed.durableCutoff = root.durableCutoff
  crossed : ∀ newest ∈ snapshot.replay.getLast?,
    newest.committed.durableCutoff.journal.generation ≠ root.durableCutoff.journal.generation →
      newest.committed.durableCutoff.journal.generation.val + 1 =
        root.durableCutoff.journal.generation.val
  active : ActiveOutcomes snapshot root.durableCutoff.journal.generation root.sequenceFloor

section Tiers

variable {snapshot : RetryStateSnapshot} {committed : ManifestCommit}

/-- A guard entry as the outcome that it once was; its commit is forgotten. -/
def RetryGuardEntry.revived (committed : ManifestCommit) (entry : RetryGuardEntry) :
    RetryReplayOutcome :=
  ⟨entry.qualification, entry.appendSequence, 0, committed⟩

theorem map_promoted_revived (guard : List RetryGuardEntry) :
    (guard.map (·.revived committed)).map (·.promoted) = guard := by
  rw [List.map_map]
  exact List.map_id _

/-- The tiers of a snapshot are a window of the entries that they hold. -/
theorem tiers_window (committed : ManifestCommit)
    (hreplay : snapshot.replay.length ≤ snapshot.options.replayCapacity)
    (hguard : snapshot.guard.length ≤ snapshot.options.guardCapacity)
    (hfull : snapshot.guard ≠ [] → snapshot.replay.length = snapshot.options.replayCapacity) :
    ⟨snapshot.replay, snapshot.guard⟩ = RetryTiers.window snapshot.options
      (snapshot.guard.map (·.revived committed) ++ snapshot.replay) := by
  have hlength : (snapshot.guard.map (·.revived committed)).length ≤
      snapshot.options.guardCapacity := by
    rw [List.length_map]
    exact hguard
  unfold RetryTiers.window
  by_cases hnil : snapshot.guard = []
  · rw [hnil, List.map_nil, List.nil_append, Fifo.rtake_of_length_le hreplay,
      Fifo.rdrop_of_length_le hreplay, List.rtake_nil, List.map_nil]
  · rw [Fifo.rtake_append (Or.inr (Nat.le_of_eq (hfull hnil).symm)),
      Fifo.rtake_of_length_le hreplay, Fifo.rdrop_append (hfull hnil),
      Fifo.rtake_of_length_le hlength, map_promoted_revived]

/-- Nothing stops the loop over a batch of fresh and distinct keys. -/
theorem advanceEntries_succeeds {previous : U64} {tiers : RetryTiers}
    {pending : List PendingRetryOutcome}
    (hsequences : (previous :: pending.map (·.appendSequence)).IsChain (· < ·))
    (hoffsets : ∀ entry ∈ pending, entry.endOffset ≠ 0)
    (hfresh : ∀ entry ∈ pending, snapshot.classify entry.qualification = .fresh)
    (hdistinct : PairwiseDistinct (pending.map (·.qualification)))
    (htiers : ∀ retained ∈ tiers.retained, ∀ entry ∈ pending,
      retained.classify entry.qualification = .distinct) :
    ∃ result, advanceEntries snapshot committed previous tiers pending = .ok result := by
  induction pending generalizing previous tiers with
  | nil => exact ⟨tiers, rfl⟩
  | cons entry rest ih =>
    rw [List.map_cons, List.isChain_cons_cons] at hsequences
    obtain ⟨hlt, hchain⟩ := hsequences
    rw [List.map_cons, PairwiseDistinct, List.pairwise_cons] at hdistinct
    obtain ⟨hentry, hrest⟩ := hdistinct
    have hpositive : entry.appendSequence ≠ 0 := by
      intro hzero
      rw [hzero, Fin.lt_def] at hlt
      simp at hlt
    have hkeep : ∀ retained ∈ tiers.retained,
        retained.classify entry.qualification = .distinct :=
      fun retained hretained => htiers retained hretained entry (by simp)
    have hpushed : ∀ retained ∈ (tiers.push snapshot.options ⟨entry.qualification,
        entry.appendSequence, entry.endOffset, committed⟩).retained,
        ∀ e ∈ rest, retained.classify e.qualification = .distinct := by
      intro retained hretained e he
      obtain hold | rfl := RetryTiers.retained_push hretained
      · exact htiers retained hold e (List.mem_cons_of_mem _ he)
      · exact hentry e.qualification (List.mem_map_of_mem he)
    obtain ⟨result, hresult⟩ := ih hchain (fun e he => hoffsets e (List.mem_cons_of_mem _ he))
      (fun e he => hfresh e (List.mem_cons_of_mem _ he)) hrest hpushed
    refine ⟨result, ?_⟩
    rw [advanceEntries, then_ok, refuse_ok]
    refine ⟨?_, hresult⟩
    simp only [not_or, Fin.not_le, not_not, List.any_eq_true, decide_eq_true_eq, not_exists,
      not_and]
    refine ⟨hpositive, hlt, hoffsets entry (by simp), hfresh entry (by simp), ?_, ?_⟩
    · intro outcome houtcome
      exact hkeep _ (List.mem_append_left _ (List.mem_map_of_mem houtcome))
    · intro guarded hguarded
      exact hkeep _ (List.mem_append_right _ (List.mem_map_of_mem hguarded))

end Tiers

namespace LegalBatch

variable {snapshot : RetryStateSnapshot} {prior cutoff : DurableCutoff}
  {pending : List PendingRetryOutcome}

theorem nonempty (h : LegalBatch snapshot prior cutoff pending) : pending ≠ [] := by
  intro hnil
  obtain ⟨last, hlast, -⟩ := h.ends
  rw [hnil] at hlast
  cases hlast

/-- Where each entry of a batch lies between the old cutoff and the new one. -/
theorem entry_between (h : LegalBatch snapshot prior cutoff pending)
    {entry : PendingRetryOutcome} (hentry : entry ∈ pending) :
    prior.appendSequence < entry.appendSequence ∧ prior.endOffset < entry.endOffset ∧
      ((entry.appendSequence = cutoff.appendSequence ∧ entry.endOffset = cutoff.endOffset) ∨
        (entry.appendSequence < cutoff.appendSequence ∧ entry.endOffset < cutoff.endOffset)) := by
  have hsequences := List.isChain_iff_pairwise.mp h.sequences.increasing
  have hoffsets := List.isChain_iff_pairwise.mp h.offsets
  rw [List.pairwise_cons] at hsequences hoffsets
  refine ⟨hsequences.1 _ (List.mem_map_of_mem hentry), hoffsets.1 _ (List.mem_map_of_mem hentry),
    ?_⟩
  obtain ⟨last, hlast, hsequence, hoffset⟩ := h.ends
  obtain ⟨init, rfl⟩ := List.getLast?_eq_some_iff.mp hlast
  rw [List.mem_append, List.mem_singleton] at hentry
  rcases hentry with hinit | rfl
  · right
    rw [List.map_append, List.pairwise_append] at hsequences hoffsets
    rw [← hsequence, ← hoffset]
    exact ⟨hsequences.2.2.2 _ (List.mem_map_of_mem hinit) _ (by simp),
      hoffsets.2.2.2 _ (List.mem_map_of_mem hinit) _ (by simp)⟩
  · exact Or.inl ⟨hsequence, hoffset⟩

/-- The sequences of a batch count its entries. -/
theorem length_eq (h : LegalBatch snapshot prior cutoff pending) :
    prior.appendSequence.val + pending.length = cutoff.appendSequence.val ∧
      ∀ first ∈ pending.head?, prior.appendSequence.val + 1 = first.appendSequence.val := by
  have hcount : ∀ {start : U64} {entries : List PendingRetryOutcome},
      Consecutive (start :: entries.map (·.appendSequence)) →
      ∀ last ∈ entries.getLast?, start.val + entries.length = last.appendSequence.val := by
    intro start entries hchain
    induction entries generalizing start with
    | nil => simp
    | cons entry rest ih =>
      rw [List.map_cons, Consecutive, List.isChain_cons_cons] at hchain
      intro last hlast
      cases rest with
      | nil =>
        simp only [List.getLast?_singleton, Option.mem_some_iff] at hlast
        subst hlast
        exact hchain.1
      | cons next others =>
        rw [List.getLast?_cons_cons] at hlast
        have hrest := ih hchain.2 last hlast
        rw [List.length_cons]
        have hfirst := hchain.1
        omega
  obtain ⟨last, hlast, hsequence, -⟩ := h.ends
  refine ⟨?_, ?_⟩
  · rw [← hsequence]
    exact hcount h.sequences last hlast
  · intro first hfirst
    have hchain := (List.isChain_cons.mp h.sequences).1
    refine hchain first.appendSequence ?_
    rw [List.head?_map, Option.mem_def, Option.mem_def.mp hfirst]
    rfl

end LegalBatch

/-- A legal batch on a valid root, and the numbers that the next root takes. -/
structure BatchStep (snapshot : RetryStateSnapshot) (root : ManifestCommit)
    (catalog : GenerationCatalogSnapshot) (pending : List PendingRetryOutcome)
    (cutoff : DurableCutoff) (generation : U64) (reference : RetryStateReference) : Prop where
  valid : ValidRoot snapshot root (some catalog)
  link : RootLink snapshot root
  legal : LegalBatch snapshot root.durableCutoff cutoff pending
  generation : root.manifestGeneration.val + 1 = generation.val
  retry : root.retryState.generation.val + 1 = reference.generation.val
  slot : reference.slot < 3
  other : reference.slot ≠ root.retryState.slot

namespace BatchStep

variable {snapshot : RetryStateSnapshot} {root : ManifestCommit}
  {catalog : GenerationCatalogSnapshot} {pending : List PendingRetryOutcome}
  {cutoff : DurableCutoff} {generation : U64} {reference : RetryStateReference}

theorem state (h : BatchStep snapshot root catalog pending cutoff generation reference) :
    (∀ outcome ∈ snapshot.replay, OutcomeValid snapshot.storeId snapshot.reference outcome) ∧
      snapshot.replay.IsChain (fun a b => OutcomeAfter a.progress b) ∧
      PairwiseDistinct snapshot.retained := by
  have hstate := h.valid.state
  unfold validateState at hstate
  simp only [bind_ok, exists_unit] at hstate
  obtain ⟨-, previous, -, hreplay, hdistinct⟩ := hstate
  obtain ⟨hvalid, -, hchain⟩ := validateReplay_ok.mp hreplay
  exact ⟨hvalid, hchain, (validateDistinct_ok.mp hdistinct).1⟩

/-- Every outcome of the batch passes the checks by itself. -/
theorem valid_new (h : BatchStep snapshot root catalog pending cutoff generation reference) :
    ∀ outcome ∈ batchOutcomes pending (root.batch generation cutoff reference),
      OutcomeValid snapshot.storeId (some reference) outcome := by
  intro outcome houtcome
  obtain ⟨entry, hentry, rfl⟩ := List.mem_map.mp houtcome
  obtain ⟨hsequence, hoffset, hend⟩ := h.legal.entry_between hentry
  have hlink := h.link
  have hgeneration := h.generation
  have hretry := h.retry
  have hcheckpoint := h.legal.checkpoint
  have hregistered := hlink.registered
  have hretried := hlink.retried
  have hposition : entry.appendSequence ≤ cutoff.appendSequence ∧
      entry.endOffset ≤ cutoff.endOffset := by
    rcases hend with ⟨hs, he⟩ | ⟨hs, he⟩
    · exact ⟨Fin.le_of_eq hs, Fin.le_of_eq he⟩
    · exact ⟨Fin.le_of_lt hs, Fin.le_of_lt he⟩
  have hpositive : ∀ {a b : U64}, a < b → b ≠ 0 := by
    intro a b hab hzero
    rw [hzero, Fin.lt_def] at hab
    simp at hab
  have hnonzero : ∀ {a b : U64}, a.val + 1 = b.val → b ≠ 0 := by
    intro a b hab hzero
    rw [hzero] at hab
    simp at hab
  rw [Fin.le_def] at hregistered hretried
  constructor
  · exact hpositive hsequence
  · exact hpositive hoffset
  · exact hnonzero hgeneration
  · exact hlink.registry
  · exact hlink.registrySlot
  · rw [h.valid.store, ← h.legal.journal]
    rfl
  · change cutoff.journal.generation ≠ 0
    rw [h.legal.journal]
    exact hlink.journal
  · exact hnonzero hcheckpoint
  · exact hpositive (Fin.lt_of_lt_of_le hsequence hposition.1)
  · exact hpositive (Fin.lt_of_lt_of_le hoffset hposition.2)
  · exact hposition
  · intro heq
    rcases hend with ⟨-, he⟩ | ⟨hs, -⟩
    · exact he
    · exact absurd heq (Fin.ne_of_lt hs)
  · intro hlt
    rcases hend with ⟨hs, -⟩ | ⟨-, he⟩
    · exact absurd hs (Fin.ne_of_lt hlt)
    · exact he
  · exact h.slot
  · exact hnonzero hretry
  · change root.registryGeneration ≤ generation
    rw [Fin.le_def]
    omega
  · change reference.generation ≤ generation
    rw [Fin.le_def]
    omega
  · intro current hcurrent
    cases hcurrent
    exact Fin.le_refl _
  · intro hone
    change cutoff.journal.generation.val = _ at hone
    rw [h.legal.journal] at hone
    exact h.valid.first hone
  · intro hmany
    change cutoff.journal.generation.val ≠ _ at hmany
    rw [h.legal.journal] at hmany
    have hne : root.durableCutoff.journal.generation.val ≠ 0 :=
      fun hzero => hlink.journal (Fin.ext hzero)
    have h1 : activeJournalGeneration = 1 := rfl
    obtain ⟨hfloor, hcatalog, hle⟩ := h.valid.later (by omega)
    exact ⟨hfloor, hcatalog, Fin.le_trans hle
      (Fin.le_of_lt (Fin.lt_of_lt_of_le hsequence hposition.1))⟩

theorem valid_all (h : BatchStep snapshot root catalog pending cutoff generation reference) :
    ∀ outcome ∈ snapshot.replay ++
        batchOutcomes pending (root.batch generation cutoff reference),
      OutcomeValid snapshot.storeId (some reference) outcome := by
  intro outcome houtcome
  rw [List.mem_append] at houtcome
  rcases houtcome with hold | hnew
  · have hvalid := h.state.1 outcome hold
    refine { hvalid with current := ?_ }
    intro current hcurrent
    cases hcurrent
    have hle := hvalid.current _ (Option.mem_def.mpr h.valid.reference)
    have hretry := h.retry
    rw [Fin.le_def] at hle ⊢
    omega
  · exact h.valid_new outcome hnew

/-- What the checks say about the newest outcome of the snapshot. -/
theorem newest_at_root (h : BatchStep snapshot root catalog pending cutoff generation reference)
    {newest : RetryReplayOutcome} (hnewest : newest ∈ snapshot.replay.getLast?) :
    newest.appendSequence = root.durableCutoff.appendSequence ∧
      newest.committed.durableCutoff.appendSequence = root.durableCutoff.appendSequence ∧
      newest.committed.retryState = root.retryState ∧
      RootOutcome root (some catalog) newest ∧
      ((newest.committed.durableCutoff = root.durableCutoff ∧
          newest.endOffset = root.durableCutoff.endOffset) ∨
        (newest.committed.durableCutoff.journal.generation.val + 1 =
            root.durableCutoff.journal.generation.val ∧
          root.sequenceFloor = root.durableCutoff.appendSequence ∧ root.catalog ≠ none)) := by
  obtain ⟨-, hsequence, hcovered, hretry⟩ := h.valid.newest newest hnewest
  obtain ⟨hends, hendOffset⟩ := (progression_iff.mp h.valid.progression).2.2 newest hnewest
  have houtcome := validateRootOutcome_ok.mp
    (h.valid.outcomes newest (List.mem_of_getLast? hnewest))
  refine ⟨hsequence, hends.symm.trans hsequence, hretry, houtcome, ?_⟩
  by_cases hsame : newest.committed.durableCutoff.journal.generation =
      root.durableCutoff.journal.generation
  · have hcutoff := h.link.same newest hnewest hsame
    refine Or.inl ⟨hcutoff, ?_⟩
    rw [hendOffset, hcutoff]
  · have hcrossed := h.link.crossed newest hnewest hsame
    refine Or.inr ⟨hcrossed, (newestCovered_crossed hcovered hsame).symm, ?_⟩
    · have hjournal := (h.state.1 newest (List.mem_of_getLast? hnewest)).journal
      have hne : newest.committed.durableCutoff.journal.generation.val ≠ 0 :=
        fun hzero => hjournal (Fin.ext hzero)
      have h1 : activeJournalGeneration = 1 := rfl
      exact (h.valid.later (by omega)).2.1

theorem new_mem_head (h : BatchStep snapshot root catalog pending cutoff generation reference)
    {outcome : RetryReplayOutcome}
    (houtcome : outcome ∈
      (batchOutcomes pending (root.batch generation cutoff reference)).head?) :
    outcome.committed = root.batch generation cutoff reference ∧
      root.durableCutoff.appendSequence.val + 1 = outcome.appendSequence.val ∧
      root.durableCutoff.endOffset < outcome.endOffset ∧
      root.durableCutoff.appendSequence < cutoff.appendSequence ∧
      root.durableCutoff.endOffset < cutoff.endOffset := by
  rw [batchOutcomes, List.head?_map, Option.mem_def, Option.map_eq_some_iff] at houtcome
  obtain ⟨entry, hentry, rfl⟩ := houtcome
  obtain ⟨hsequence, hoffset, hend⟩ := h.legal.entry_between (List.mem_of_mem_head? hentry)
  refine ⟨rfl, h.legal.length_eq.2 entry hentry, hoffset, ?_, ?_⟩
  · rcases hend with ⟨hs, -⟩ | ⟨hs, -⟩
    · rw [← hs]
      exact hsequence
    · exact Fin.lt_trans hsequence hs
  · rcases hend with ⟨-, he⟩ | ⟨-, he⟩
    · rw [← he]
      exact hoffset
    · exact Fin.lt_trans hoffset he

theorem outcomeAfter_all
    (h : BatchStep snapshot root catalog pending cutoff generation reference) :
    (snapshot.replay ++ batchOutcomes pending (root.batch generation cutoff reference)).IsChain
      fun a b => OutcomeAfter a.progress b := by
  rw [List.isChain_append]
  refine ⟨h.state.2.1, ?_, ?_⟩
  · -- two entries of the batch under the same commit
    rw [batchOutcomes, List.isChain_map]
    have hsequences := (List.isChain_cons.mp h.legal.sequences.increasing).2
    have hoffsets := (List.isChain_cons.mp h.legal.offsets).2
    rw [List.isChain_map] at hsequences hoffsets
    have hboth := (List.isChain_iff_pairwise.mp hsequences).and
      (List.isChain_iff_pairwise.mp hoffsets)
    refine hboth.isChain.imp fun a b hab => ?_
    exact ⟨hab.1, fun _ => hab.2, Fin.le_refl _, Fin.le_refl _, Fin.le_refl _,
      fun _ => Fin.le_refl _, Fin.le_refl _, Fin.le_refl _⟩
  · -- the first entry of the batch behind the newest outcome of the snapshot
    intro newest hnewest first hfirst
    obtain ⟨hsequence, hcutoff, hretry, hroot, hcase⟩ := h.newest_at_root hnewest
    obtain ⟨hcommitted, hnext, hoffset, hgrows, -⟩ := h.new_mem_head hfirst
    have hjournal : first.committed.durableCutoff.journal = root.durableCutoff.journal := by
      rw [hcommitted]
      exact h.legal.journal
    have hgeneration := h.generation
    have hretryNext := h.retry
    have hcheckpoint := h.legal.checkpoint
    constructor
    · change newest.appendSequence < first.appendSequence
      rw [hsequence, Fin.lt_def]
      omega
    · intro heq
      change _ = newest.committed.durableCutoff.journal.generation at heq
      change newest.endOffset < first.endOffset
      rw [hjournal] at heq
      rcases hcase with ⟨-, hend⟩ | ⟨hcrossed, -⟩
      · rw [hend]
        exact hoffset
      · rw [heq] at hcrossed
        omega
    · rw [hjournal]
      exact hroot.journal
    · rw [hcommitted]
      refine Fin.le_trans hroot.manifest ?_
      change root.manifestGeneration ≤ generation
      rw [Fin.le_def]
      omega
    · rw [hcommitted]
      exact hroot.registry
    · intro heq
      change _ = newest.committed.durableCutoff.journal.generation at heq
      rw [hjournal] at heq
      rcases hcase with ⟨hsame, -⟩ | ⟨hcrossed, -⟩
      · rw [hcommitted]
        change newest.committed.durableCutoff.checkpointGeneration ≤ cutoff.checkpointGeneration
        rw [hsame, Fin.le_def]
        omega
      · rw [heq] at hcrossed
        omega
    · rw [hcommitted]
      change newest.committed.durableCutoff.appendSequence ≤ cutoff.appendSequence
      rw [hcutoff]
      exact Fin.le_of_lt hgrows
    · rw [hcommitted]
      change newest.committed.retryState.generation ≤ reference.generation
      rw [hretry, Fin.le_def]
      omega

/-- The next root follows the commit of the newest outcome. -/
theorem commit_progression
    (h : BatchStep snapshot root catalog pending cutoff generation reference)
    {newest : RetryReplayOutcome} (hnewest : newest ∈ snapshot.replay.getLast?)
    (hgrows : root.durableCutoff.appendSequence < cutoff.appendSequence)
    (hendGrows : root.durableCutoff.endOffset < cutoff.endOffset) :
    validateCommitProgression newest.committed (root.batch generation cutoff reference) =
      .ok () := by
  obtain ⟨-, hcutoff, hretry, hroot, hcase⟩ := h.newest_at_root hnewest
  have hretryNext := h.retry
  have hgeneration := h.generation
  have hmanifest := hroot.manifest
  have hne : reference.generation ≠ newest.committed.retryState.generation := by
    rw [hretry]
    intro heq
    rw [heq] at hretryNext
    omega
  rw [Fin.le_def] at hmanifest
  rw [validateCommitProgression_next hne]
  dsimp only [ManifestCommit.batch]
  refine ⟨?_, ?_, ?_, ?_, ?_, ?_, hroot.registry, ?_⟩
  · rw [hretry]
    exact hretryNext
  · rw [hretry]
    exact h.other
  · rw [Fin.lt_def]
    omega
  · rw [hcutoff]
    exact hgrows
  · intro hsame
    rw [h.legal.journal] at hsame
    rcases hcase with ⟨hcommitted, -⟩ | ⟨hcrossed, -⟩
    · rw [hcommitted]
      exact ⟨h.legal.checkpoint, hendGrows⟩
    · rw [hsame] at hcrossed
      omega
  · intro hdiffers
    rw [h.legal.journal] at hdiffers ⊢
    rcases hcase with ⟨hcommitted, -⟩ | ⟨hcrossed, hfloor, hcatalog⟩
    · rw [hcommitted] at hdiffers
      exact absurd rfl hdiffers
    · exact ⟨hcrossed, hfloor.trans hcutoff.symm, hcatalog⟩
  · intro heq
    exact (hroot.registrySlot heq.symm).symm

theorem outcomeSucceeds_all
    (h : BatchStep snapshot root catalog pending cutoff generation reference) :
    (snapshot.replay ++ batchOutcomes pending (root.batch generation cutoff reference)).IsChain
      OutcomeSucceeds := by
  obtain ⟨-, hchain, hlast⟩ := progression_iff.mp h.valid.progression
  rw [List.isChain_append]
  refine ⟨hchain, ?_, ?_⟩
  · -- the commit of a batch is the same for all its entries
    rw [batchOutcomes, List.isChain_map]
    refine (List.pairwise_of_forall fun a b => ?_).isChain
    exact ⟨validateCommitProgression_self _, fun hne => absurd rfl hne⟩
  · intro newest hnewest first hfirst
    obtain ⟨hcommitted, -, -, hgrows, hendGrows⟩ := h.new_mem_head hfirst
    refine ⟨?_, fun _ => hlast newest hnewest⟩
    rw [hcommitted]
    exact h.commit_progression hnewest hgrows hendGrows

/-- Every outcome lies before the next root. Old generations stay with the catalog. -/
theorem rootOutcome_all
    (h : BatchStep snapshot root catalog pending cutoff generation reference) :
    ∀ outcome ∈ snapshot.replay ++
        batchOutcomes pending (root.batch generation cutoff reference),
      RootOutcome (root.batch generation cutoff reference) none outcome := by
  have hgeneration := h.generation
  have hretry := h.retry
  have hcheckpoint := h.legal.checkpoint
  obtain ⟨first, hfirst⟩ : ∃ first, first ∈
      (batchOutcomes pending (root.batch generation cutoff reference)).head? := by
    cases hpending : pending with
    | nil => exact absurd hpending h.legal.nonempty
    | cons entry rest => exact ⟨_, rfl⟩
  obtain ⟨-, -, -, hgrows, hendGrows⟩ := h.new_mem_head hfirst
  intro outcome houtcome
  rw [List.mem_append] at houtcome
  rcases houtcome with hold | hnew
  · have hroot := validateRootOutcome_ok.mp (h.valid.outcomes outcome hold)
    have hmanifest := hroot.manifest
    have hreference := hroot.retry
    rw [Fin.le_def] at hmanifest hreference
    constructor
    · change _ ≤ generation
      rw [Fin.le_def]
      omega
    · exact hroot.registry
    · exact hroot.registrySlot
    · change _ = cutoff.journal.storeId
      rw [h.legal.journal]
      exact hroot.store
    · change _ ≤ cutoff.journal.generation
      rw [h.legal.journal]
      exact hroot.journal
    · intro heq
      change _ = cutoff.journal.generation at heq
      rw [h.legal.journal] at heq
      have hle := hroot.checkpoint heq
      change _ ≤ cutoff.checkpointGeneration
      rw [Fin.le_def] at hle ⊢
      omega
    · exact Fin.le_trans hroot.sequence (Fin.le_of_lt hgrows)
    · intro heq
      change _ = cutoff.journal.generation at heq
      rw [h.legal.journal] at heq
      exact Fin.le_trans (hroot.offset heq) (Fin.le_of_lt hendGrows)
    · intro hlt
      change _ < cutoff.journal.generation at hlt
      rw [h.legal.journal, Fin.lt_def] at hlt
      have hjournal := (h.state.1 outcome hold).journal
      have hne : outcome.committed.durableCutoff.journal.generation.val ≠ 0 :=
        fun hzero => hjournal (Fin.ext hzero)
      have h1 : activeJournalGeneration = 1 := rfl
      exact Option.isSome_iff_ne_none.mpr (h.valid.later (by omega)).2.1
    · change _ ≤ reference.generation
      rw [Fin.le_def]
      omega
    · intro heq
      change _ = generation at heq
      rw [heq] at hmanifest
      omega
  · obtain ⟨entry, -, rfl⟩ := List.mem_map.mp hnew
    exact ⟨Fin.le_refl _, Fin.le_refl _, fun _ => rfl, rfl, Fin.le_refl _, fun _ => Fin.le_refl _,
      Fin.le_refl _, fun _ => Fin.le_refl _, fun hlt => absurd hlt (Fin.lt_irrefl _),
      Fin.le_refl _, fun _ => rfl⟩

theorem map_sequence_batch (committed : ManifestCommit) :
    (batchOutcomes pending committed).map (·.appendSequence) =
      pending.map (·.appendSequence) := by
  rw [batchOutcomes, List.map_map]
  rfl

/-- The sequences of the snapshot and of the batch have no hole between them. -/
theorem consecutive_all
    (h : BatchStep snapshot root catalog pending cutoff generation reference) :
    Consecutive (snapshot.guard.map (·.appendSequence) ++ (snapshot.replay ++
      batchOutcomes pending (root.batch generation cutoff reference)).map (·.appendSequence)) := by
  have hbatch := List.isChain_cons.mp h.legal.sequences
  rw [List.map_append, map_sequence_batch]
  by_cases hnil : snapshot.replay = []
  · rw [hnil, (h.valid.empty hnil).1]
    exact hbatch.2
  · obtain ⟨-, hold, -⟩ := chronological_iff.mp (h.valid.chronological hnil)
    rw [← List.append_assoc]
    refine List.isChain_append.mpr ⟨hold, hbatch.2, ?_⟩
    intro last hlast first hfirst
    have hnewest : snapshot.replay.getLast? = some (snapshot.replay.getLast hnil) :=
      List.getLast?_eq_some_getLast hnil
    rw [List.getLast?_append, List.getLast?_map, hnewest, Option.map_some, Option.some_or,
      Option.mem_some_iff] at hlast
    rw [← hlast, (h.newest_at_root hnewest).1]
    exact hbatch.1 first hfirst

/-- No key of the snapshot or of the batch occurs twice. -/
theorem distinct_all
    (h : BatchStep snapshot root catalog pending cutoff generation reference) :
    ((snapshot.guard ++ (snapshot.replay ++ batchOutcomes pending
      (root.batch generation cutoff reference)).map (·.promoted)).map
        (·.qualification.scopeKey)).Nodup := by
  have hold := pairwiseDistinct_iff.mp h.state.2.2
  have hnew := pairwiseDistinct_iff.mp h.legal.distinct
  have hkeys : (snapshot.guard ++ (snapshot.replay ++ batchOutcomes pending
      (root.batch generation cutoff reference)).map (·.promoted)).map
        (·.qualification.scopeKey) =
      (snapshot.guard.map (·.qualification.scopeKey) ++
        snapshot.replay.map (·.qualification.scopeKey)) ++
        pending.map (·.qualification.scopeKey) := by
    simp only [batchOutcomes, List.map_append, List.map_map, List.append_assoc]
    rfl
  rw [RetryStateSnapshot.retained, List.map_append, List.map_map, List.map_map] at hold
  rw [List.map_map] at hnew
  rw [hkeys, List.nodup_append]
  refine ⟨List.perm_append_comm.nodup_iff.mp hold, hnew, ?_⟩
  intro key hkey other hother heq
  obtain ⟨entry, hentry, rfl⟩ := List.mem_map.mp hother
  have hfresh := RetryStateSnapshot.classify_fresh.mp (h.legal.fresh entry hentry)
  have hretained : ∃ retained ∈ snapshot.retained, retained.scopeKey = key := by
    rw [List.mem_append, List.mem_map, List.mem_map] at hkey
    rcases hkey with ⟨guarded, hguarded, hscope⟩ | ⟨outcome, houtcome, hscope⟩
    · exact ⟨_, List.mem_append_right _ (List.mem_map_of_mem hguarded), hscope⟩
    · exact ⟨_, List.mem_append_left _ (List.mem_map_of_mem houtcome), hscope⟩
  obtain ⟨retained, hmem, hscope⟩ := hretained
  exact RetryQualification.classify_distinct.mp (hfresh retained hmem) (hscope.trans heq)

/-- Where the tiers stand after the batch: at the end of what the snapshot and the batch hold. -/
structure Folded (snapshot : RetryStateSnapshot) (batch : List RetryReplayOutcome)
    (tiers : RetryTiers) : Prop where
  replay : tiers.replay <:+ snapshot.replay ++ batch
  entries : tiers.guard ++ tiers.replay.map (·.promoted) <:+
    snapshot.guard ++ (snapshot.replay ++ batch).map (·.promoted)
  replayBound : tiers.replay.length ≤ snapshot.options.replayCapacity
  guardBound : tiers.guard.length ≤ snapshot.options.guardCapacity
  full : tiers.guard ≠ [] → tiers.replay.length = snapshot.options.replayCapacity
  newest : tiers.replay.getLast? = batch.getLast?

theorem folded_window {batch : List RetryReplayOutcome} (hbatch : batch ≠ [])
    (committed : ManifestCommit)
    (hfull : snapshot.guard ≠ [] → snapshot.replay.length = snapshot.options.replayCapacity) :
    Folded snapshot batch (RetryTiers.window snapshot.options
      ((snapshot.guard.map (·.revived committed) ++ snapshot.replay) ++ batch)) := by
  have hpositive := snapshot.options.replay_pos
  have hreplay : (snapshot.guard.map (·.revived committed) ++ snapshot.replay ++ batch).rtake
      snapshot.options.replayCapacity =
      (snapshot.replay ++ batch).rtake snapshot.options.replayCapacity := by
    rw [List.append_assoc]
    apply Fifo.rtake_append
    by_cases hnil : snapshot.guard = []
    · exact Or.inl (by rw [hnil, List.map_nil])
    · right
      have hlength := hfull hnil
      rw [List.length_append]
      omega
  unfold RetryTiers.window
  constructor
  · dsimp only
    rw [hreplay]
    exact Fifo.rtake_suffix _ _
  · dsimp only
    have hsuffix := (Fifo.rtake_rdrop_suffix (snapshot.guard.map (·.revived committed) ++
      snapshot.replay ++ batch) snapshot.options.guardCapacity
      snapshot.options.replayCapacity).map (·.promoted)
    have hmap : (snapshot.guard.map (·.revived committed) ++ snapshot.replay ++ batch).map
        (·.promoted) = snapshot.guard ++ (snapshot.replay ++ batch).map (·.promoted) := by
      rw [List.append_assoc, List.map_append, map_promoted_revived]
    rw [hmap, List.map_append] at hsuffix
    exact hsuffix
  · rw [Fifo.length_rtake]
    exact Nat.min_le_left _ _
  · rw [List.length_map, Fifo.length_rtake]
    exact Nat.min_le_left _ _
  · intro hguard
    have hlength := List.length_pos_iff.mpr hguard
    rw [List.length_map, Fifo.length_rtake, Fifo.length_rdrop] at hlength
    rw [Fifo.length_rtake]
    omega
  · dsimp only
    obtain ⟨init, last, hlast⟩ := (List.eq_nil_or_concat batch).resolve_left hbatch
    obtain ⟨n, hn⟩ : ∃ n, snapshot.options.replayCapacity = n + 1 :=
      ⟨snapshot.options.replayCapacity - 1, by omega⟩
    rw [hn, hlast, List.concat_eq_append, ← List.append_assoc, List.rtake_concat_succ,
      List.getLast?_concat, List.getLast?_concat]

theorem folds (h : BatchStep snapshot root catalog pending cutoff generation reference) :
    ∃ tiers, advanceEntries snapshot (root.batch generation cutoff reference)
      snapshot.lastSequence ⟨snapshot.replay, snapshot.guard⟩ pending = .ok tiers ∧
      Folded snapshot (batchOutcomes pending (root.batch generation cutoff reference)) tiers := by
  obtain ⟨hreplay, hguard, -⟩ := validateState_bounds h.valid.state
  have hfull : snapshot.guard ≠ [] →
      snapshot.replay.length = snapshot.options.replayCapacity := by
    intro hne
    have hreplayed : snapshot.replay ≠ [] := fun hnil => hne (h.valid.empty hnil).1
    exact (h.valid.newest _ (List.getLast?_eq_some_getLast hreplayed)).1 hne
  have hprevious : snapshot.lastSequence ≤ root.durableCutoff.appendSequence := by
    unfold RetryStateSnapshot.lastSequence
    split
    next newest hnewest => exact Fin.le_of_eq (h.newest_at_root hnewest).1
    next hnone =>
      rw [(h.valid.empty (List.getLast?_eq_none_iff.mp hnone)).1]
      exact Fin.zero_le _
  have hsequences : (snapshot.lastSequence :: pending.map (·.appendSequence)).IsChain (· < ·) :=
    List.IsChain.imp_head (fun hlt => Fin.lt_of_le_of_lt hprevious hlt)
      h.legal.sequences.increasing
  have hoffsets : ∀ entry ∈ pending, entry.endOffset ≠ 0 := by
    intro entry hentry hzero
    have hlt := (h.legal.entry_between hentry).2.1
    rw [hzero, Fin.lt_def] at hlt
    simp at hlt
  have htiers : ∀ retained ∈ (⟨snapshot.replay, snapshot.guard⟩ : RetryTiers).retained,
      ∀ entry ∈ pending, retained.classify entry.qualification = .distinct :=
    fun retained hretained entry hentry =>
      RetryStateSnapshot.classify_fresh.mp (h.legal.fresh entry hentry) retained hretained
  obtain ⟨tiers, hfold⟩ := advanceEntries_succeeds hsequences hoffsets h.legal.fresh
    h.legal.distinct htiers
  refine ⟨tiers, hfold, ?_⟩
  rw [tiers_window root hreplay hguard hfull] at hfold
  rw [advanceEntries_window hfold]
  refine folded_window ?_ root hfull
  rw [batchOutcomes, ne_eq, List.map_eq_nil_iff]
  exact h.legal.nonempty

/-- The snapshot that a batch leads to. -/
def folded (snapshot : RetryStateSnapshot) (reference : RetryStateReference)
    (tiers : RetryTiers) : RetryStateSnapshot :=
  ⟨snapshot.storeId, snapshot.options, some reference, tiers.replay, tiers.guard⟩

section Candidate

variable {tiers : RetryTiers}

theorem folded_sequences
    (h : BatchStep snapshot root catalog pending cutoff generation reference)
    (hfold : Folded snapshot (batchOutcomes pending (root.batch generation cutoff reference))
      tiers) :
    Consecutive (tiers.guard.map (·.appendSequence) ++ tiers.replay.map (·.appendSequence)) ∧
      ∀ sequence ∈ tiers.guard.map (·.appendSequence) ++ tiers.replay.map (·.appendSequence),
        sequence ≠ 0 ∧ sequence ≤ cutoff.appendSequence := by
  have hsuffix := hfold.entries.map (·.appendSequence)
  have hmap : ∀ (guard : List RetryGuardEntry) (replay : List RetryReplayOutcome),
      (guard ++ replay.map (·.promoted)).map (·.appendSequence) =
        guard.map (·.appendSequence) ++ replay.map (·.appendSequence) := by
    intro guard replay
    rw [List.map_append, List.map_map]
    rfl
  rw [hmap, hmap] at hsuffix
  refine ⟨List.IsChain.suffix h.consecutive_all hsuffix, ?_⟩
  intro sequence hsequence
  have hmem := hsuffix.mem hsequence
  rw [List.map_append, map_sequence_batch, ← List.append_assoc, List.mem_append] at hmem
  obtain ⟨last, hlast, -, -⟩ := h.legal.ends
  rcases hmem with hold | hnew
  · obtain ⟨-, -, hpositive⟩ := validateState_bounds h.valid.state
    have hgrows : root.durableCutoff.appendSequence ≤ cutoff.appendSequence := by
      have hcount := h.legal.length_eq.1
      rw [Fin.le_def]
      omega
    have hreplayed : snapshot.replay ≠ [] := by
      intro hnil
      rw [hnil, (h.valid.empty hnil).1] at hold
      cases hold
    obtain ⟨-, -, hbound⟩ := chronological_iff.mp (h.valid.chronological hreplayed)
    refine ⟨?_, Fin.le_trans (hbound sequence hold) hgrows⟩
    intro hzero
    have hval : sequence.val ∈ snapshot.sequences := by
      have hvals := List.mem_map_of_mem (f := fun value : U64 => value.val) hold
      rw [List.map_append, List.map_map, List.map_map] at hvals
      exact hvals
    have hlt := hpositive _ hval
    rw [hzero] at hlt
    simp at hlt
  · obtain ⟨entry, hentry, rfl⟩ := List.mem_map.mp hnew
    obtain ⟨hsequence, -, hend⟩ := h.legal.entry_between hentry
    refine ⟨?_, ?_⟩
    · intro hzero
      rw [hzero, Fin.lt_def] at hsequence
      simp at hsequence
    · rcases hend with ⟨hs, -⟩ | ⟨hs, -⟩
      · exact Fin.le_of_eq hs
      · exact Fin.le_of_lt hs

theorem folded_state (h : BatchStep snapshot root catalog pending cutoff generation reference)
    (hfold : Folded snapshot (batchOutcomes pending (root.batch generation cutoff reference))
      tiers) : validateState (folded snapshot reference tiers) = .ok () := by
  obtain ⟨hconsecutive, hpositive⟩ := h.folded_sequences hfold
  have hincreasing := List.isChain_append.mp hconsecutive.increasing
  have hbounded := snapshot.options.bounded
  have hreplayBound := hfold.replayBound
  have hguardBound := hfold.guardBound
  have hguard : (0 :: tiers.guard.map (·.appendSequence)).IsChain (· < ·) := by
    refine List.isChain_cons.mpr ⟨?_, hincreasing.1⟩
    intro first hfirst
    have hne := (hpositive first (List.mem_append_left _ (List.mem_of_mem_head? hfirst))).1
    exact Fin.pos_iff_ne_zero.mpr hne
  have hreplay : validateReplay (folded snapshot reference tiers)
      (.origin ((tiers.guard.map (·.appendSequence)).getLast?.getD 0)) tiers.replay = .ok () := by
    rw [validateReplay_ok]
    refine ⟨fun outcome houtcome => h.valid_all outcome (hfold.replay.mem houtcome), ?_,
      h.outcomeAfter_all.suffix hfold.replay⟩
    intro first hfirst
    have hmem := List.mem_of_mem_head? hfirst
    rw [outcomeAfter_origin (h.valid_all first (hfold.replay.mem hmem)).journal]
    cases hlast : (tiers.guard.map (·.appendSequence)).getLast? with
    | none =>
      have hne := (hpositive first.appendSequence
        (List.mem_append_right _ (List.mem_map_of_mem hmem))).1
      exact Fin.pos_iff_ne_zero.mpr hne
    | some last =>
      refine hincreasing.2.2 last hlast first.appendSequence ?_
      rw [List.head?_map, Option.mem_def, Option.mem_def.mp hfirst]
      rfl
  have hdistinct : validateDistinct [] (folded snapshot reference tiers).retained = .ok () := by
    rw [validateDistinct_ok, pairwiseDistinct_iff]
    refine ⟨?_, by simp⟩
    have hkeys := h.distinct_all.sublist (hfold.entries.sublist.map (·.qualification.scopeKey))
    rw [List.map_append, List.map_map] at hkeys
    rw [RetryStateSnapshot.retained, List.map_append, List.map_map, List.map_map]
    exact List.perm_append_comm.nodup_iff.mp hkeys
  unfold validateState
  rw [then_ok, bind_ok]
  refine ⟨?_, _, validateGuardOrder_of_chain hguard, ?_⟩
  · rw [refuse_ok]
    simp only [not_or, Nat.not_lt, folded, Option.mem_some_iff, exists_eq_left', UInt8.not_le]
    refine ⟨hreplayBound, hguardBound, by omega, h.slot, ?_⟩
    intro hzero
    have hretry := h.retry
    rw [hzero] at hretry
    simp at hretry
  · rw [then_ok]
    exact ⟨hreplay, hdistinct⟩

theorem folded_root (h : BatchStep snapshot root catalog pending cutoff generation reference)
    (hfold : Folded snapshot (batchOutcomes pending (root.batch generation cutoff reference))
      tiers) :
    ValidRoot (folded snapshot reference tiers) (root.batch generation cutoff reference) none := by
  obtain ⟨hconsecutive, hbound⟩ := h.folded_sequences hfold
  obtain ⟨last, hlast, hsequence, hoffset⟩ := h.legal.ends
  have hnewest : tiers.replay.getLast? = some ⟨last.qualification, last.appendSequence,
      last.endOffset, root.batch generation cutoff reference⟩ := by
    rw [hfold.newest, batchOutcomes, List.getLast?_map, hlast]
    rfl
  have hreplayed : tiers.replay ≠ [] := by
    intro hnil
    rw [hnil] at hnewest
    cases hnewest
  have hgrows : root.durableCutoff.appendSequence ≤ cutoff.appendSequence := by
    have hcount := h.legal.length_eq.1
    rw [Fin.le_def]
    omega
  constructor
  · exact h.folded_state hfold
  · rfl
  · rw [folded, h.valid.store, ← h.legal.journal]
    rfl
  · intro hone
    change cutoff.journal.generation.val = _ at hone
    rw [h.legal.journal] at hone
    exact h.valid.first hone
  · intro hmany
    change _ < cutoff.journal.generation.val at hmany
    rw [h.legal.journal] at hmany
    obtain ⟨hfloor, hcatalog, hle⟩ := h.valid.later hmany
    exact ⟨hfloor, hcatalog, Fin.le_trans hle hgrows⟩
  · intro known hknown
    cases hknown
  · intro hnil
    exact absurd hnil hreplayed
  · intro newest hfound
    change newest ∈ tiers.replay.getLast? at hfound
    rw [hnewest, Option.mem_some_iff] at hfound
    subst hfound
    refine ⟨hfold.full, hsequence, ?_, rfl⟩
    unfold newestCovered
    simp [ManifestCommit.batch, hoffset]
  · intro _
    rw [chronological_iff]
    refine ⟨?_, hconsecutive, fun sequence hmem => (hbound sequence hmem).2⟩
    intro hnil
    exact hreplayed (List.map_eq_nil_iff.mp (List.append_eq_nil_iff.mp hnil).2)
  · intro outcome houtcome
    exact validateRootOutcome_ok.mpr (h.rootOutcome_all outcome (hfold.replay.mem houtcome))
  · rw [progression_iff]
    refine ⟨by simp, h.outcomeSucceeds_all.suffix hfold.replay, ?_⟩
    intro newest hfound
    change newest ∈ tiers.replay.getLast? at hfound
    rw [hnewest, Option.mem_some_iff] at hfound
    subst hfound
    exact ⟨hsequence, hoffset⟩

end Candidate

theorem validateTransitionPreflight_of {committed : ManifestCommit}
    {first last : PendingRetryOutcome} (hhead : pending.head? = some first)
    (hlast : pending.getLast? = some last) (hreference : committed.retryState = reference)
    (hbounded : pending.length ≤ maxPersistedRetryEntries)
    (hstore : committed.durableCutoff.journal.storeId = snapshot.storeId)
    (hfirst : first.appendSequence.val + (pending.length - 1) =
      committed.durableCutoff.appendSequence.val)
    (hsequence : last.appendSequence = committed.durableCutoff.appendSequence)
    (hoffset : last.endOffset = committed.durableCutoff.endOffset)
    (hnewest : ∀ newest ∈ snapshot.replay.getLast?,
      newest.committed.durableCutoff.appendSequence.val + pending.length =
        committed.durableCutoff.appendSequence.val) :
    validateTransitionPreflight snapshot reference pending committed = .ok () := by
  unfold validateTransitionPreflight
  rw [hhead, hlast]
  dsimp only
  rw [then_ok, then_ok]
  simp only [refuse_ok, not_or, not_not, Nat.not_lt]
  refine ⟨by omega, ⟨hreference, hbounded, hstore, by omega, hsequence, hoffset⟩, ?_⟩
  cases hfound : snapshot.replay.getLast? with
  | none => rfl
  | some newest =>
    dsimp only
    rw [refuse_ok, not_not]
    exact hnewest newest hfound

/-- A legal batch advances the snapshot, and the result is valid under the next root. -/
theorem advances (h : BatchStep snapshot root catalog pending cutoff generation reference) :
    ∃ candidate, snapshot.advance reference pending (root.batch generation cutoff reference) =
        .ok candidate ∧
      ValidRoot candidate (root.batch generation cutoff reference) (some catalog) := by
  obtain ⟨tiers, hentries, hfold⟩ := h.folds
  have hroot := h.folded_root hfold
  have hpreflight : validateTransitionPreflight snapshot reference pending
      (root.batch generation cutoff reference) = .ok () := by
    obtain ⟨last, hlast, hsequence, hoffset⟩ := h.legal.ends
    obtain ⟨hcount, hfirst⟩ := h.legal.length_eq
    have hbounded := h.legal.bounded
    have hmost : maxActiveJournalRecords = maxPersistedRetryEntries := rfl
    have hpositive : 0 < pending.length := List.length_pos_iff.mpr h.legal.nonempty
    obtain ⟨first, hhead⟩ : ∃ first, pending.head? = some first :=
      ⟨_, List.head?_eq_some_head h.legal.nonempty⟩
    have hstart := hfirst first hhead
    refine validateTransitionPreflight_of hhead hlast rfl (by omega) ?_ ?_ hsequence hoffset ?_
    · rw [h.valid.store, ← h.legal.journal]
      rfl
    · change _ = cutoff.appendSequence.val
      omega
    · intro newest hnewest
      rw [(h.newest_at_root hnewest).2.1]
      exact hcount
  have hadvance : snapshot.advance reference pending (root.batch generation cutoff reference) =
      .ok (folded snapshot reference tiers) := by
    unfold RetryStateSnapshot.advance
    simp only [bind_ok, exists_unit, pure_ok]
    exact ⟨hpreflight, tiers, hentries, h.folded_state hfold, validateRoot_ok.mpr hroot, rfl⟩
  refine ⟨_, hadvance, h.valid.advance hadvance h.legal.journal rfl ?_⟩
  change root.retryState.generation < reference.generation
  have hretry := h.retry
  rw [Fin.lt_def]
  omega

end BatchStep

section Encoding

theorem bound_commitCatalog (catalog : Option GenerationCatalogReference) :
    WritesAtMost (encodeCommitCatalog catalog) 40 := by
  cases catalog with
  | none => exact WritesAtMost.put (by simp)
  | some reference =>
    exact ((bound_u8 1).seq ((bound_u8 reference.slot).seq
      ((WritesAtMost.put (n := 6) (by simp)).seq
        ((bound_u64 reference.generation).seq ((bound_u64 reference.length).seq
          ((bound_u32 reference.checksum).seq (WritesAtMost.put (n := 12) (by simp)))))))).mono
      (by decide)

theorem bound_replayOutcome (outcome : RetryReplayOutcome) :
    WritesAtMost (encodeReplayOutcome outcome) 416 :=
  ((bound_retry _).seq ((bound_u64 _).seq ((bound_u64 _).seq ((bound_u64 _).seq ((bound_u8 _).seq
    ((WritesAtMost.put (n := 7) (by simp)).seq ((bound_u64 _).seq ((bound_u64 _).seq
      ((bound_u64 _).seq ((bound_u64 _).seq ((bound_u64 _).seq ((bound_u8 _).seq
        ((WritesAtMost.put (n := 7) (by simp)).seq ((bound_u64 _).seq ((bound_u64 _).seq
          (bound_commitCatalog _)))))))))))))))).mono (by decide)

theorem bound_guardEntry (entry : RetryGuardEntry) :
    WritesAtMost (encodeGuardEntry entry) 416 :=
  ((bound_retry _).seq (bound_u64 _)).mono (by decide)

/-- Every valid snapshot with a reference has an encoding: both tiers at their bounds stay far
below the limit of the file. -/
theorem encodeRetryState_of_valid {snapshot : RetryStateSnapshot}
    (hstate : validateState snapshot = .ok ()) {reference : RetryStateReference}
    (hreference : snapshot.reference = some reference) :
    ∃ bytes, encodeRetryState snapshot = .ok bytes := by
  have hbounds := hstate
  unfold validateState at hbounds
  simp only [then_ok, refuse_ok, not_or, Nat.not_lt] at hbounds
  obtain ⟨-, -, hentries, -⟩ := hbounds.1
  have hwrites : WritesAtMost (encodeRetryPayload snapshot)
      (snapshot.replay.length * 416 + snapshot.guard.length * 416) :=
    (WritesAtMost.forM snapshot.replay fun outcome _ => bound_replayOutcome outcome).seq
      (WritesAtMost.forM snapshot.guard fun entry _ => bound_guardEntry entry)
  obtain ⟨payload, hpayload, hlength⟩ := hwrites
  have hmost : maxPersistedRetryEntries = 4096 := rfl
  have hlimit : maxRetryStateBytes = 2097152 := rfl
  have hheader : retryHeaderLen + retryCrcLen = 68 := rfl
  obtain ⟨counted, hcounted, hlen⟩ := hpayload.count (by omega)
  refine ⟨withChecksum (retryHeader snapshot reference.generation payload.length ++ payload), ?_⟩
  unfold encodeRetryState encodeRetryStateWithLimit
  rw [then_ok]
  refine ⟨hstate, ?_⟩
  rw [hreference]
  dsimp only
  rw [hcounted, encodeBytes_of_writes hpayload]
  simp only [bind_ok, exists_unit, mapError_ok, Except.ok.injEq, exists_eq_left', refuse_ok,
    pure_ok, hlen, not_or, Nat.not_lt, not_not]
  exact ⟨by omega, trivial, trivial⟩

end Encoding

end Historian
