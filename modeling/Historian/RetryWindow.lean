import Historian.RetryFifo

namespace Historian

open Checks

/-- The retained append sequences, oldest first. -/
def RetryStateSnapshot.sequences (snapshot : RetryStateSnapshot) : List Nat :=
  snapshot.guard.map (·.appendSequence.val) ++ snapshot.replay.map (·.appendSequence.val)

/-- The snapshot retains all that both tiers have room for of the sequences up to a cutoff, and
the replay tier all that it has room for. -/
def RetryStateSnapshot.RetainsWindow (snapshot : RetryStateSnapshot) (cutoff : U64) : Prop :=
  let retained := min cutoff.val (snapshot.options.replayCapacity + snapshot.options.guardCapacity)
  let replayed := min cutoff.val snapshot.options.replayCapacity
  snapshot.sequences = List.range' (cutoff.val + 1 - retained) retained ∧
    snapshot.replay.map (·.appendSequence.val) =
      List.range' (cutoff.val + 1 - replayed) replayed

/-- Nothing is retained before the first append; afterwards the first append is, or the tiers
are full. -/
def RetryStateSnapshot.Unshortened (snapshot : RetryStateSnapshot) (cutoff : U64) : Prop :=
  (snapshot.sequences = [] ∧ cutoff = 0) ∨ snapshot.sequences.head? = some 1 ∨
    (snapshot.replay.length = snapshot.options.replayCapacity ∧
      snapshot.guard.length = snapshot.options.guardCapacity)

theorem validateChronology_range {cutoff previous : U64} {rest : List U64}
    (h : validateChronology cutoff previous rest = .ok ()) :
    rest.map (·.val) = List.range' (previous.val + 1) rest.length := by
  induction rest generalizing previous with
  | nil => rfl
  | cons sequence rest ih =>
    simp only [validateChronology, then_ok, refuse_ok, not_or, not_not] at h
    obtain ⟨⟨hnext, -⟩, hrest⟩ := h
    rw [List.map_cons, ih hrest, List.length_cons, List.range'_succ, hnext]

theorem validateGuardOrder_positive {previous last : U64} {guard : List RetryGuardEntry}
    (h : validateGuardOrder previous guard = .ok last) :
    ∀ entry ∈ guard, entry.appendSequence ≠ 0 := by
  induction guard generalizing previous with
  | nil => simp
  | cons entry rest ih =>
    simp only [validateGuardOrder, then_ok, refuse_ok, not_or] at h
    exact List.forall_mem_cons.mpr ⟨h.1.1, ih h.2⟩

theorem validateReplay_positive {snapshot : RetryStateSnapshot} {before : ReplayProgress}
    {replay : List RetryReplayOutcome} (h : validateReplay snapshot before replay = .ok ()) :
    ∀ outcome ∈ replay, outcome.appendSequence ≠ 0 := by
  induction replay generalizing before with
  | nil => simp
  | cons outcome rest ih =>
    rw [validateReplay, then_ok] at h
    have hcheck := h.1
    unfold validateOutcome at hcheck
    simp only [then_ok, refuse_ok, not_or] at hcheck
    exact List.forall_mem_cons.mpr ⟨hcheck.1.1, ih h.2⟩

/-- The tiers keep to their capacities and hold no sequence zero. -/
theorem validateState_bounds {snapshot : RetryStateSnapshot}
    (h : validateState snapshot = .ok ()) :
    snapshot.replay.length ≤ snapshot.options.replayCapacity ∧
      snapshot.guard.length ≤ snapshot.options.guardCapacity ∧
      ∀ sequence ∈ snapshot.sequences, 0 < sequence := by
  unfold validateState at h
  simp only [bind_ok, exists_unit, refuse_ok, not_or, Nat.not_lt] at h
  obtain ⟨⟨hreplay, hguard, -⟩, last, horder, houtcomes, -⟩ := h
  refine ⟨hreplay, hguard, ?_⟩
  intro sequence hsequence
  have hpositive : ∀ {value : U64}, value ≠ 0 → 0 < value.val := by
    intro value hvalue
    have hne : value.val ≠ 0 := fun hzero => hvalue (Fin.ext hzero)
    omega
  rw [RetryStateSnapshot.sequences, List.mem_append, List.mem_map, List.mem_map] at hsequence
  rcases hsequence with ⟨entry, hentry, rfl⟩ | ⟨outcome, houtcome, rfl⟩
  · exact hpositive (validateGuardOrder_positive horder entry hentry)
  · exact hpositive (validateReplay_positive houtcomes outcome houtcome)

/-- The retained sequences run without a hole up to the cutoff of the root. -/
theorem ValidRoot.sequences_range {snapshot : RetryStateSnapshot} {root : ManifestCommit}
    {catalog : Option GenerationCatalogSnapshot} (h : ValidRoot snapshot root catalog)
    (hne : snapshot.replay ≠ []) :
    ∃ first, snapshot.sequences = List.range' first snapshot.sequences.length ∧
      first + snapshot.sequences.length = root.durableCutoff.appendSequence.val + 1 := by
  have hchronology := h.chronological hne
  obtain ⟨newest, hnewest⟩ : ∃ newest, snapshot.replay.getLast? = some newest := by
    cases hlast : snapshot.replay.getLast? with
    | none => exact absurd (List.getLast?_eq_none_iff.mp hlast) hne
    | some newest => exact ⟨newest, rfl⟩
  have hcutoff := (h.newest newest hnewest).2.1
  have hmap : snapshot.sequences = (snapshot.guard.map (·.appendSequence) ++
      snapshot.replay.map (·.appendSequence)).map (·.val) := by
    rw [RetryStateSnapshot.sequences, List.map_append, List.map_map, List.map_map]
    rfl
  have hlast : snapshot.sequences.getLast? = some root.durableCutoff.appendSequence.val := by
    rw [RetryStateSnapshot.sequences, List.getLast?_append, List.getLast?_map, hnewest,
      Option.map_some, hcutoff]
    rfl
  cases hall : snapshot.guard.map (·.appendSequence) ++ snapshot.replay.map (·.appendSequence) with
  | nil =>
    rw [hall] at hchronology
    exact hchronology.elim
  | cons first rest =>
    rw [hall] at hchronology hmap
    have hrange : snapshot.sequences = List.range' first.val snapshot.sequences.length := by
      rw [hmap, List.length_map, List.length_cons, List.range'_succ, List.map_cons,
        validateChronology_range hchronology.2]
    have hlength : snapshot.sequences.length = rest.length + 1 := by
      rw [hmap, List.length_map, List.length_cons]
    refine ⟨first.val, hrange, ?_⟩
    rw [hrange, hlength, List.getLast?_range'] at hlast
    simp at hlast
    omega

/-- A list without a hole up to `cutoff` is the list of the last `n` numbers when it has `n`. -/
theorem eq_range'_iff {xs : List Nat} {first cutoff n : Nat}
    (h : xs = List.range' first xs.length) (hend : first + xs.length = cutoff + 1)
    (hn : n ≤ cutoff) : xs = List.range' (cutoff + 1 - n) n ↔ xs.length = n := by
  constructor
  · intro heq
    have hlength := congrArg List.length heq
    rwa [List.length_range'] at hlength
  · intro hlength
    have hfirst : cutoff + 1 - n = first := by omega
    rw [hfirst, ← hlength]
    exact h

/-- A root that is accepted keeps the whole window exactly when nothing was cut off at its old
end: contiguity alone does not see where the retained sequences start. -/
theorem accepted_root_retains_iff (snapshot : RetryStateSnapshot) (root : ManifestCommit)
    (catalog : Option GenerationCatalogSnapshot)
    (haccepted : validateRoot snapshot root catalog = .ok ()) :
    snapshot.RetainsWindow root.durableCutoff.appendSequence ↔
      snapshot.Unshortened root.durableCutoff.appendSequence := by
  have h := validateRoot_ok.mp haccepted
  obtain ⟨hreplay, hguard, hpositive⟩ := validateState_bounds h.state
  have hcapacity := snapshot.options.replay_pos
  have hguardCapacity := snapshot.options.guard_pos
  unfold RetryStateSnapshot.RetainsWindow RetryStateSnapshot.Unshortened
  by_cases hnil : snapshot.replay = []
  · -- the empty state of a first retry generation
    have hempty : snapshot.sequences = [] := by
      simp [RetryStateSnapshot.sequences, hnil, (h.empty hnil).1]
    have hzero : root.durableCutoff.appendSequence = 0 ↔
        root.durableCutoff.appendSequence.val = 0 := Fin.ext_iff
    rw [hempty, hnil, hzero]
    simp only [List.map_nil, eq_comm (a := ([] : List Nat)), List.range'_eq_nil_iff,
      List.head?_nil, reduceCtorEq, false_or, true_and, List.length_nil]
    omega
  · obtain ⟨first, hrange, hend⟩ := h.sequences_range hnil
    have hlength : snapshot.sequences.length = snapshot.guard.length + snapshot.replay.length := by
      rw [RetryStateSnapshot.sequences, List.length_append, List.length_map, List.length_map]
    have hreplayed : 0 < snapshot.replay.length := List.length_pos_iff.mpr hnil
    have hsequences : snapshot.sequences ≠ [] := by
      intro hempty
      rw [hempty, List.length_nil] at hlength
      omega
    have hhead : snapshot.sequences.head? = some first := by
      rw [hrange, hlength, List.head?_range', if_neg (by omega)]
    have hfirst : 0 < first := hpositive first (List.mem_of_mem_head? hhead)
    have hfull : snapshot.guard.length ≠ 0 →
        snapshot.replay.length = snapshot.options.replayCapacity := by
      intro hne
      have hlast : snapshot.replay.getLast? = some (snapshot.replay.getLast hnil) :=
        List.getLast?_eq_some_getLast hnil
      exact (h.newest _ hlast).1 (List.length_pos_iff.mp (by omega))
    have hreplayRange : snapshot.replay.map (·.appendSequence.val) =
        List.range' (first + snapshot.guard.length) snapshot.replay.length := by
      have hdrop := congrArg (List.drop snapshot.guard.length) hrange
      rw [List.drop_range', hlength, Nat.mul_one, Nat.add_sub_cancel_left] at hdrop
      rw [← hdrop, RetryStateSnapshot.sequences]
      simp
    dsimp only
    rw [eq_range'_iff hrange hend (Nat.min_le_left _ _),
      eq_range'_iff (by rw [List.length_map]; exact hreplayRange) (by rw [List.length_map]; omega)
        (Nat.min_le_left _ _), List.length_map, hhead, Option.some.injEq, hlength]
    simp only [hsequences, false_and, false_or]
    omega

section Samples

/-- The tiers of a run without the guard entry. -/
def sampleShortened : RetryStateSnapshot := { sampleTiers with guard := [] }

/-- A root with three durable appends that names the retry state of a new store. -/
def sampleForgetful : ManifestCommit := { sampleCommit with retryState := ⟨0, 1⟩ }

/-- Two roots at the cutoff three are accepted: one whose state lost the guard entry of the
sequence two, and one whose state retains nothing. -/
theorem accepted_root_forgets :
    (validateRoot sampleShortened sampleCommit none = .ok () ∧
        ¬sampleShortened.RetainsWindow sampleCommit.durableCutoff.appendSequence) ∧
      validateRoot (.emptyPersisted (sampleIdentity 1) sampleTierOptions ⟨0, 1⟩) sampleForgetful
        none = .ok () ∧
      ¬(RetryStateSnapshot.emptyPersisted (sampleIdentity 1) sampleTierOptions
        ⟨0, 1⟩).RetainsWindow sampleForgetful.durableCutoff.appendSequence := by
  refine ⟨⟨by decide +kernel, ?_⟩, by decide +kernel, ?_⟩
  · intro h
    exact absurd h.1 (by decide +kernel)
  · intro h
    exact absurd h.1 (by decide +kernel)

theorem accepted_root_retains_iff_sample :
    validateRoot sampleTiers sampleCommit none = .ok () ∧
      sampleTiers.RetainsWindow sampleCommit.durableCutoff.appendSequence := by
  have haccepted : validateRoot sampleTiers sampleCommit none = .ok () := by decide +kernel
  exact ⟨haccepted, (accepted_root_retains_iff sampleTiers sampleCommit none haccepted).mpr
    (Or.inr (Or.inr ⟨rfl, rfl⟩))⟩

end Samples

end Historian
