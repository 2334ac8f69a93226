import Historian.RetryClassify

namespace Historian

open Checks

def RetryTiers.retained (tiers : RetryTiers) : List RetryQualification :=
  tiers.replay.map (·.qualification) ++ tiers.guard.map (·.qualification)

/-- Pushing an outcome brings in no qualification but its own. -/
theorem RetryTiers.retained_push {options : RetryPersistenceOptions} {tiers : RetryTiers}
    {outcome : RetryReplayOutcome} {qualification : RetryQualification}
    (h : qualification ∈ (tiers.push options outcome).retained) :
    qualification ∈ tiers.retained ∨ qualification = outcome.qualification := by
  obtain ⟨replay, guard⟩ := tiers
  have hall : ∀ kept dropped, replay ++ [outcome] = dropped :: kept →
      ∀ older : List RetryGuardEntry, (∀ entry ∈ older, entry ∈ guard ++ [dropped.promoted]) →
      qualification ∈ RetryTiers.retained ⟨kept, older⟩ →
      qualification ∈ RetryTiers.retained ⟨replay, guard⟩ ∨
        qualification = outcome.qualification := by
    intro kept dropped hsplit older holder hq
    have hmem : ∀ x ∈ dropped :: kept, x ∈ replay ∨ x = outcome := by
      intro x hx
      rw [← hsplit] at hx
      simpa using hx
    simp only [RetryTiers.retained, List.mem_append, List.mem_map] at hq ⊢
    obtain ⟨x, hx, rfl⟩ | ⟨entry, hentry, rfl⟩ := hq
    · obtain hx | rfl := hmem x (by simp [hx])
      · exact Or.inl (Or.inl ⟨x, hx, rfl⟩)
      · exact Or.inr rfl
    · have hentry := holder entry hentry
      rw [List.mem_append, List.mem_singleton] at hentry
      obtain hentry | rfl := hentry
      · exact Or.inl (Or.inr ⟨entry, hentry, rfl⟩)
      · obtain hd | rfl := hmem dropped (by simp)
        · exact Or.inl (Or.inl ⟨dropped, hd, rfl⟩)
        · exact Or.inr rfl
  unfold RetryTiers.push at h
  dsimp only at h
  split at h
  next =>
    split at h
    next hnil => simp at hnil
    next dropped kept hsplit =>
      split at h
      next => exact hall kept dropped hsplit _ (fun _ => List.mem_of_mem_tail) h
      next => exact hall kept dropped hsplit _ (fun _ hm => hm) h
  next =>
    simp only [RetryTiers.retained, List.map_append, List.map_cons, List.map_nil, List.mem_append,
      List.mem_singleton] at h ⊢
    tauto

theorem advanceEntries_retained {snapshot : RetryStateSnapshot} {committed : ManifestCommit}
    {previous : U64} {tiers result : RetryTiers} {pending : List PendingRetryOutcome}
    (h : advanceEntries snapshot committed previous tiers pending = .ok result)
    {qualification : RetryQualification} (hq : qualification ∈ result.retained) :
    qualification ∈ tiers.retained ∨ qualification ∈ pending.map (·.qualification) := by
  induction pending generalizing previous tiers with
  | nil =>
    cases h
    exact Or.inl hq
  | cons entry rest ih =>
    simp only [advanceEntries, then_ok] at h
    obtain hold | hnew := ih h.2
    · obtain hold | rfl := RetryTiers.retained_push hold
      · exact Or.inl hold
      · exact Or.inr (by simp)
    · exact Or.inr (by simp only [List.map_cons, List.mem_cons]; exact Or.inr hnew)

/-- The sequences of a batch increase from the last one retained. -/
theorem advanceEntries_increasing {snapshot : RetryStateSnapshot} {committed : ManifestCommit}
    {previous : U64} {tiers result : RetryTiers} {pending : List PendingRetryOutcome}
    (h : advanceEntries snapshot committed previous tiers pending = .ok result) :
    (∀ entry ∈ pending, previous < entry.appendSequence) ∧
      pending.Pairwise fun a b => a.appendSequence < b.appendSequence := by
  induction pending generalizing previous tiers with
  | nil => simp
  | cons entry rest ih =>
    simp only [advanceEntries, then_ok, refuse_ok, not_or] at h
    obtain ⟨⟨-, hlt, -⟩, hrest⟩ := h
    obtain ⟨hafter, hincreasing⟩ := ih hrest
    have hprevious : previous < entry.appendSequence := Fin.not_le.mp hlt
    refine ⟨?_, List.pairwise_cons.mpr ⟨hafter, hincreasing⟩⟩
    intro x hx
    rw [List.mem_cons] at hx
    obtain rfl | hx := hx
    · exact hprevious
    · exact Fin.lt_trans hprevious (hafter x hx)

/-- What an accepted batch makes of a snapshot. -/
theorem RetryStateSnapshot.advance_ok {snapshot candidate : RetryStateSnapshot}
    {reference : RetryStateReference} {pending : List PendingRetryOutcome}
    {committed : ManifestCommit}
    (h : snapshot.advance reference pending committed = .ok candidate) :
    candidate.storeId = snapshot.storeId ∧ candidate.options = snapshot.options ∧
      candidate.reference = some reference ∧
      advanceEntries snapshot committed snapshot.lastSequence ⟨snapshot.replay, snapshot.guard⟩
        pending = .ok ⟨candidate.replay, candidate.guard⟩ ∧
      validateTransitionPreflight snapshot reference pending committed = .ok () ∧
      validateState candidate = .ok () ∧ validateRoot candidate committed none = .ok () := by
  unfold RetryStateSnapshot.advance at h
  simp only [bind_ok, exists_unit, pure_ok] at h
  obtain ⟨hpreflight, tiers, htiers, hstate, hroot, rfl⟩ := h
  exact ⟨rfl, rfl, rfl, htiers, hpreflight, hstate, hroot⟩

theorem RetryStateSnapshot.verifiesTransition_ok {snapshot candidate : RetryStateSnapshot}
    {pending : List PendingRetryOutcome} {committed : ManifestCommit} :
    snapshot.verifiesTransition candidate pending committed = true ↔
      ∃ reference, candidate.reference = some reference ∧
        snapshot.advance reference pending committed = .ok candidate := by
  unfold RetryStateSnapshot.verifiesTransition
  split
  next hnone => simp [hnone]
  next reference hreference =>
    rw [hreference]
    simp only [Option.some.injEq, exists_eq_left']
    split
    next expected he => simp [he]
    next e he => simp [he]

/-- A batch keeps the keys of the snapshot or of its own entries, and no others. -/
theorem RetryStateSnapshot.retained_advance {snapshot candidate : RetryStateSnapshot}
    {reference : RetryStateReference} {pending : List PendingRetryOutcome}
    {committed : ManifestCommit}
    (h : snapshot.advance reference pending committed = .ok candidate)
    {qualification : RetryQualification} (hq : qualification ∈ candidate.retained) :
    qualification ∈ snapshot.retained ∨ qualification ∈ pending.map (·.qualification) := by
  obtain ⟨-, -, -, hentries, -⟩ := RetryStateSnapshot.advance_ok h
  exact advanceEntries_retained hentries hq

end Historian
