import Historian.RetryState

namespace Historian

open Checks

/-- The scope and key that a retry is recognised by. -/
def RetryQualification.scopeKey (qualification : RetryQualification) :
    SeriesId × ProducerId × RetryKey :=
  (qualification.seriesId, qualification.producerId, qualification.key)

theorem RetryQualification.classify_distinct {a b : RetryQualification} :
    a.classify b = .distinct ↔ a.scopeKey ≠ b.scopeKey := by
  unfold RetryQualification.classify RetryQualification.scopeKey
  simp only [ne_eq, Prod.mk.injEq]
  split
  next h =>
    simp only [true_iff]
    rintro ⟨hseries, hproducer, hkey⟩
    simp [hseries, hproducer, hkey] at h
  next h =>
    simp only [not_or, not_not] at h
    split <;> simp [h]

theorem RetryQualification.classify_equivalent {a b : RetryQualification} :
    a.classify b = .equivalent ↔ a = b := by
  unfold RetryQualification.classify
  split
  next h =>
    constructor
    · intro hc
      cases hc
    · rintro rfl
      simp at h
  next h =>
    simp only [ne_eq, not_or, not_not] at h
    obtain ⟨_, _, _, _⟩ := a
    obtain ⟨_, _, _, _⟩ := b
    split <;> simp_all

theorem RetryQualification.classify_conflict {a b : RetryQualification} :
    a.classify b = .conflict ↔ a.scopeKey = b.scopeKey ∧ a ≠ b := by
  have hd := RetryQualification.classify_distinct (a := a) (b := b)
  have he := RetryQualification.classify_equivalent (a := a) (b := b)
  cases hc : a.classify b with
  | equivalent => simp_all
  | conflict => simp_all
  | distinct => simp_all

/-- Whatever is distinct from a key's holder is distinct from the key. -/
theorem RetryQualification.distinct_of_same {a b c : RetryQualification}
    (h : a.classify b = .distinct) (hs : b.classify c ≠ .distinct) : a.classify c = .distinct := by
  rw [RetryQualification.classify_distinct] at h ⊢
  rw [ne_eq, RetryQualification.classify_distinct, not_not] at hs
  rwa [hs] at h

/-- A list of qualifications no two of which share scope and key. -/
def PairwiseDistinct (qualifications : List RetryQualification) : Prop :=
  qualifications.Pairwise fun a b => a.classify b = .distinct

theorem pairwiseDistinct_iff {qualifications : List RetryQualification} :
    PairwiseDistinct qualifications ↔ (qualifications.map (·.scopeKey)).Nodup := by
  unfold PairwiseDistinct List.Nodup
  rw [List.pairwise_map]
  simp only [RetryQualification.classify_distinct]

theorem validateDistinct_ok {prior qualifications : List RetryQualification} :
    validateDistinct prior qualifications = .ok () ↔
      PairwiseDistinct qualifications ∧
        ∀ before ∈ prior, ∀ q ∈ qualifications, before.classify q = .distinct := by
  induction qualifications generalizing prior with
  | nil => simp [validateDistinct, PairwiseDistinct]
  | cons q rest ih =>
    simp only [validateDistinct, then_ok, refuse_ok, ih, PairwiseDistinct, List.pairwise_cons,
      List.any_eq_true, decide_eq_true_eq, not_exists, not_and, not_not, List.mem_append,
      List.mem_cons, List.not_mem_nil, or_false]
    constructor
    · rintro ⟨hq, hrest, hprior⟩
      refine ⟨⟨fun r hr => hprior q (Or.inr rfl) r hr, hrest⟩, ?_⟩
      rintro before hbefore r (rfl | hr)
      · exact hq before hbefore
      · exact hprior before (Or.inl hbefore) r hr
    · rintro ⟨⟨hq, hrest⟩, hprior⟩
      refine ⟨fun before hbefore => hprior before hbefore q (Or.inl rfl), hrest, ?_⟩
      rintro before (hbefore | rfl) r hr
      · exact hprior before hbefore r (Or.inr hr)
      · exact hq r hr

theorem validateState_distinct {snapshot : RetryStateSnapshot}
    (h : validateState snapshot = .ok ()) : PairwiseDistinct snapshot.retained := by
  unfold validateState at h
  simp only [bind_ok, exists_unit] at h
  obtain ⟨-, _, -, -, hdistinct⟩ := h
  exact (validateDistinct_ok.mp hdistinct).1

/-- What the guard tier says about a key that the replay tier does not hold. -/
theorem classifyGuard_fresh {qualification : RetryQualification} {guard : List RetryGuardEntry} :
    classifyGuard qualification guard = .fresh ↔
      ∀ entry ∈ guard, entry.qualification.classify qualification = .distinct := by
  induction guard with
  | nil => simp [classifyGuard]
  | cons entry rest ih =>
    simp only [classifyGuard, List.forall_mem_cons]
    cases hc : entry.qualification.classify qualification <;> simp [ih]

theorem RetryStateSnapshot.classify_fresh {snapshot : RetryStateSnapshot}
    {qualification : RetryQualification} :
    snapshot.classify qualification = .fresh ↔
      ∀ retained ∈ snapshot.retained, retained.classify qualification = .distinct := by
  unfold RetryStateSnapshot.classify RetryStateSnapshot.retained
  generalize snapshot.replay = replay
  induction replay with
  | nil =>
    simp only [classifyReplay, classifyGuard_fresh, List.map_nil, List.nil_append, List.mem_map,
      forall_exists_index, and_imp, forall_apply_eq_imp_iff₂]
  | cons outcome rest ih =>
    simp only [classifyReplay, List.map_cons, List.cons_append, List.forall_mem_cons]
    cases hc : outcome.qualification.classify qualification <;> simp [ih]

theorem classifyGuard_mem {qualification : RetryQualification} {guard : List RetryGuardEntry}
    (hd : PairwiseDistinct (guard.map (·.qualification))) {entry : RetryGuardEntry}
    (hm : entry ∈ guard)
    (hs : entry.qualification.classify qualification ≠ .distinct) :
    classifyGuard qualification guard =
      if entry.qualification = qualification then .expired else .conflict := by
  induction guard with
  | nil => cases hm
  | cons head rest ih =>
    obtain ⟨hhead, hrest⟩ := List.pairwise_cons.mp hd
    rw [List.mem_cons] at hm
    simp only [classifyGuard]
    obtain rfl | hm := hm
    · cases hc : entry.qualification.classify qualification with
      | equivalent => simp [RetryQualification.classify_equivalent.mp hc]
      | conflict => simp [(RetryQualification.classify_conflict.mp hc).2]
      | distinct => exact absurd hc hs
    · have hdistinct : head.qualification.classify qualification = .distinct :=
        RetryQualification.distinct_of_same (hhead entry.qualification (List.mem_map_of_mem hm)) hs
      rw [hdistinct]
      exact ih hrest hm

theorem classifyReplay_mem {qualification : RetryQualification} {guard : List RetryGuardEntry}
    {replay : List RetryReplayOutcome}
    (hd : PairwiseDistinct (replay.map (·.qualification))) {outcome : RetryReplayOutcome}
    (hm : outcome ∈ replay) (hs : outcome.qualification.classify qualification ≠ .distinct) :
    classifyReplay qualification guard replay =
      if outcome.qualification = qualification then .replay outcome else .conflict := by
  induction replay with
  | nil => cases hm
  | cons head rest ih =>
    obtain ⟨hhead, hrest⟩ := List.pairwise_cons.mp hd
    rw [List.mem_cons] at hm
    simp only [classifyReplay]
    obtain rfl | hm := hm
    · cases hc : outcome.qualification.classify qualification with
      | equivalent => simp [RetryQualification.classify_equivalent.mp hc]
      | conflict => simp [(RetryQualification.classify_conflict.mp hc).2]
      | distinct => exact absurd hc hs
    · have hdistinct : head.qualification.classify qualification = .distinct :=
        RetryQualification.distinct_of_same
          (hhead outcome.qualification (List.mem_map_of_mem hm)) hs
      rw [hdistinct]
      exact ih hrest hm

theorem classifyReplay_of_distinct {qualification : RetryQualification}
    {guard : List RetryGuardEntry} {replay : List RetryReplayOutcome}
    (h : ∀ outcome ∈ replay, outcome.qualification.classify qualification = .distinct) :
    classifyReplay qualification guard replay = classifyGuard qualification guard := by
  induction replay with
  | nil => rfl
  | cons head rest ih =>
    simp only [classifyReplay, h head (by simp)]
    exact ih fun outcome hm => h outcome (by simp [hm])

/-- A replayable outcome answers its own key: with itself when the content is the same. -/
theorem RetryStateSnapshot.classify_replay {snapshot : RetryStateSnapshot}
    {qualification : RetryQualification} (hd : PairwiseDistinct snapshot.retained)
    {outcome : RetryReplayOutcome} (hm : outcome ∈ snapshot.replay)
    (hs : outcome.qualification.classify qualification ≠ .distinct) :
    snapshot.classify qualification =
      if outcome.qualification = qualification then .replay outcome else .conflict :=
  classifyReplay_mem (List.pairwise_append.mp hd).1 hm hs

/-- A guard answers its own key with nothing to replay. -/
theorem RetryStateSnapshot.classify_guard {snapshot : RetryStateSnapshot}
    {qualification : RetryQualification} (hd : PairwiseDistinct snapshot.retained)
    {entry : RetryGuardEntry} (hm : entry ∈ snapshot.guard)
    (hs : entry.qualification.classify qualification ≠ .distinct) :
    snapshot.classify qualification =
      if entry.qualification = qualification then .expired else .conflict := by
  obtain ⟨-, hguard, hcross⟩ := List.pairwise_append.mp hd
  unfold RetryStateSnapshot.classify
  rw [classifyReplay_of_distinct, classifyGuard_mem hguard hm hs]
  intro outcome ho
  exact RetryQualification.distinct_of_same
    (hcross _ (List.mem_map_of_mem ho) _ (List.mem_map_of_mem hm)) hs

end Historian
