import Historian.Collection

namespace Historian

open Wire Checks

/-- A check of neighbours holds between all pairs where the relation is transitive. -/
theorem windows_pairwise {α : Type} {R : α → α → Prop}
    (htrans : ∀ a b c, R a b → R b c → R a c) {xs : List α} :
    (∀ pair ∈ windows xs, R pair.1 pair.2) ↔ xs.Pairwise R := by
  induction xs with
  | nil => simp [windows]
  | cons a rest ih =>
    cases rest with
    | nil => simp [windows]
    | cons b rest =>
      have hwindows : windows (a :: b :: rest) = (a, b) :: windows (b :: rest) := rfl
      rw [hwindows, List.forall_mem_cons, ih]
      constructor
      · intro h
        obtain ⟨hab, hrest⟩ := h
        refine List.pairwise_cons.mpr ⟨?_, hrest⟩
        intro c hc
        rcases List.mem_cons.mp hc with rfl | hlater
        · exact hab
        · exact htrans a b c hab ((List.pairwise_cons.mp hrest).1 c hlater)
      · intro h
        obtain ⟨hfirst, hrest⟩ := List.pairwise_cons.mp h
        exact ⟨hfirst b List.mem_cons_self, hrest⟩

theorem ProducerPosition.lt_iff {a b : ProducerPosition} :
    a.lt b = true ↔ a.epoch < b.epoch ∨ a.epoch = b.epoch ∧ a.sequence < b.sequence := by
  simp [ProducerPosition.lt]

theorem ProducerPosition.lt_trans {a b c : ProducerPosition} (h : a.lt b = true)
    (h' : b.lt c = true) : a.lt c = true := by
  rw [lt_iff] at h h' ⊢
  simp only [Fin.lt_def, Fin.ext_iff] at h h' ⊢
  omega

/-- Both observations have a position, the first one the smaller. -/
def Observation.Before (a b : Observation) : Prop :=
  ∃ p q, a.producerPosition = some p ∧ b.producerPosition = some q ∧ p.lt q = true

theorem Observation.Before.trans {a b c : Observation} (h : a.Before b) (h' : b.Before c) :
    a.Before c := by
  obtain ⟨p, q, hp, hq, hlt⟩ := h
  obtain ⟨q', r, hq', hr, hlt'⟩ := h'
  rw [hq, Option.some.injEq] at hq'
  exact ⟨p, r, hp, hr, ProducerPosition.lt_trans hlt (hq' ▸ hlt')⟩

theorem validatePositionOrder_ok {a b : Observation} :
    validatePositionOrder (a, b) = .ok () ↔ a.Before b := by
  unfold validatePositionOrder Observation.Before
  dsimp only
  cases a.producerPosition with
  | none => simp
  | some p =>
    cases b.producerPosition with
    | none => simp
    | some q => simp

namespace Gap

variable {a b c gap : Gap}

theorem contains_iff {epoch sequence : U128} : gap.contains epoch sequence = true ↔
    gap.epoch = epoch ∧ gap.start ≤ sequence ∧ sequence < gap.stop := by
  simp [Gap.contains, and_assoc]

theorem before_iff {position : ProducerPosition} : gap.before position = true ↔
    gap.epoch < position.epoch ∨ gap.epoch = position.epoch ∧ gap.stop ≤ position.sequence := by
  simp [Gap.before]

/-- No sequence of an epoch lies in both gaps. -/
def Disjoint (a b : Gap) : Prop :=
  ∀ epoch sequence, a.contains epoch sequence = true → b.contains epoch sequence = false

/-- The second gap lies behind the first. -/
def Ahead (a b : Gap) : Prop := a.epoch < b.epoch ∨ a.epoch = b.epoch ∧ a.stop ≤ b.start

theorem Ahead.trans (h : a.Ahead b) (h' : b.Ahead c) : a.Ahead c := by
  have hb := b.nonempty
  unfold Ahead at h h' ⊢
  simp only [Fin.lt_def, Fin.le_def, Fin.ext_iff] at h h' hb ⊢
  omega

/-- Gaps in the order of their starts lie behind one another when none of them overlap. -/
theorem ahead_iff : a.Ahead b ↔
    (a.epoch < b.epoch ∨ a.epoch = b.epoch ∧ a.start ≤ b.start) ∧
      (a.epoch = b.epoch → a.Disjoint b) := by
  have ha := a.nonempty
  have hb := b.nonempty
  constructor
  · intro h
    constructor
    · unfold Ahead at h
      simp only [Fin.lt_def, Fin.le_def, Fin.ext_iff] at h ha ⊢
      omega
    · intro hepoch epoch sequence hin
      rw [contains_iff] at hin
      rw [Bool.eq_false_iff, ne_eq, contains_iff]
      unfold Ahead at h
      simp only [Fin.lt_def, Fin.le_def, Fin.ext_iff] at h hin hepoch ⊢
      omega
  · intro h
    obtain ⟨horder, hdisjoint⟩ := h
    unfold Ahead
    rcases horder with hlt | ⟨hepoch, hstart⟩
    · exact .inl hlt
    · refine .inr ⟨hepoch, ?_⟩
      rw [← Fin.not_lt]
      intro hover
      -- the start of the second gap would lie in both
      have hfirst : a.contains a.epoch b.start = true :=
        contains_iff.mpr ⟨rfl, hstart, hover⟩
      have hsecond : b.contains a.epoch b.start = true :=
        contains_iff.mpr ⟨hepoch.symm, Fin.le_refl _, hb⟩
      rw [hdisjoint hepoch _ _ hfirst] at hsecond
      cases hsecond

theorem validateGapOrder_ok : validateGapOrder (a, b) = .ok () ↔ a.Ahead b := by
  have ha := a.nonempty
  unfold validateGapOrder Ahead
  simp only [then_ok, refuse_ok]
  simp only [Fin.lt_def, Fin.le_def, Fin.ext_iff] at ha ⊢
  omega

/-- What was passed at one position is passed at every later one. -/
theorem before_mono {p q : ProducerPosition} (h : gap.before p = true) (hlt : p.lt q = true) :
    gap.before q = true := by
  rw [before_iff] at h ⊢
  rw [ProducerPosition.lt_iff] at hlt
  simp only [Fin.lt_def, Fin.le_def, Fin.ext_iff] at h hlt ⊢
  omega

theorem outside_of_before {position : ProducerPosition} (h : gap.before position = true) :
    gap.contains position.epoch position.sequence = false := by
  rw [before_iff] at h
  rw [Bool.eq_false_iff, ne_eq, contains_iff]
  simp only [Fin.lt_def, Fin.le_def, Fin.ext_iff] at h ⊢
  omega

/-- A gap that is not reached yet stands before all gaps behind it. -/
theorem outside_of_ahead {position : ProducerPosition} (h : gap.before position = false)
    (hout : gap.contains position.epoch position.sequence = false) (hahead : gap.Ahead a) :
    a.contains position.epoch position.sequence = false := by
  have hgap := gap.nonempty
  rw [Bool.eq_false_iff, ne_eq, before_iff] at h
  rw [Bool.eq_false_iff, ne_eq, contains_iff] at hout ⊢
  unfold Ahead at hahead
  simp only [Fin.lt_def, Fin.le_def, Fin.ext_iff] at h hout hahead hgap ⊢
  omega

/-- The first gap that is not passed decides for all of them. -/
theorem outside_dropWhile {gaps : List Gap} (hgaps : gaps.Pairwise Ahead)
    {position : ProducerPosition} :
    (¬∃ gap ∈ (gaps.dropWhile (·.before position)).head?,
        gap.contains position.epoch position.sequence = true) ↔
      ∀ gap ∈ gaps, gap.contains position.epoch position.sequence = false := by
  induction gaps with
  | nil => simp
  | cons first rest ih =>
    obtain ⟨hfirst, hrest⟩ := List.pairwise_cons.mp hgaps
    rw [List.forall_mem_cons]
    by_cases hbefore : first.before position = true
    · rw [List.dropWhile_cons, if_pos hbefore, ih hrest]
      exact (and_iff_right (outside_of_before hbefore)).symm
    · rw [List.dropWhile_cons, if_neg hbefore]
      rw [Bool.not_eq_true] at hbefore
      simp only [List.head?_cons, Option.mem_some_iff, exists_eq_left', Bool.not_eq_true]
      constructor
      · intro hout
        exact ⟨hout, fun gap hgap => outside_of_ahead hbefore hout (hfirst gap hgap)⟩
      · intro h
        exact h.1

theorem mem_of_not_before {gaps : List Gap} {p : ProducerPosition} {gap : Gap} (h : gap ∈ gaps)
    (hbefore : gap.before p = false) : gap ∈ gaps.dropWhile (·.before p) := by
  induction gaps with
  | nil => cases h
  | cons first rest ih =>
    by_cases hfirst : first.before p = true
    · rw [List.dropWhile_cons, if_pos hfirst]
      rcases List.mem_cons.mp h with heq | hrest
      · rw [heq, hfirst] at hbefore
        cases hbefore
      · exact ih hrest
    · rw [List.dropWhile_cons, if_neg hfirst]
      exact h

end Gap

/-- The sweep passes when every observation lies outside every gap: a gap that it has passed lies
before all positions that are still to come. -/
theorem validateObservationsOutsideGaps_ok {gaps : List Gap} {observations : List Observation}
    (hgaps : gaps.Pairwise Gap.Ahead) (hordered : observations.Pairwise Observation.Before) :
    validateObservationsOutsideGaps gaps observations = .ok () ↔
      ∀ observation ∈ observations, ∃ position, observation.producerPosition = some position ∧
        ∀ gap ∈ gaps, gap.contains position.epoch position.sequence = false := by
  induction observations generalizing gaps with
  | nil => simp [validateObservationsOutsideGaps]
  | cons observation rest ih =>
    obtain ⟨hfirst, hrest⟩ := List.pairwise_cons.mp hordered
    rw [List.forall_mem_cons]
    unfold validateObservationsOutsideGaps
    cases hposition : observation.producerPosition with
    | none => simp
    | some position =>
      have hahead : (gaps.dropWhile (·.before position)).Pairwise Gap.Ahead :=
        hgaps.sublist (List.dropWhile_sublist _)
      simp only [then_ok, refuse_ok, Option.some.injEq, exists_eq_left']
      rw [Gap.outside_dropWhile hgaps, ih hahead hrest]
      apply and_congr_right
      intro _
      apply forall₂_congr
      intro other hother
      obtain ⟨p, q, hp, hq, hlt⟩ := hfirst other hother
      rw [hposition, Option.some.injEq] at hp
      subst hp
      simp only [hq, Option.some.injEq, exists_eq_left']
      constructor
      · intro h gap hgap
        by_cases hbefore : gap.before position = true
        · exact Gap.outside_of_before (Gap.before_mono hbefore hlt)
        · rw [Bool.not_eq_true] at hbefore
          exact h gap (Gap.mem_of_not_before hgap hbefore)
      · intro h gap hgap
        exact h gap ((List.dropWhile_sublist _).mem hgap)

/-- What the observations and gaps of an envelope satisfy as a whole. -/
structure ObservedLaw (mode : CollectionMode) (observations : List Observation)
    (gaps : List Gap) : Prop where
  observations_le : observations.length ≤ maxObservations
  gaps_le : gaps.length ≤ maxGaps
  nonempty : observations ≠ [] ∨ gaps ≠ []
  intervals : ∀ observation ∈ observations, observation.interval ≠ none ↔ mode = .interval
  distinct : observations.Pairwise fun a b => a.observationId ≠ b.observationId
  positions : (∀ observation ∈ observations, observation.producerPosition ≠ none) ∨
    ∀ observation ∈ observations, observation.producerPosition = none
  increasing : observations.Pairwise fun a b =>
    ∀ p ∈ a.producerPosition, ∀ q ∈ b.producerPosition, p.lt q = true
  ordered : gaps.Pairwise fun a b =>
    a.epoch < b.epoch ∨ a.epoch = b.epoch ∧ a.start ≤ b.start
  disjoint : gaps.Pairwise fun a b => a.epoch = b.epoch → a.Disjoint b
  outside : ∀ observation ∈ observations, ∀ position ∈ observation.producerPosition,
    ∀ gap ∈ gaps, gap.contains position.epoch position.sequence = false

theorem validateIdentities_ok {mode : CollectionMode} {seen : List ObservationId}
    {observations : List Observation} : validateIdentities mode seen observations = .ok () ↔
      (∀ observation ∈ observations, (observation.interval ≠ none ↔ mode = .interval) ∧
        observation.observationId ∉ seen) ∧
      observations.Pairwise fun a b => a.observationId ≠ b.observationId := by
  induction observations generalizing seen with
  | nil => simp [validateIdentities]
  | cons observation rest ih =>
    unfold validateIdentities
    rw [List.forall_mem_cons]
    simp only [then_ok, refuse_ok, ih, List.pairwise_cons, List.mem_cons, not_or]
    constructor
    · intro h
      obtain ⟨hmissing, hunexpected, hnew, hrest, hdistinct⟩ := h
      refine ⟨⟨⟨by tauto, hnew⟩, fun other hother => ⟨(hrest other hother).1,
        (hrest other hother).2.2⟩⟩, ?_, hdistinct⟩
      intro other hother
      exact Ne.symm (hrest other hother).2.1
    · intro h
      obtain ⟨⟨⟨hinterval, hnew⟩, hrest⟩, hfirst, hdistinct⟩ := h
      refine ⟨by tauto, by tauto, hnew, ?_, hdistinct⟩
      intro other hother
      exact ⟨(hrest other hother).1, Ne.symm (hfirst other hother), (hrest other hother).2⟩

theorem uniform_iff {observations : List Observation} {presence : Bool} :
    (¬∃ found ∈ some presence, observations.any (·.positioned != found) = true) ↔
      ∀ observation ∈ observations, (observation.producerPosition ≠ none ↔ presence = true) := by
  simp only [Option.mem_some_iff, exists_eq_left', Bool.not_eq_true, List.any_eq_false,
    bne_iff_ne, ne_eq, not_not, Observation.positioned]
  apply forall₂_congr
  intro observation _
  cases observation.producerPosition <;> cases presence <;> simp

/-- The checks of neighbours and the sweep over the gaps decide the law over all pairs. -/
theorem validateObserved_iff_law (mode : CollectionMode) (observations : List Observation)
    (gaps : List Gap) :
    validateObserved mode observations gaps = .ok () ↔ ObservedLaw mode observations gaps := by
  have hgaps : (∀ pair ∈ windows gaps, validateGapOrder pair = .ok ()) ↔
      gaps.Pairwise Gap.Ahead := by
    rw [← windows_pairwise fun (a b c : Gap) (h : a.Ahead b) (h' : b.Ahead c) => h.trans h']
    exact forall₂_congr fun pair _ => Gap.validateGapOrder_ok
  have hpositions : (∀ pair ∈ windows observations, validatePositionOrder pair = .ok ()) ↔
      observations.Pairwise Observation.Before := by
    rw [← windows_pairwise fun (a b c : Observation)
      (h : a.Before b) (h' : b.Before c) => h.trans h']
    exact forall₂_congr fun pair _ => validatePositionOrder_ok
  have hahead : gaps.Pairwise Gap.Ahead ↔
      (gaps.Pairwise fun a b => a.epoch < b.epoch ∨ a.epoch = b.epoch ∧ a.start ≤ b.start) ∧
        gaps.Pairwise fun a b => a.epoch = b.epoch → a.Disjoint b := by
    rw [← List.pairwise_and_iff]
    exact List.Pairwise.iff fun _ _ => Gap.ahead_iff
  unfold validateObserved
  cases observations with
  | nil =>
    simp only [List.head?_nil, Option.map_none, reduceCtorEq, if_false, then_ok, refuse_ok,
      Nat.not_lt, forM_ok, hgaps, validateIdentities_ok, true_and, and_true]
    constructor
    · intro h
      obtain ⟨hobservations, hlength, hnonempty, -, -, hordered⟩ := h
      obtain ⟨horder, hdisjoint⟩ := hahead.mp hordered
      exact ⟨hobservations, hlength, .inr hnonempty, by simp, by simp, .inl (by simp), by simp,
        horder, hdisjoint, by simp⟩
    · intro h
      have hnonempty := h.nonempty
      simp only [ne_eq, not_true_eq_false, false_or] at hnonempty
      exact ⟨h.observations_le, h.gaps_le, hnonempty, ⟨by simp, by simp⟩, by simp,
        hahead.mpr ⟨h.ordered, h.disjoint⟩⟩
  | cons first rest =>
    by_cases hfirst : first.positioned = true
    · simp only [List.head?_cons, Option.map_some, hfirst, if_true, then_ok, refuse_ok,
        Nat.not_lt, forM_ok, hgaps, hpositions, validateIdentities_ok, uniform_iff]
      constructor
      · intro h
        obtain ⟨hobservations, hlength, -, ⟨hids, hdistinct⟩, huniform, hbefore, hordered,
          hsweep⟩ :=
          h
        obtain ⟨horder, hdisjoint⟩ := hahead.mp hordered
        rw [validateObservationsOutsideGaps_ok hordered hbefore] at hsweep
        refine ⟨hobservations, hlength, .inl (by simp), fun o ho => (hids o ho).1, hdistinct,
          .inl fun o ho => (huniform o ho).mpr trivial, ?_, horder, hdisjoint, ?_⟩
        · refine List.Pairwise.imp ?_ hbefore
          intro a b hab p hp q hq
          obtain ⟨p', q', hp', hq', hlt⟩ := hab
          rw [Option.mem_def.mp hp, Option.some.injEq] at hp'
          rw [Option.mem_def.mp hq, Option.some.injEq] at hq'
          rw [hp', hq']
          exact hlt
        · intro observation hobservation position hposition
          obtain ⟨found, hfound, hout⟩ := hsweep observation hobservation
          rw [Option.mem_def.mp hposition, Option.some.injEq] at hfound
          rw [hfound]
          exact hout
      · intro h
        have hpositioned : ∀ observation ∈ first :: rest,
            ∃ position, observation.producerPosition = some position := by
          intro observation hobservation
          rcases h.positions with hall | hnone
          · exact Option.ne_none_iff_exists'.mp (hall observation hobservation)
          · have hhead := hnone first List.mem_cons_self
            simp [Observation.positioned, hhead] at hfirst
        have hbefore : (first :: rest).Pairwise Observation.Before := by
          refine List.Pairwise.imp_of_mem ?_ h.increasing
          intro a b ha hb hab
          obtain ⟨p, hp⟩ := hpositioned a ha
          obtain ⟨q, hq⟩ := hpositioned b hb
          exact ⟨p, q, hp, hq, hab p hp q hq⟩
        have hordered := hahead.mpr ⟨h.ordered, h.disjoint⟩
        refine ⟨h.observations_le, h.gaps_le, by simp, ⟨fun o ho => ⟨h.intervals o ho, by simp⟩,
          h.distinct⟩, ?_, hbefore, hordered, ?_⟩
        · intro observation hobservation
          obtain ⟨position, hposition⟩ := hpositioned observation hobservation
          simp [hposition]
        · rw [validateObservationsOutsideGaps_ok hordered hbefore]
          intro observation hobservation
          obtain ⟨position, hposition⟩ := hpositioned observation hobservation
          exact ⟨position, hposition, h.outside observation hobservation position hposition⟩
    · rw [Bool.not_eq_true] at hfirst
      simp only [List.head?_cons, Option.map_some, hfirst, Option.some.injEq, Bool.false_eq_true,
        if_false, then_ok, refuse_ok, Nat.not_lt, forM_ok, hgaps, validateIdentities_ok,
        uniform_iff, iff_false, not_not, true_and, and_true]
      constructor
      · intro h
        obtain ⟨hobservations, hlength, -, ⟨hids, hdistinct⟩, hnone, hordered⟩ := h
        obtain ⟨horder, hdisjoint⟩ := hahead.mp hordered
        refine ⟨hobservations, hlength, .inl (by simp), fun o ho => (hids o ho).1, hdistinct,
          .inr hnone, ?_, horder, hdisjoint, ?_⟩
        · refine List.Pairwise.imp_of_mem ?_ hdistinct
          intro a b ha _ _ p hp
          rw [Option.mem_def, hnone a ha] at hp
          cases hp
        · intro observation hobservation position hposition
          rw [Option.mem_def, hnone observation hobservation] at hposition
          cases hposition
      · intro h
        refine ⟨h.observations_le, h.gaps_le, by simp, ⟨fun o ho => ⟨h.intervals o ho, by simp⟩,
          h.distinct⟩, ?_, hahead.mpr ⟨h.ordered, h.disjoint⟩⟩
        rcases h.positions with hall | hnone
        · have hhead := hall first List.mem_cons_self
          simp only [Observation.positioned, Option.isSome_eq_false_iff,
            Option.isNone_iff_eq_none] at hfirst
          exact absurd hfirst hhead
        · exact hnone

end Historian
