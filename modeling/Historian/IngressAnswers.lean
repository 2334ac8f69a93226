import Historian.IngressRun

namespace Historian

open Checks IngressState

/-- The command of an unfinished submission was built by the core, and its measure is the
measure of that command. -/
def SubmitPhase.Lawful : SubmitPhase → Prop
  | .entered command => command.admission.Built
  | .admitted command => command.admission.Built
  | .measured command length =>
    command.admission.Built ∧ length = admissionFrameLenV1 command.admission
  | _ => True

namespace Runtime

def Lawful (runtime : Runtime) : Prop := ∀ phase ∈ runtime.submits, phase.Lawful

theorem Lawful.set {runtime next : Runtime} (h : runtime.Lawful) {submit : Nat}
    {phase : SubmitPhase} (hsubmits : next.submits = runtime.submits.set submit phase)
    (hphase : phase.Lawful) : next.Lawful := by
  intro p hp
  rw [hsubmits] at hp
  obtain hp | rfl := List.mem_or_eq_of_mem_set hp
  · exact h p hp
  · exact hphase

/-- A step keeps every submission as it is, adds one, or moves one on. -/
theorem Lawful.step {runtime next : Runtime} (h : runtime.Lawful) {event : RuntimeEvent}
    (hevent : event.Lawful) (hstep : runtime.step event = some next) : next.Lawful := by
  have hmem : ∀ {i : Nat} {phase : SubmitPhase}, runtime.submits[i]? = some phase →
      phase.Lawful := fun hi => h _ (List.mem_of_getElem? hi)
  cases event with
  | enter command =>
    cases hstep
    intro phase hphase
    rw [List.mem_append, List.mem_singleton] at hphase
    obtain hphase | rfl := hphase
    · exact h phase hphase
    · exact hevent
  | check submit =>
    simp only [Runtime.step] at hstep
    split at hstep
    next command hsubmit =>
      cases hstep
      unfold Runtime.check
      split
      next => exact h.set rfl trivial
      next => exact h.set rfl (show command.admission.Built from hmem hsubmit)
    next => cases hstep
  | measure submit =>
    simp only [Runtime.step] at hstep
    split at hstep
    next command hsubmit =>
      cases hstep
      exact h.set rfl (show (SubmitPhase.measured command _).Lawful from ⟨hmem hsubmit, rfl⟩)
    next => cases hstep
  | reserve submit =>
    simp only [Runtime.step] at hstep
    split at hstep
    next =>
      cases hstep
      unfold Runtime.reserve
      split
      next => exact h.set rfl trivial
      next => exact h.set rfl trivial
    next => cases hstep
  | prepare submit =>
    simp only [Runtime.step] at hstep
    split at hstep
    next =>
      cases hstep
      unfold Runtime.prepare
      refine h.set rfl ?_
      split
      next => split <;> trivial
      next => trivial
    next => cases hstep
  | enqueue submit =>
    simp only [Runtime.step] at hstep
    split at hstep
    next => cases hstep; exact h.set rfl trivial
    next => cases hstep
  | rollback submit =>
    simp only [Runtime.step] at hstep
    split at hstep
    next => cases hstep; exact h.set rfl trivial
    next => cases hstep
  | takeNext =>
    cases hstep
    unfold Runtime.takeNext
    split <;> exact h
  | append inFlight identity =>
    simp only [Runtime.step] at hstep
    split at hstep
    next => cases hstep; exact h
    next => cases hstep
  | publish inFlight =>
    simp only [Runtime.step] at hstep
    split at hstep
    next =>
      cases hstep
      unfold Runtime.publish
      split <;> exact h
    next => cases hstep
  | completeHandled inFlight =>
    simp only [Runtime.step] at hstep
    split at hstep
    next => cases hstep; exact h
    next => cases hstep
  | drop inFlight =>
    simp only [Runtime.step] at hstep
    split at hstep
    next => cases hstep; exact h
    next => cases hstep
  | completeDurableBatch entries committed retry =>
    cases hstep
    exact h
  | closeAdmission =>
    cases hstep
    exact h
  | stop =>
    cases hstep
    exact h

theorem Lawful.run {runtime final : Runtime} (h : runtime.Lawful) {events : List RuntimeEvent}
    (hevents : ∀ event ∈ events, event.Lawful) (hrun : runtime.run events = some final) :
    final.Lawful := by
  induction events generalizing runtime with
  | nil =>
    cases hrun
    exact h
  | cons event rest ih =>
    simp only [Runtime.run] at hrun
    split at hrun
    next next hstep =>
      exact ih (h.step (hevents event (by simp)) hstep) (fun e he => hevents e (by simp [he])) hrun
    next => cases hrun

/-- How the reserve section must answer, by what already holds the command's key. -/
structure Answers (runtime next : Runtime) (submit : Nat) (command : IngressCommand) : Prop where
  coalesced : ∀ slot ∈ runtime.shared.occupied,
    slot.qualification.classify command.admission.retry = .equivalent →
      next = runtime.setSubmit submit (.finished (.ok ⟨.coalesced, slot.terminal⟩))
  replayed : ∀ outcome ∈ runtime.shared.retry.replay,
    outcome.qualification.classify command.admission.retry = .equivalent →
      ∃ receipt, next.submits = runtime.submits.set submit (.finished (.ok ⟨.replayed, receipt⟩)) ∧
        next.shared.receipts[receipt]? = some
          ⟨some (.writerHandled ⟨outcome.committed.durableCutoff.journal, outcome.appendSequence,
              outcome.endOffset⟩),
            some (.durable ⟨⟨outcome.committed.durableCutoff.journal, outcome.appendSequence,
              outcome.endOffset⟩, outcome.committed⟩)⟩
  expired : ∀ entry ∈ runtime.shared.retry.guard,
    entry.qualification.classify command.admission.retry = .equivalent →
      next = runtime.setSubmit submit (.finished (TrySubmitError.of .retryExpired command))
  conflict : ∀ q ∈ runtime.held, q.classify command.admission.retry = .conflict →
    next = runtime.setSubmit submit (.finished (TrySubmitError.of .retryConflict command))
  fresh : (∀ q ∈ runtime.held, q.classify command.admission.retry = .distinct) →
    (∃ slotIndex terminal frameLen, next.submits =
      runtime.submits.set submit (.reserved command slotIndex terminal frameLen)) ∨
    ∃ kind ∈ [TrySubmitErrorKind.full, .byteCapacity, .closed],
      next = runtime.setSubmit submit (.finished (TrySubmitError.of kind command))

/-- An open runtime goes straight to the classification of a command of its store. -/
theorem reserve_open {state : IngressState} {command : IngressCommand} {frameLen : Nat}
    (hopen : state.closed = false) (hstore : command.admission.storeId = state.storeId) :
    state.reserve command (.ok frameLen) =
      match classifySlots command.admission.retry state.slots with
      | some (some terminal) => (.finished (.ok ⟨.coalesced, terminal⟩), state)
      | some none => (.finished (TrySubmitError.of .retryConflict command), state)
      | none =>
        match state.retry.classify command.admission.retry with
        | .replay outcome =>
          (.finished (.ok (state.replayed outcome).1), (state.replayed outcome).2)
        | .expired => (.finished (TrySubmitError.of .retryExpired command), state)
        | .conflict => (.finished (TrySubmitError.of .retryConflict command), state)
        | .fresh => state.reserveFresh command frameLen := by
  have hrefusal : state.refusal command = none := by
    simp [IngressState.refusal, hopen, hstore]
  unfold IngressState.reserve
  rewrite [hrefusal]
  rfl

/-- A key that a tier holds is not held by any slot. -/
theorem Inv.classifySlots_tier {runtime : Runtime} (h : runtime.Inv)
    {q key : RetryQualification} (hq : q ∈ runtime.shared.retry.retained)
    (hs : q.classify key ≠ .distinct) : classifySlots key runtime.shared.slots = none := by
  rw [classifySlots_none]
  intro slot hslot
  obtain ⟨i, hi⟩ := mem_occupied.mp hslot
  refine RetryQualification.distinct_of_same ?_ hs
  rw [RetryQualification.classify_distinct]
  exact Ne.symm (h.keys.retained i slot hi q hq)

/-- A fresh command is reserved or refused for want of room, never for its key. -/
theorem reserveFresh_cases {state next : IngressState} {command : IngressCommand} {frameLen : Nat}
    {reservation : Reservation}
    (h : state.reserveFresh command frameLen = (reservation, next)) :
    (∃ slotIndex terminal, reservation = .reserved slotIndex terminal frameLen) ∨
      next = state ∧ ∃ kind ∈ [TrySubmitErrorKind.full, .byteCapacity, .closed],
        reservation = .finished (TrySubmitError.of kind command) := by
  unfold reserveFresh at h
  split at h
  next =>
    cases h
    exact Or.inr ⟨rfl, .full, by simp, rfl⟩
  next =>
    split at h
    next =>
      cases h
      exact Or.inr ⟨rfl, .byteCapacity, by simp, rfl⟩
    next =>
      split at h
      next =>
        cases h
        exact Or.inr ⟨rfl, .closed, by simp, rfl⟩
      next slotIndex _ =>
        cases h
        exact Or.inl ⟨slotIndex, _, rfl⟩

theorem Inv.answers {runtime : Runtime} (h : runtime.Inv) (submit : Nat)
    {command : IngressCommand} {frameLen : Nat} (hopen : runtime.shared.closed = false)
    (hstore : command.admission.storeId = runtime.shared.storeId) :
    runtime.Answers (runtime.reserve submit command (.ok frameLen)) submit command := by
  have hoccupied : PairwiseDistinct (runtime.shared.occupied.map (·.qualification)) :=
    (List.pairwise_append.mp h.keys.pairwise).1
  have hreserve := @reserve_open runtime.shared command frameLen hopen hstore
  have hsame : ∀ {q r : RetryQualification}, q.classify r = .equivalent →
      q.classify r ≠ .distinct :=
    fun hq hd => nomatch hq.symm.trans hd
  have hother : ∀ {q r : RetryQualification}, q.classify r = .conflict → q.classify r ≠ .distinct :=
    fun hq hd => nomatch hq.symm.trans hd
  unfold Runtime.reserve
  constructor
  · intro slot hslot heq
    rw [hreserve, classifySlots_mem hoccupied hslot (hsame heq),
      if_pos (RetryQualification.classify_equivalent.mp heq)]
    rfl
  · intro outcome houtcome heq
    have hq : outcome.qualification ∈ runtime.shared.retry.retained :=
      List.mem_append_left _ (List.mem_map_of_mem houtcome)
    rw [hreserve, h.classifySlots_tier hq (hsame heq),
      RetryStateSnapshot.classify_replay h.keys.tiers houtcome (hsame heq),
      if_pos (RetryQualification.classify_equivalent.mp heq)]
    refine ⟨runtime.shared.receipts.length, rfl, ?_⟩
    simp only [IngressState.replayed, List.getElem?_append_right (Nat.le_refl _), Nat.sub_self]
    rfl
  · intro entry hentry heq
    have hq : entry.qualification ∈ runtime.shared.retry.retained :=
      List.mem_append_right _ (List.mem_map_of_mem hentry)
    rw [hreserve, h.classifySlots_tier hq (hsame heq),
      RetryStateSnapshot.classify_guard h.keys.tiers hentry (hsame heq),
      if_pos (RetryQualification.classify_equivalent.mp heq)]
    rfl
  · intro q hq heq
    have hne := (RetryQualification.classify_conflict.mp heq).2
    rw [Runtime.held, List.mem_append] at hq
    obtain hq | hq := hq
    · obtain ⟨slot, hslot, rfl⟩ := List.mem_map.mp hq
      rw [hreserve, classifySlots_mem hoccupied hslot (hother heq), if_neg hne]
      rfl
    · rw [hreserve, h.classifySlots_tier hq (hother heq)]
      rw [RetryStateSnapshot.retained, List.mem_append] at hq
      obtain hq | hq := hq
      · obtain ⟨outcome, houtcome, rfl⟩ := List.mem_map.mp hq
        rw [RetryStateSnapshot.classify_replay h.keys.tiers houtcome (hother heq), if_neg hne]
        rfl
      · obtain ⟨entry, hentry, rfl⟩ := List.mem_map.mp hq
        rw [RetryStateSnapshot.classify_guard h.keys.tiers hentry (hother heq), if_neg hne]
        rfl
  · intro hfresh
    have hslots : classifySlots command.admission.retry runtime.shared.slots = none := by
      rw [classifySlots_none]
      intro slot hslot
      exact hfresh _ (List.mem_append_left _ (List.mem_map_of_mem hslot))
    have hretry : runtime.shared.retry.classify command.admission.retry = .fresh := by
      rw [RetryStateSnapshot.classify_fresh]
      intro q hq
      exact hfresh q (List.mem_append_right _ hq)
    rw [hreserve, hslots, hretry]
    cases hr : runtime.shared.reserveFresh command frameLen with
    | mk reservation next =>
      obtain ⟨slotIndex, terminal, rfl⟩ | ⟨rfl, kind, hkind, rfl⟩ := reserveFresh_cases hr
      · exact Or.inl ⟨slotIndex, terminal, frameLen, rfl⟩
      · exact Or.inr ⟨kind, hkind, rfl⟩

end Runtime

end Historian
