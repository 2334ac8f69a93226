import Historian.IngressClaims

namespace Historian

open Checks IngressState

/-- The checked constructor of the limits. -/
def ByteReservationLimits.new (total protectedReserve normalReserve : U64) :
    Option ByteReservationLimits :=
  if h : total.val = 0 ∨ total.val < protectedReserve.val ∨
      total.val - protectedReserve.val < normalReserve.val then none
  else some ⟨total, protectedReserve, normalReserve, by omega, by omega⟩

/-- The constructor accepts exactly a positive total with reserves that fit it. -/
theorem ByteReservationLimits.new_ok {total protectedReserve normalReserve : U64}
    {limits : ByteReservationLimits} :
    ByteReservationLimits.new total protectedReserve normalReserve = some limits ↔
      limits.total = total ∧ limits.protectedReserve = protectedReserve ∧
        limits.normalReserve = normalReserve := by
  have hpositive := limits.positive
  have hnested := limits.nested
  unfold ByteReservationLimits.new
  constructor
  · intro h
    split at h
    next => cases h
    next =>
      cases h
      exact ⟨rfl, rfl, rfl⟩
  · rintro ⟨rfl, rfl, rfl⟩
    rw [dif_neg (by omega)]

/-- The bytes of a slot whose class is among the given ones. -/
def Slot.bytesOf (classes : AdmissionPriority → Bool) : Option Slot → Nat
  | none => 0
  | some slot => if classes slot.priority then slot.reservation else 0

namespace IngressState

/-- The bytes that the occupied slots of some classes hold. -/
def heldBytes (state : IngressState) (classes : AdmissionPriority → Bool) : Nat :=
  ((state.occupied.filter fun slot => classes slot.priority).map (·.reservation)).sum

/-- No family of classes holds more than a ceiling that is beyond none of theirs. -/
def Graded (state : IngressState) : Prop :=
  ∀ (classes : AdmissionPriority → Bool) (priority : AdmissionPriority),
    (∀ other, classes other = true →
      state.byteLimits.classCeiling other ≤ state.byteLimits.classCeiling priority) →
    state.heldBytes classes ≤ state.byteLimits.classCeiling priority

theorem heldBytes_eq (state : IngressState) (classes : AdmissionPriority → Bool) :
    state.heldBytes classes = (state.slots.map (Slot.bytesOf classes)).sum := by
  unfold heldBytes occupied
  induction state.slots with
  | nil => rfl
  | cons slot rest ih =>
    cases slot with
    | none => simpa [Slot.bytesOf] using ih
    | some slot =>
      by_cases hclass : classes slot.priority = true
      · simpa [Slot.bytesOf, hclass] using ih
      · simpa [Slot.bytesOf, hclass] using ih

theorem heldBytes_le {state : IngressState} (h : state.Balanced)
    (classes : AdmissionPriority → Bool) : state.heldBytes classes ≤ state.reservedBytes := by
  rw [h.reserved]
  unfold heldBytes
  exact (List.filter_sublist.map _).sum_le_sum (by simp)

/-- What a family of classes holds and what the others hold is what is reserved. -/
theorem heldBytes_split {state : IngressState} (h : state.Balanced)
    (classes : AdmissionPriority → Bool) :
    state.reservedBytes =
      state.heldBytes classes + state.heldBytes (fun other => !classes other) := by
  rw [h.reserved]
  unfold heldBytes
  induction state.occupied with
  | nil => rfl
  | cons slot rest ih =>
    dsimp only at ih ⊢
    simp only [List.filter_cons]
    by_cases hclass : classes slot.priority = true
    · simp only [hclass, Bool.not_true, if_true, List.map_cons, List.sum_cons, Bool.false_eq_true,
        if_false]
      omega
    · simp only [hclass, Bool.not_false, if_true, List.map_cons, List.sum_cons, Bool.false_eq_true,
        if_false]
      omega

/-- Every slot behind a step was held before it, in its class and with its length. -/
structure Sheds (state next : IngressState) : Prop where
  size : next.slots.length = state.slots.length
  limits : next.byteLimits = state.byteLimits
  kept : ∀ slotIndex slot, next.slot? slotIndex = some slot → ∃ old,
    state.slot? slotIndex = some old ∧ old.priority = slot.priority ∧
      old.reservation = slot.reservation

theorem Sheds.unchanged {state next : IngressState} (slots : next.slots = state.slots)
    (limits : next.byteLimits = state.byteLimits) : Sheds state next := by
  refine ⟨by rw [slots], limits, ?_⟩
  intro slotIndex slot hslot
  unfold slot? at hslot ⊢
  rw [slots] at hslot
  exact ⟨slot, hslot, rfl, rfl⟩

theorem Sheds.stopAll {state before : IngressState}
    (size : before.slots.length = state.slots.length)
    (limits : before.byteLimits = state.byteLimits) : Sheds state before.stopAll := by
  refine ⟨?_, limits, ?_⟩
  · rw [← size]
    exact List.length_map _
  · intro slotIndex slot hslot
    exact nomatch (slot?_stopAll before slotIndex).symm.trans hslot

/-- A change of one occupied slot that keeps its class and its length, or gives it up. -/
theorem Sheds.turned {state next : IngressState} {slotIndex : Nat} {old : Slot}
    {new : Option Slot} (hold : state.slot? slotIndex = some old)
    (slots : next.slots = state.slots.set slotIndex new)
    (same : ∀ slot ∈ new, old.priority = slot.priority ∧ old.reservation = slot.reservation)
    (limits : next.byteLimits = state.byteLimits) : Sheds state next := by
  refine ⟨by rw [slots, List.length_set], limits, ?_⟩
  intro j slot hj
  unfold slot? at hj
  rw [slots, slot?_of_set] at hj
  split at hj
  next hboth =>
    obtain ⟨hpriority, hlength⟩ := same slot (Option.mem_def.mpr hj)
    exact ⟨old, hboth.1 ▸ hold, hpriority, hlength⟩
  next => exact ⟨slot, hj, rfl, rfl⟩

theorem Sheds.trans {first second third : IngressState} (h : Sheds first second)
    (h' : Sheds second third) : Sheds first third := by
  refine ⟨h'.size.trans h.size, h'.limits.trans h.limits, ?_⟩
  intro slotIndex slot hslot
  obtain ⟨middle, hmiddle, hpriority, hlength⟩ := h'.kept slotIndex slot hslot
  obtain ⟨old, hold, hpriority', hlength'⟩ := h.kept slotIndex middle hmiddle
  exact ⟨old, hold, hpriority'.trans hpriority, hlength'.trans hlength⟩

theorem Sheds.heldBytes {state next : IngressState} (h : Sheds state next)
    (classes : AdmissionPriority → Bool) : next.heldBytes classes ≤ state.heldBytes classes := by
  rw [heldBytes_eq, heldBytes_eq]
  apply List.Forall₂.sum_le_sum
  rw [List.forall₂_map_left_iff, List.forall₂_map_right_iff, List.forall₂_iff_get]
  refine ⟨h.size, ?_⟩
  intro i hnext hstate
  have hread : ∀ {some' : IngressState} (hi : i < some'.slots.length),
      some'.slot? i = some'.slots.get ⟨i, hi⟩ := by
    intro some' hi
    unfold slot?
    rw [List.getElem?_eq_getElem hi]
    rfl
  rw [← hread hnext, ← hread hstate]
  cases hslot : next.slot? i with
  | none => exact Nat.zero_le _
  | some slot =>
    obtain ⟨old, hold, hpriority, hlength⟩ := h.kept i slot hslot
    rw [hold]
    simp [Slot.bytesOf, hpriority, hlength]

theorem Graded.sheds {state next : IngressState} (h : state.Graded) (sheds : Sheds state next) :
    next.Graded := by
  intro classes priority hceilings
  rw [sheds.limits] at hceilings ⊢
  exact Nat.le_trans (sheds.heldBytes classes) (h classes priority hceilings)

theorem sheds_enqueue {state : IngressState} {slotIndex terminal : Nat}
    {prepared : PreparedAdmissionV1} {command : IngressCommand} :
    Sheds state (state.enqueue slotIndex terminal prepared command).2 := by
  unfold IngressState.enqueue
  split
  next old hold =>
    split
    next =>
      refine Sheds.turned hold rfl ?_ rfl
      intro slot hslot
      cases hslot
      exact ⟨rfl, rfl⟩
    next => exact Sheds.stopAll rfl rfl
  next => exact Sheds.stopAll rfl rfl

theorem sheds_rollbackPreparation (state : IngressState) (slotIndex : Nat) :
    Sheds state (state.rollbackPreparation slotIndex) := by
  unfold IngressState.rollbackPreparation
  split
  next => exact Sheds.unchanged rfl rfl
  next old hold => exact Sheds.turned hold rfl (by simp) rfl

theorem sheds_takeNext (state : IngressState) : Sheds state state.takeNext.2 := by
  unfold IngressState.takeNext
  split
  next slotIndex queue _ =>
    dsimp only
    split
    next => exact Sheds.unchanged rfl rfl
    next old hold =>
      split
      next => exact Sheds.unchanged rfl rfl
      next =>
        split
        next => exact Sheds.unchanged rfl rfl
        next =>
          have hsame : state.slot? slotIndex = some old := hold
          refine Sheds.turned hsame rfl ?_ rfl
          intro slot hslot
          cases hslot
          exact ⟨rfl, rfl⟩
  next =>
    dsimp only
    split
    next => exact Sheds.unchanged rfl rfl
    next =>
      split
      next => exact Sheds.unchanged rfl rfl
      next => exact Sheds.unchanged rfl rfl

theorem sheds_preparePublication (state : IngressState) (slotIndex : Nat)
    (admission : CanonicalAdmission) :
    Sheds state (state.preparePublication slotIndex admission).2 := by
  unfold IngressState.preparePublication
  split
  next =>
    split
    next =>
      split
      next => exact Sheds.unchanged rfl rfl
      next => exact Sheds.unchanged rfl rfl
    next => exact Sheds.unchanged rfl rfl
  next => exact Sheds.unchanged rfl rfl

theorem sheds_completeHandled {state : IngressState} {slotIndex : Nat}
    {admission : CanonicalAdmission} {append : AppendIdentity}
    {preparation : PreparedPublication} :
    Sheds state (state.completeHandled slotIndex admission append preparation).2 := by
  unfold IngressState.completeHandled
  split
  next => exact Sheds.stopAll rfl rfl
  next old hold =>
    split
    next => exact Sheds.stopAll rfl rfl
    next =>
      dsimp only
      split
      next =>
        refine Sheds.turned hold rfl ?_ rfl
        intro slot hslot
        cases hslot
        exact ⟨rfl, rfl⟩
      next => exact Sheds.stopAll List.length_set rfl

theorem sheds_finishBatch {committed : ManifestCommit} {entries : List DurableBatchEntry}
    {state : IngressState} : Sheds state (finishBatch committed state entries).2 := by
  induction entries generalizing state with
  | nil => exact Sheds.unchanged rfl rfl
  | cons entry rest ih =>
    simp only [IngressState.finishBatch]
    split
    next => exact Sheds.stopAll rfl rfl
    next old hold =>
      split
      next =>
        refine Sheds.trans ?_ ih
        exact Sheds.turned hold rfl (by simp) rfl
      next => exact Sheds.stopAll List.length_set rfl

theorem sheds_completeDurableBatch {state : IngressState} {entries : List DurableBatchEntry}
    {committed : ManifestCommit} {retry : RetryStateSnapshot} :
    Sheds state (state.completeDurableBatch entries committed retry).2 := by
  unfold IngressState.completeDurableBatch
  split
  next => exact Sheds.stopAll rfl rfl
  next =>
    split
    next => exact Sheds.stopAll rfl rfl
    next =>
      split
      next => exact Sheds.stopAll rfl rfl
      next =>
        have hinstall : Sheds state { state with retry := retry } := Sheds.unchanged rfl rfl
        exact hinstall.trans sheds_finishBatch

/-- A reservation is checked against the total of all classes, which is more than what a family
holds that its class belongs to; the other families hold what they held. -/
theorem Graded.take {state : IngressState} (h : state.Graded) (hbalanced : state.Balanced)
    {command : IngressCommand} {slotIndex frameLen : Nat}
    (takes : state.CanTake command slotIndex frameLen) :
    IngressState.Graded
      { state.setSlot slotIndex (some (state.freshSlot command frameLen)) with
        reservedBytes := state.reservedBytes + frameLen
        receipts := state.receipts ++ [.pending] } := by
  have hroom : state.reservedBytes + frameLen ≤ state.byteLimits.classCeiling command.priority :=
    of_decide_eq_true takes.room
  intro classes priority hceilings
  have hbefore := h classes priority hceilings
  have hbelow := heldBytes_le hbalanced classes
  rw [heldBytes_eq] at hbefore hbelow ⊢
  have hset := sum_set_map (Slot.bytesOf classes) takes.inRange
    (some (state.freshSlot command frameLen))
  have hfree : (state.slots[slotIndex]?).join = none := takes.wasFree
  rw [hfree] at hset
  change ((state.slots.set slotIndex (some (state.freshSlot command frameLen))).map
    (Slot.bytesOf classes)).sum ≤ state.byteLimits.classCeiling priority
  have hnone : Slot.bytesOf classes none = 0 := rfl
  by_cases hclass : classes command.priority = true
  · have hceiling : state.byteLimits.classCeiling command.priority ≤
        state.byteLimits.classCeiling priority := hceilings command.priority hclass
    have hfresh : Slot.bytesOf classes (some (state.freshSlot command frameLen)) = frameLen :=
      if_pos hclass
    omega
  · have hfresh : Slot.bytesOf classes (some (state.freshSlot command frameLen)) = 0 :=
      if_neg hclass
    omega

end IngressState

namespace Runtime

variable {limits : ByteReservationLimits}

theorem graded_reserve {runtime : Runtime} (h : runtime.shared.Graded)
    (hbalanced : runtime.shared.Balanced) (submit : Nat) (command : IngressCommand)
    (measured : Except JournalV1Error Nat) :
    (runtime.reserve submit command measured).shared.Graded := by
  unfold Runtime.reserve
  split
  next result next hreserve =>
    obtain ⟨_, -, rfl | ⟨outcome, -, rfl⟩⟩ | ⟨_, _, -, hne, -⟩ := reserve_next hreserve
    · exact h
    · exact h.sheds (Sheds.unchanged rfl rfl)
    · cases hne
  next hreserve =>
    obtain ⟨_, hne, -⟩ | ⟨_, _, -, -, htakes, rfl⟩ := reserve_next hreserve
    · cases hne
    · exact h.take hbalanced htakes

theorem graded_publish {runtime : Runtime} (h : runtime.shared.Graded)
    {inFlight slotIndex : Nat} {admission : CanonicalAdmission} {append : AppendIdentity} :
    (runtime.publish inFlight slotIndex admission append).shared.Graded := by
  have hsheds := sheds_preparePublication runtime.shared slotIndex admission
  unfold Runtime.publish
  split
  next hprepare =>
    rw [hprepare] at hsheds
    exact h.sheds hsheds
  next hprepare =>
    rw [hprepare] at hsheds
    exact h.sheds (hsheds.trans (Sheds.stopAll rfl rfl))

/-- Every atomic step keeps the classes below their ceilings. -/
theorem graded_step {runtime next : Runtime} (h : runtime.shared.Graded)
    (hbalanced : runtime.shared.Balanced) {event : RuntimeEvent}
    (hstep : runtime.step event = some next) : next.shared.Graded := by
  cases event with
  | enter command =>
    cases hstep
    exact h
  | check submit =>
    simp only [Runtime.step] at hstep
    split at hstep
    next =>
      cases hstep
      unfold Runtime.check
      split <;> exact h
    next => cases hstep
  | measure submit =>
    simp only [Runtime.step] at hstep
    split at hstep
    next => cases hstep; exact h
    next => cases hstep
  | reserve submit =>
    simp only [Runtime.step] at hstep
    split at hstep
    next => cases hstep; exact graded_reserve h hbalanced _ _ _
    next => cases hstep
  | prepare submit =>
    simp only [Runtime.step] at hstep
    split at hstep
    next => cases hstep; exact h
    next => cases hstep
  | enqueue submit =>
    simp only [Runtime.step] at hstep
    split at hstep
    next => cases hstep; exact h.sheds sheds_enqueue
    next => cases hstep
  | rollback submit =>
    simp only [Runtime.step] at hstep
    split at hstep
    next => cases hstep; exact h.sheds (sheds_rollbackPreparation _ _)
    next => cases hstep
  | takeNext =>
    cases hstep
    rw [(takeNext_shared runtime).1]
    exact h.sheds (sheds_takeNext _)
  | append inFlight identity =>
    simp only [Runtime.step] at hstep
    split at hstep
    next => cases hstep; exact h
    next => cases hstep
  | publish inFlight =>
    simp only [Runtime.step] at hstep
    split at hstep
    next => cases hstep; exact graded_publish h
    next => cases hstep
  | completeHandled inFlight =>
    simp only [Runtime.step] at hstep
    split at hstep
    next => cases hstep; exact h.sheds sheds_completeHandled
    next => cases hstep
  | drop inFlight =>
    simp only [Runtime.step] at hstep
    split at hstep
    next => cases hstep; exact h.sheds (Sheds.stopAll rfl rfl)
    next => cases hstep
  | completeDurableBatch entries committed retry =>
    cases hstep
    exact h.sheds sheds_completeDurableBatch
  | closeAdmission =>
    cases hstep
    exact h.sheds (Sheds.unchanged rfl rfl)
  | stop =>
    cases hstep
    exact h.sheds (Sheds.stopAll rfl rfl)

theorem graded_run {runtime final : Runtime} (h : runtime.shared.Graded)
    (haccounted : runtime.Accounted limits) {events : List RuntimeEvent}
    (hrun : runtime.run events = some final) : final.shared.Graded := by
  induction events generalizing runtime with
  | nil =>
    cases hrun
    exact h
  | cons event rest ih =>
    simp only [Runtime.run] at hrun
    split at hrun
    next next hstep =>
      exact ih (graded_step h haccounted.balanced hstep) (haccounted.step hstep) hrun
    next => cases hrun

theorem Opened.graded {runtime : Runtime} {retry : RetryStateSnapshot}
    (h : runtime.Opened retry) : runtime.shared.Graded := by
  obtain ⟨shared, submits, writer, journal⟩ := runtime
  obtain ⟨storeId, byteLimits, hinstall, rfl, rfl, rfl⟩ := h
  unfold installOpenedRetry at hinstall
  split at hinstall
  next => cases hinstall
  next =>
    cases hinstall
    intro classes priority _
    rw [heldBytes_eq]
    simp [IngressState.new, Slot.bytesOf]

/-- Only a reserve section refuses for want of bytes, and only beyond the class's ceiling. -/
theorem reserve_byteCapacity {state : IngressState} {command refused : IngressCommand}
    {measured : Except JournalV1Error Nat}
    (h : (state.reserve command measured).1 =
      .finished (TrySubmitError.of .byteCapacity refused)) :
    refused = command ∧ ∃ n, measured = .ok n ∧ state.canReserve command.priority n = false := by
  unfold IngressState.reserve at h
  split at h
  next result hrefusal =>
    simp only [Reservation.finished.injEq] at h
    subst h
    unfold refusal at hrefusal
    split at hrefusal
    next => cases hrefusal
    next =>
      split at hrefusal
      next => cases hrefusal
      next => cases hrefusal
  next =>
    split at h
    next => cases h
    next n =>
      split at h
      next => cases h
      next => cases h
      next =>
        split at h
        next => cases h
        next => cases h
        next => cases h
        next =>
          unfold reserveFresh at h
          split at h
          next => cases h
          next =>
            split at h
            next hroom =>
              cases h
              exact ⟨rfl, n, rfl, by simpa using hroom⟩
            next =>
              split at h
              next => cases h
              next => cases h

/-- A submission that a step moves: it ends where the step puts it, and the others stay. -/
theorem moved_submit {submits : List SubmitPhase} {moved submit : Nat} {phase other : SubmitPhase}
    (h : (submits.set moved phase)[submit]? = some other) :
    submits[submit]? = some other ∨ submit = moved ∧ phase = other := by
  rw [List.getElem?_set] at h
  split at h
  next hsame =>
    split at h
    next => exact Or.inr ⟨hsame.symm, Option.some.inj h⟩
    next => cases h
  next => exact Or.inl h

/-- A refusal for want of bytes is what a reserve section answered to a measured command. -/
theorem refused_step {runtime next : Runtime} {event : RuntimeEvent}
    (hstep : runtime.step event = some next) {submit : Nat} {refused : IngressCommand}
    (h : next.submits[submit]? = some (.finished (TrySubmitError.of .byteCapacity refused))) :
    runtime.submits[submit]? = some (.finished (TrySubmitError.of .byteCapacity refused)) ∨
    ∃ n, event = .reserve submit ∧
      runtime.submits[submit]? = some (.measured refused (.ok n)) ∧
      runtime.shared.canReserve refused.priority n = false := by
  cases event with
  | enter command =>
    cases hstep
    rw [List.getElem?_append] at h
    split at h
    next => exact Or.inl h
    next =>
      have hentered := List.mem_singleton.mp (List.mem_of_getElem? h)
      cases hentered
  | check moved =>
    simp only [Runtime.step] at hstep
    split at hstep
    next command hsubmit =>
      cases hstep
      unfold Runtime.check at h
      split at h
      next result hrefusal =>
        rcases moved_submit h with hkept | ⟨-, hphase⟩
        · exact Or.inl hkept
        · cases hphase
          unfold refusal at hrefusal
          split at hrefusal
          next => cases hrefusal
          next =>
            split at hrefusal
            next => cases hrefusal
            next => cases hrefusal
      next =>
        rcases moved_submit h with hkept | ⟨-, hphase⟩
        · exact Or.inl hkept
        · cases hphase
    next => cases hstep
  | measure moved =>
    simp only [Runtime.step] at hstep
    split at hstep
    next =>
      cases hstep
      rcases moved_submit h with hkept | ⟨-, hphase⟩
      · exact Or.inl hkept
      · cases hphase
    next => cases hstep
  | reserve moved =>
    simp only [Runtime.step] at hstep
    split at hstep
    next command measured hsubmit =>
      cases hstep
      unfold Runtime.reserve at h
      split at h
      next result shared hreserve =>
        rcases moved_submit h with hkept | ⟨rfl, hphase⟩
        · exact Or.inl hkept
        · cases hphase
          have hanswer := congrArg Prod.fst hreserve
          obtain ⟨rfl, n, rfl, hroom⟩ := reserve_byteCapacity hanswer
          exact Or.inr ⟨n, rfl, hsubmit, hroom⟩
      next =>
        rcases moved_submit h with hkept | ⟨-, hphase⟩
        · exact Or.inl hkept
        · cases hphase
    next => cases hstep
  | prepare moved =>
    simp only [Runtime.step] at hstep
    split at hstep
    next =>
      cases hstep
      rcases moved_submit h with hkept | ⟨-, hphase⟩
      · exact Or.inl hkept
      · split at hphase
        next =>
          split at hphase
          next => cases hphase
          next => cases hphase
        next => cases hphase
    next => cases hstep
  | enqueue moved =>
    simp only [Runtime.step] at hstep
    split at hstep
    next =>
      cases hstep
      rcases moved_submit h with hkept | ⟨-, hphase⟩
      · exact Or.inl hkept
      · simp only [SubmitPhase.finished.injEq] at hphase
        split at hphase
        next =>
          split at hphase
          next => cases hphase
          next => cases hphase
        next => cases hphase
    next => cases hstep
  | rollback moved =>
    simp only [Runtime.step] at hstep
    split at hstep
    next =>
      cases hstep
      rcases moved_submit h with hkept | ⟨-, hphase⟩
      · exact Or.inl hkept
      · cases hphase
    next => cases hstep
  | takeNext =>
    cases hstep
    rw [(takeNext_shared runtime).2] at h
    exact Or.inl h
  | append inFlight identity =>
    simp only [Runtime.step] at hstep
    split at hstep
    next => cases hstep; exact Or.inl h
    next => cases hstep
  | publish inFlight =>
    simp only [Runtime.step] at hstep
    split at hstep
    next =>
      cases hstep
      unfold Runtime.publish at h
      split at h
      next => exact Or.inl h
      next => exact Or.inl h
    next => cases hstep
  | completeHandled inFlight =>
    simp only [Runtime.step] at hstep
    split at hstep
    next => cases hstep; exact Or.inl h
    next => cases hstep
  | drop inFlight =>
    simp only [Runtime.step] at hstep
    split at hstep
    next => cases hstep; exact Or.inl h
    next => cases hstep
  | completeDurableBatch entries committed retry =>
    cases hstep
    exact Or.inl h
  | closeAdmission =>
    cases hstep
    exact Or.inl h
  | stop =>
    cases hstep
    exact Or.inl h

/-- Bulk and normal commands leave the protected reserve to the protected ones. -/
theorem protected_canReserve {state : IngressState} (h : state.Graded)
    (hbalanced : state.Balanced) {n : Nat}
    (hroom : n + state.heldBytes (· = .protectedClass) ≤ state.byteLimits.protectedReserve.val) :
    state.canReserve .protectedClass n = true := by
  have hothers := h (fun other => !decide (other = .protectedClass)) .normal (by
    intro other hother
    have hnested := state.byteLimits.nested
    cases other with
    | protectedClass => cases hother
    | normal => exact Nat.le_refl _
    | bulk => exact Nat.sub_le _ _)
  have hsplit := heldBytes_split hbalanced (fun other => decide (other = .protectedClass))
  have hnested := state.byteLimits.nested
  have hceiling : state.byteLimits.classCeiling .normal =
    state.byteLimits.total.val - state.byteLimits.protectedReserve.val := rfl
  have htotal : state.byteLimits.classCeiling .protectedClass = state.byteLimits.total.val := rfl
  unfold canReserve
  rw [decide_eq_true_eq, htotal]
  omega

/-- In every state that the locked sections lead to, in whatever order: bulk commands hold no more
than the total without both reserves, bulk and normal ones together no more than the total without
the protected reserve, and a protected command is refused for want of bytes only when its bytes and
those of the protected slots exceed the protected reserve. -/
theorem reservation_classes_honoured {retry : RetryStateSnapshot}
    (hvalid : validateState retry = .ok ()) {start : Runtime} (hopened : start.Opened retry)
    {total protectedReserve normalReserve : U64}
    (hlimits : ByteReservationLimits.new total protectedReserve normalReserve =
      some start.shared.byteLimits)
    {events : List RuntimeEvent} {runtime : Runtime} (hrun : start.run events = some runtime) :
    runtime.shared.heldBytes (· = .bulk) ≤
      total.val - protectedReserve.val - normalReserve.val ∧
    runtime.shared.heldBytes (· ≠ .protectedClass) ≤ total.val - protectedReserve.val ∧
    (∀ (command : IngressCommand) (n : Nat), command.priority = .protectedClass →
      n + runtime.shared.heldBytes (· = .protectedClass) ≤ protectedReserve.val →
      ∀ refused, (runtime.shared.reserve command (.ok n)).1 ≠
        .finished (TrySubmitError.of .byteCapacity refused)) ∧
    ∀ (event : RuntimeEvent) (next : Runtime) (submit : Nat) (refused : IngressCommand),
      runtime.step event = some next →
      next.submits[submit]? = some (.finished (TrySubmitError.of .byteCapacity refused)) →
      runtime.submits[submit]? = some (.finished (TrySubmitError.of .byteCapacity refused)) ∨
      ∃ n, event = .reserve submit ∧
        runtime.submits[submit]? = some (.measured refused (.ok n)) ∧
        (refused.priority = .protectedClass →
          protectedReserve.val < n + runtime.shared.heldBytes (· = .protectedClass)) := by
  have haccounted := hopened.accounted hvalid
  have hreached := haccounted.run hrun
  have hgraded := graded_run hopened.graded haccounted hrun
  obtain ⟨rfl, rfl, rfl⟩ := ByteReservationLimits.new_ok.mp hlimits
  rw [← hreached.limits]
  have hprotected : ∀ (command : IngressCommand) (n : Nat), command.priority = .protectedClass →
      n + runtime.shared.heldBytes (· = .protectedClass) ≤
        runtime.shared.byteLimits.protectedReserve.val →
      runtime.shared.canReserve command.priority n = true := by
    intro command n hpriority hroom
    rw [hpriority]
    exact protected_canReserve hgraded hreached.balanced hroom
  refine ⟨?_, ?_, ?_, ?_⟩
  · refine hgraded (fun other => decide (other = .bulk)) .bulk ?_
    intro other hother
    rw [of_decide_eq_true hother]
  · refine hgraded (fun other => decide (other ≠ .protectedClass)) .normal ?_
    intro other hother
    cases other with
    | protectedClass => cases hother
    | normal => exact Nat.le_refl _
    | bulk => exact Nat.sub_le _ _
  · intro command n hpriority hroom refused hrefused
    obtain ⟨-, m, hm, hfull⟩ := reserve_byteCapacity hrefused
    cases hm
    rw [hprotected command n hpriority hroom] at hfull
    cases hfull
  · intro event next submit refused hstep hsubmit
    rcases refused_step hstep hsubmit with hkept | ⟨n, hevent, hbefore, hfull⟩
    · exact Or.inl hkept
    · refine Or.inr ⟨n, hevent, hbefore, ?_⟩
      intro hpriority
      by_contra hroom
      rw [hprotected refused n hpriority (by omega)] at hfull
      cases hfull

/-- Three sample frames in total, one of them for protected commands and one more that bulk
ones lack. -/
def sampleClassLimits : ByteReservationLimits := ⟨2439, 813, 813, by decide, by decide⟩

def sampleClassStart : Runtime :=
  ⟨.new (sampleIdentity 1) sampleClassLimits sampleRetryOptions, [], [], []⟩

def sampleProtected : IngressCommand := keyedCommand 'b' secondKey_printable .protectedClass

/-- Two bulk commands, two normal ones and a protected one up to its reserve section. -/
def sampleClassEvents : List RuntimeEvent :=
  [.enter (keyedCommand 'a' firstKey_printable .bulk), .check 0, .measure 0, .reserve 0,
    .enter (keyedCommand 'b' secondKey_printable .bulk), .check 1, .measure 1, .reserve 1,
    .enter (keyedCommand 'c' thirdKey_printable .normal), .check 2, .measure 2, .reserve 2,
    .enter (keyedCommand 'k' sampleKey_printable .normal), .check 3, .measure 3, .reserve 3,
    .enter sampleProtected, .check 4, .measure 4]

/-- The second command of either class is refused for want of bytes, and then the protected one
is not. -/
theorem reservation_classes_honoured_sample :
    ∃ runtime, sampleClassStart.run sampleClassEvents = some runtime ∧
      runtime.shared.occupied.map (·.priority) = [.bulk, .normal] ∧
      runtime.submits[1]? = some (.finished
        (TrySubmitError.of .byteCapacity (keyedCommand 'b' secondKey_printable .bulk))) ∧
      runtime.submits[3]? = some (.finished
        (TrySubmitError.of .byteCapacity (keyedCommand 'k' sampleKey_printable .normal))) ∧
      runtime.submits[4]? = some (.measured sampleProtected (.ok 813)) ∧
      runtime.shared.heldBytes (· = .bulk) ≤ 813 ∧
      runtime.shared.heldBytes (· ≠ .protectedClass) ≤ 1626 ∧
      ∀ refused, (runtime.shared.reserve sampleProtected (.ok 813)).1 ≠
        .finished (TrySubmitError.of .byteCapacity refused) := by
  have hopened : sampleClassStart.Opened sampleRetryState :=
    ⟨sampleIdentity 1, sampleClassLimits, rfl, rfl, rfl, rfl⟩
  have hreached : (sampleClassStart.run sampleClassEvents).any (fun runtime =>
      decide (runtime.shared.occupied.map (·.priority) = [.bulk, .normal] ∧
        runtime.submits[1]? = some (.finished
          (TrySubmitError.of .byteCapacity (keyedCommand 'b' secondKey_printable .bulk))) ∧
        runtime.submits[3]? = some (.finished
          (TrySubmitError.of .byteCapacity (keyedCommand 'k' sampleKey_printable .normal))) ∧
        runtime.submits[4]? = some (.measured sampleProtected (.ok 813)) ∧
        runtime.shared.heldBytes (· = .protectedClass) = 0)) = true := by
    decide +kernel
  have hlimits : ByteReservationLimits.new 2439 813 813 =
      some sampleClassStart.shared.byteLimits := ByteReservationLimits.new_ok.mpr ⟨rfl, rfl, rfl⟩
  obtain ⟨runtime, hrun, hreached⟩ := (Option.any_eq_true _ _).mp hreached
  obtain ⟨hslots, hbulk, hnormal, hmeasured, hheld⟩ := of_decide_eq_true hreached
  obtain ⟨hbulks, hothers, hprotected, -⟩ :=
    reservation_classes_honoured rfl hopened hlimits hrun
  refine ⟨runtime, hrun, hslots, hbulk, hnormal, hmeasured, hbulks, hothers, ?_⟩
  refine hprotected sampleProtected 813 rfl ?_
  rw [hheld]
  exact Nat.le_refl _

end Runtime

end Historian
