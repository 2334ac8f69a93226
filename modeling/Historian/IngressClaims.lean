import Historian.IngressBalance
import Historian.IngressExactlyOnce

namespace Historian

open Checks IngressState

namespace IngressState

/-- A stop took every slot, and admission is closed for good. -/
def Halted (state : IngressState) : Prop := state.HasStopped ∧ state.Stopped

/-- A stop is final, and a step leaves the slots in preparation alone, except for its own. -/
structure Keeps (state next : IngressState) (own : Nat → Prop) : Prop where
  limits : next.byteLimits = state.byteLimits
  stays : state.Halted → next.Halted
  others : next.Halted ∨ ∀ slotIndex slot, ¬own slotIndex →
    state.slot? slotIndex = some slot → slot.phase = .preparing →
      next.slot? slotIndex = some slot

theorem Keeps.stopAll {state : IngressState} (before : IngressState) {own : Nat → Prop}
    (limits : before.byteLimits = state.byteLimits) : Keeps state before.stopAll own := by
  have hhalted : before.stopAll.Halted := ⟨rfl, stopped_stopAll before⟩
  exact ⟨limits, fun _ => hhalted, Or.inl hhalted⟩

theorem Keeps.unchanged {state next : IngressState} {own : Nat → Prop}
    (slots : next.slots = state.slots) (closed : state.closed = true → next.closed = true)
    (stays : state.HasStopped → next.HasStopped)
    (limits : next.byteLimits = state.byteLimits) : Keeps state next own := by
  have hslot : ∀ i, next.slot? i = state.slot? i := by
    intro i
    unfold slot?
    rw [slots]
  refine ⟨limits, ?_, Or.inr ?_⟩
  · rintro ⟨hstopped, hclosed, hnone⟩
    exact ⟨stays hstopped, closed hclosed, fun i => (hslot i).trans (hnone i)⟩
  · intro i slot _ hi _
    exact (hslot i).trans hi

/-- A change of one slot that is free, in another phase, or the step's own. -/
theorem Keeps.turned {state next : IngressState} {own : Nat → Prop} {slotIndex : Nat}
    {new : Option Slot} (slots : next.slots = state.slots.set slotIndex new)
    (live : ¬state.Halted)
    (other : ∀ slot, state.slot? slotIndex = some slot → slot.phase = .preparing → own slotIndex)
    (limits : next.byteLimits = state.byteLimits) : Keeps state next own := by
  refine ⟨limits, fun hhalted => absurd hhalted live, Or.inr ?_⟩
  intro j slot hown hj hphase
  have hne : slotIndex ≠ j := by
    rintro rfl
    exact hown (other slot hj hphase)
  unfold slot? at hj ⊢
  rw [slots, slot?_of_set, if_neg (fun hboth => hne hboth.1)]
  exact hj

theorem not_halted {state : IngressState} {slotIndex : Nat} {slot : Slot}
    (hslot : state.slot? slotIndex = some slot) : ¬state.Halted :=
  fun hhalted => nomatch (hhalted.2.2 slotIndex).symm.trans hslot

theorem Keeps.trans {first second third : IngressState} {own : Nat → Prop}
    (h : Keeps first second own) (h' : Keeps second third own) : Keeps first third own := by
  refine ⟨h'.limits.trans h.limits, fun hstopped => h'.stays (h.stays hstopped), ?_⟩
  rcases h.others with hstopped | hfirst
  · exact Or.inl (h'.stays hstopped)
  · rcases h'.others with hstopped | hsecond
    · exact Or.inl hstopped
    · refine Or.inr ?_
      intro i slot hown hi hphase
      exact hsecond i slot hown (hfirst i slot hown hi hphase) hphase

theorem keeps_enqueue {state : IngressState} {slotIndex terminal : Nat}
    {prepared : PreparedAdmissionV1} {command : IngressCommand} :
    Keeps state (state.enqueue slotIndex terminal prepared command).2 (· = slotIndex) := by
  unfold IngressState.enqueue
  split
  next old hold =>
    split
    next => exact Keeps.turned rfl (not_halted hold) (fun _ _ _ => rfl) rfl
    next => exact Keeps.stopAll _ rfl
  next => exact Keeps.stopAll _ rfl

theorem keeps_rollbackPreparation (state : IngressState) (slotIndex : Nat) :
    Keeps state (state.rollbackPreparation slotIndex) (· = slotIndex) := by
  unfold IngressState.rollbackPreparation
  split
  next => exact Keeps.unchanged rfl id id rfl
  next old hold => exact Keeps.turned rfl (not_halted hold) (fun _ _ _ => rfl) rfl

theorem hasStopped_seal {latest : LatestState} (h : latest.current = none) :
    latest.seal.2.current = none := by
  unfold LatestState.seal
  split <;> exact h

theorem keeps_takeNext (state : IngressState) :
    Keeps state state.takeNext.2 fun _ => False := by
  unfold IngressState.takeNext
  split
  next slotIndex queue _ =>
    dsimp only
    split
    next => exact Keeps.unchanged rfl id id rfl
    next old hold =>
      split
      next => exact Keeps.unchanged rfl id id rfl
      next hphase =>
        split
        next => exact Keeps.unchanged rfl id id rfl
        next prepared hprepared =>
          refine Keeps.turned rfl (not_halted hold) ?_ rfl
          intro slot hslot hpreparing
          have hsame : state.slot? slotIndex = some old := hold
          rw [hsame] at hslot
          cases hslot
          simp [hpreparing] at hphase
  next queue _ =>
    dsimp only
    split
    next => exact Keeps.unchanged rfl id hasStopped_seal rfl
    next =>
      split
      next => exact Keeps.unchanged rfl id id rfl
      next => exact Keeps.unchanged rfl id id rfl

theorem keeps_preparePublication (state : IngressState) (slotIndex : Nat)
    (admission : CanonicalAdmission) :
    Keeps state (state.preparePublication slotIndex admission).2 fun _ => False := by
  unfold IngressState.preparePublication
  split
  next =>
    split
    next =>
      split
      next plan _ =>
        refine Keeps.unchanged rfl id ?_ rfl
        intro hstopped
        cases plan with
        | noChange => exact hstopped
        | advance base index candidate => exact hstopped
      next => exact Keeps.unchanged rfl id id rfl
    next => exact Keeps.unchanged rfl id id rfl
  next => exact Keeps.unchanged rfl id id rfl

theorem keeps_completeHandled {state : IngressState} {slotIndex : Nat}
    {admission : CanonicalAdmission} {append : AppendIdentity}
    {preparation : PreparedPublication} :
    Keeps state (state.completeHandled slotIndex admission append preparation).2
      fun _ => False := by
  unfold IngressState.completeHandled
  split
  next => exact Keeps.stopAll _ rfl
  next old hold =>
    split
    next => exact Keeps.stopAll _ rfl
    next hvalid =>
      simp only [not_or, not_not] at hvalid
      dsimp only
      split
      next =>
        refine Keeps.turned rfl (not_halted hold) ?_ rfl
        intro slot hslot hpreparing
        rw [hold] at hslot
        cases hslot
        rw [hvalid.1] at hpreparing
        cases hpreparing
      next => exact Keeps.stopAll _ rfl

theorem keeps_finishBatch {committed : ManifestCommit} {entries : List DurableBatchEntry}
    {state : IngressState} (hwaiting : ∀ entry ∈ entries, ∀ slot,
      state.slot? entry.slot = some slot → slot.phase = .awaitingDurability) :
    Keeps state (finishBatch committed state entries).2 fun _ => False := by
  induction entries generalizing state with
  | nil => exact Keeps.unchanged rfl id id rfl
  | cons entry rest ih =>
    simp only [IngressState.finishBatch]
    split
    next => exact Keeps.stopAll _ rfl
    next old hold =>
      have hphase := hwaiting entry List.mem_cons_self old hold
      split
      next =>
        refine Keeps.trans ?_ (ih ?_)
        · refine Keeps.turned rfl (not_halted hold) ?_ rfl
          intro slot hslot hpreparing
          rw [hold] at hslot
          cases hslot
          rw [hphase] at hpreparing
          cases hpreparing
        · intro other hother slot hslot
          exact waiting_rest hold hwaiting hother hslot
      next => exact Keeps.stopAll _ rfl

theorem keeps_completeDurableBatch {state : IngressState} {entries : List DurableBatchEntry}
    {committed : ManifestCommit} {retry : RetryStateSnapshot} :
    Keeps state (state.completeDurableBatch entries committed retry).2 fun _ => False := by
  unfold IngressState.completeDurableBatch
  split
  next => exact Keeps.stopAll _ rfl
  next =>
    split
    next => exact Keeps.stopAll _ rfl
    next =>
      split
      next => exact Keeps.stopAll _ rfl
      next hvalid =>
        have hinstall : Keeps state { state with retry := retry } fun _ => False :=
          Keeps.unchanged rfl id id rfl
        refine hinstall.trans (keeps_finishBatch ?_)
        intro entry hentry slot hslot
        exact waiting_of_valid (not_not.mp hvalid) hentry hslot

/-- The slot of a submission in preparation is still its own, unless a stop took it. -/
def Claimed (state : IngressState) (slotIndex terminal frameLen : Nat) : Prop :=
  state.Halted ∨ ∃ slot, state.slot? slotIndex = some slot ∧ slot.phase = .preparing ∧
    slot.terminal = terminal ∧ slot.reservation = frameLen

theorem Claimed.keep {state next : IngressState} {own : Nat → Prop}
    {slotIndex terminal frameLen : Nat} (h : state.Claimed slotIndex terminal frameLen)
    (keeps : Keeps state next own) (hown : ¬own slotIndex) :
    next.Claimed slotIndex terminal frameLen := by
  rcases h with hstopped | ⟨slot, hslot, hphase, hterminal, hlength⟩
  · exact Or.inl (keeps.stays hstopped)
  · rcases keeps.others with hstopped | hothers
    · exact Or.inl hstopped
    · exact Or.inr ⟨slot, hothers slotIndex slot hown hslot hphase, hphase, hterminal, hlength⟩

end IngressState

/-- The slot that a submission has reserved, with its receipt and its length. -/
def SubmitPhase.Claims (state : IngressState) : SubmitPhase → Prop
  | .reserved _ slotIndex terminal frameLen => state.Claimed slotIndex terminal frameLen
  | .prepared _ slotIndex terminal encoded => state.Claimed slotIndex terminal encoded.frameLen
  | _ => True

theorem SubmitPhase.Claims.keep {state next : IngressState} {own : Nat → Prop}
    {phase : SubmitPhase} (h : phase.Claims state) (keeps : Keeps state next own)
    (hown : ∀ slotIndex q, phase.owns = some (slotIndex, q) → ¬own slotIndex) :
    phase.Claims next := by
  cases phase with
  | reserved command slotIndex terminal frameLen => exact Claimed.keep h keeps (hown _ _ rfl)
  | prepared command slotIndex terminal encoded => exact Claimed.keep h keeps (hown _ _ rfl)
  | _ => trivial

namespace Runtime

def Claims (runtime : Runtime) : Prop :=
  ∀ (i : Nat) (phase : SubmitPhase), runtime.submits[i]? = some phase →
    phase.Claims runtime.shared

/-- A step of the shared state that no submission takes for itself. -/
theorem Claims.setShared {runtime : Runtime} (h : runtime.Claims) {next : IngressState}
    (keeps : Keeps runtime.shared next fun _ => False) {writer : List InFlightCommand}
    {journal : List (RetryQualification × AppendIdentity)} :
    Runtime.Claims ⟨next, runtime.submits, writer, journal⟩ :=
  fun i phase hi => (h i phase hi).keep keeps fun _ _ _ hfalse => hfalse

/-- A submission moves on; the slots of the others stay theirs. -/
theorem Claims.setSubmit {runtime : Runtime} (h : runtime.Claims) {submit : Nat}
    {phase : SubmitPhase} {next : IngressState} {own : Nat → Prop}
    (keeps : Keeps runtime.shared next own)
    (hown : ∀ (i : Nat) (other : SubmitPhase) (slotIndex : Nat) (q : RetryQualification),
      runtime.submits[i]? = some other → i ≠ submit → other.owns = some (slotIndex, q) →
        ¬own slotIndex)
    (hphase : phase.Claims next) :
    ({ runtime.setSubmit submit phase with shared := next } : Runtime).Claims := by
  intro i other hi
  simp only [Runtime.setSubmit, List.getElem?_set] at hi
  split at hi
  next =>
    split at hi
    next =>
      cases hi
      exact hphase
    next => cases hi
  next hne =>
    refine (h i other hi).keep keeps ?_
    intro slotIndex q howns
    exact hown i other slotIndex q hi (Ne.symm hne) howns

theorem Claims.setPhase {runtime : Runtime} (h : runtime.Claims) {submit : Nat}
    {phase : SubmitPhase} (hphase : phase.Claims runtime.shared) :
    (runtime.setSubmit submit phase).Claims := by
  have hkeeps : Keeps runtime.shared runtime.shared fun _ => False := Keeps.unchanged rfl id id rfl
  exact h.setSubmit hkeeps (fun _ _ _ _ _ _ _ hfalse => hfalse) hphase

/-- The bytes, the ring and the receipts agree with the slots, and each thread has its own. -/
structure Accounted (limits : ByteReservationLimits) (runtime : Runtime) : Prop where
  inv : runtime.Inv
  balanced : runtime.shared.Balanced
  claims : runtime.Claims
  limits : runtime.shared.byteLimits = limits

variable {limits : ByteReservationLimits}

theorem Accounted.reserve {runtime : Runtime} (h : runtime.Accounted limits) (submit : Nat)
    (command : IngressCommand) (measured : Except JournalV1Error Nat) :
    (runtime.reserve submit command measured).Accounted limits := by
  have hinv := h.inv.reserve submit command measured
  unfold Runtime.reserve at hinv ⊢
  split
  next result next hreserve =>
    rw [hreserve] at hinv
    obtain ⟨_, -, rfl | ⟨outcome, -, rfl⟩⟩ | ⟨_, _, -, hne, -⟩ := reserve_next hreserve
    · exact ⟨hinv, h.balanced, h.claims.setPhase trivial, h.limits⟩
    · refine ⟨hinv, h.balanced.unchanged rfl rfl rfl rfl ⟨_, rfl⟩, ?_, h.limits⟩
      have hkeeps : Keeps runtime.shared (runtime.shared.replayed outcome).2 fun _ => False :=
        Keeps.unchanged rfl id id rfl
      exact h.claims.setSubmit hkeeps (fun _ _ _ _ _ _ _ hfalse => hfalse) trivial
    · cases hne
  next slotIndex terminal frameLen next hreserve =>
    rw [hreserve] at hinv
    obtain ⟨_, hne, -⟩ | ⟨_, _, -, heq, htakes, hnext⟩ := reserve_next hreserve
    · cases hne
    · cases heq
      refine ⟨hinv, ?_, ?_, ?_⟩
      · rw [hnext]
        exact h.balanced.take htakes
      · have hkeeps : Keeps runtime.shared next fun _ => False := by
          subst hnext
          refine Keeps.turned rfl ?_ ?_ rfl
          · rintro ⟨-, hclosed, -⟩
            rw [htakes.wasOpen] at hclosed
            cases hclosed
          intro slot hslot
          exact nomatch htakes.wasFree.symm.trans hslot
        refine h.claims.setSubmit hkeeps (fun _ _ _ _ _ _ _ hfalse => hfalse) (Or.inr ?_)
        subst hnext
        refine ⟨runtime.shared.freshSlot command frameLen, ?_, rfl, rfl, rfl⟩
        unfold slot? setSlot
        simp [htakes.inRange]
      · rw [hnext]
        exact h.limits

theorem Accounted.prepare {runtime : Runtime} (h : runtime.Accounted limits) {submit : Nat}
    {command : IngressCommand} {slotIndex terminal frameLen : Nat}
    (hsubmit : runtime.submits[submit]? = some (.reserved command slotIndex terminal frameLen)) :
    (runtime.prepare submit command slotIndex terminal frameLen).Accounted limits := by
  refine ⟨h.inv.prepare hsubmit, h.balanced, h.claims.setPhase ?_, h.limits⟩
  have hclaims : runtime.shared.Claimed slotIndex terminal frameLen := h.claims submit _ hsubmit
  split
  next prepared _ =>
    split
    next hlength =>
      change runtime.shared.Claimed slotIndex terminal prepared.frameLen
      rw [hlength]
      exact hclaims
    next => trivial
  next => trivial

theorem Inv.only {runtime : Runtime} (h : runtime.Inv) {submit slotIndex : Nat}
    {phase : SubmitPhase} {q : RetryQualification}
    (hsubmit : runtime.submits[submit]? = some phase) (howns : phase.owns = some (slotIndex, q))
    (i : Nat) (other : SubmitPhase) (s : Nat) (r : RetryQualification)
    (hi : runtime.submits[i]? = some other) (hne : i ≠ submit) (hother : other.owns = some (s, r)) :
    s ≠ slotIndex := by
  rintro rfl
  exact hne (h.submitUnique i submit other phase s r q hi hsubmit hother howns)

theorem Accounted.enqueue {runtime : Runtime} (h : runtime.Accounted limits) {submit : Nat}
    {command : IngressCommand} {slotIndex terminal : Nat} {prepared : PreparedAdmissionV1}
    (hsubmit : runtime.submits[submit]? = some (.prepared command slotIndex terminal prepared)) :
    (runtime.enqueue submit command slotIndex terminal prepared).Accounted limits := by
  have hclaims : runtime.shared.Claimed slotIndex terminal prepared.frameLen :=
    h.claims submit _ hsubmit
  refine ⟨h.inv.enqueue hsubmit, h.balanced.enqueue ?_, ?_, keeps_enqueue.limits.trans h.limits⟩
  · intro slot hslot _
    rcases hclaims with hhalted | ⟨own, hown, -, -, hlength⟩
    · exact absurd hhalted (not_halted hslot)
    · rw [hown] at hslot
      cases hslot
      exact hlength.symm
  · exact h.claims.setSubmit keeps_enqueue (h.inv.only hsubmit rfl) trivial

theorem Accounted.rollback {runtime : Runtime} (h : runtime.Accounted limits) {submit : Nat}
    {command : IngressCommand} {slotIndex : Nat} {error : JournalV1Error}
    (hsubmit : runtime.submits[submit]? = some (.rollback command slotIndex error)) :
    (runtime.rollback submit command slotIndex error).Accounted limits := by
  refine ⟨h.inv.rollback hsubmit, h.balanced.rollbackPreparation ?_, ?_,
    (keeps_rollbackPreparation _ _).limits.trans h.limits⟩
  · intro slot hslot
    obtain ⟨-, hnone⟩ | ⟨own, hown, hphase, -⟩ := h.inv.submits submit _ _ _ hsubmit rfl
    · exact nomatch (hnone slotIndex).symm.trans hslot
    · rw [hown] at hslot
      cases hslot
      exact hphase
  · exact h.claims.setSubmit (keeps_rollbackPreparation _ _) (h.inv.only hsubmit rfl) trivial

/-- A step of the shared state that no submission takes for itself. -/
theorem Accounted.setShared {runtime : Runtime} (h : runtime.Accounted limits)
    {next : IngressState} {writer : List InFlightCommand}
    {journal : List (RetryQualification × AppendIdentity)}
    (hinv : Runtime.Inv ⟨next, runtime.submits, writer, journal⟩) (hbalanced : next.Balanced)
    (keeps : Keeps runtime.shared next fun _ => False) :
    Runtime.Accounted limits ⟨next, runtime.submits, writer, journal⟩ :=
  ⟨hinv, hbalanced, h.claims.setShared keeps, keeps.limits.trans h.limits⟩

theorem takeNext_shared (runtime : Runtime) :
    runtime.takeNext.shared = runtime.shared.takeNext.2 ∧
      runtime.takeNext.submits = runtime.submits := by
  unfold Runtime.takeNext
  split
  next htake => rw [htake]; exact ⟨rfl, rfl⟩
  next htake => rw [htake]; exact ⟨rfl, rfl⟩

theorem Accounted.takeNext {runtime : Runtime} (h : runtime.Accounted limits) :
    runtime.takeNext.Accounted limits := by
  have hinv := h.inv.takeNext
  obtain ⟨hshared, hsubmits⟩ := takeNext_shared runtime
  have hkeeps := keeps_takeNext runtime.shared
  refine ⟨hinv, ?_, ?_, ?_⟩
  · rw [hshared]
    exact h.balanced.takeNext
  · intro i phase hi
    rw [hsubmits] at hi
    rw [hshared]
    exact (h.claims i phase hi).keep hkeeps fun _ _ _ hfalse => hfalse
  · rw [hshared]
    exact hkeeps.limits.trans h.limits

theorem Accounted.publish {runtime : Runtime} (h : runtime.Accounted limits)
    {inFlight slotIndex : Nat} {admission : CanonicalAdmission} {append : AppendIdentity}
    (hwriter : runtime.writer[inFlight]? = some (.appended slotIndex admission append)) :
    (runtime.publish inFlight slotIndex admission append).Accounted limits := by
  have hinv := h.inv.publish hwriter
  have hkeeps := keeps_preparePublication runtime.shared slotIndex admission
  have hbalanced := h.balanced.preparePublication slotIndex admission
  unfold Runtime.publish at hinv ⊢
  split
  next hprepare =>
    rw [hprepare] at hinv hkeeps hbalanced
    exact h.setShared hinv hbalanced hkeeps
  next hprepare =>
    rw [hprepare] at hinv hkeeps hbalanced
    exact h.setShared hinv (Balanced.stopAll hbalanced.size) (hkeeps.trans (Keeps.stopAll _ rfl))

/-- Every atomic step keeps the account. -/
theorem Accounted.step {runtime next : Runtime} (h : runtime.Accounted limits)
    {event : RuntimeEvent} (hstep : runtime.step event = some next) : next.Accounted limits := by
  have hinv := h.inv.step hstep
  cases event with
  | enter command =>
    cases hstep
    refine ⟨hinv, h.balanced, ?_, h.limits⟩
    intro i phase hi
    rw [List.getElem?_append] at hi
    split at hi
    next => exact h.claims i phase hi
    next =>
      have heq := List.mem_singleton.mp (List.mem_of_getElem? hi)
      subst heq
      trivial
  | check submit =>
    simp only [Runtime.step] at hstep
    split at hstep
    next =>
      cases hstep
      unfold Runtime.check at hinv ⊢
      split at hinv
      next => exact ⟨hinv, h.balanced, h.claims.setPhase trivial, h.limits⟩
      next => exact ⟨hinv, h.balanced, h.claims.setPhase trivial, h.limits⟩
    next => cases hstep
  | measure submit =>
    simp only [Runtime.step] at hstep
    split at hstep
    next =>
      cases hstep
      exact ⟨hinv, h.balanced, h.claims.setPhase trivial, h.limits⟩
    next => cases hstep
  | reserve submit =>
    simp only [Runtime.step] at hstep
    split at hstep
    next => cases hstep; exact h.reserve _ _ _
    next => cases hstep
  | prepare submit =>
    simp only [Runtime.step] at hstep
    split at hstep
    next hsubmit => cases hstep; exact h.prepare hsubmit
    next => cases hstep
  | enqueue submit =>
    simp only [Runtime.step] at hstep
    split at hstep
    next hsubmit => cases hstep; exact h.enqueue hsubmit
    next => cases hstep
  | rollback submit =>
    simp only [Runtime.step] at hstep
    split at hstep
    next hsubmit => cases hstep; exact h.rollback hsubmit
    next => cases hstep
  | takeNext =>
    cases hstep
    exact h.takeNext
  | append inFlight identity =>
    simp only [Runtime.step] at hstep
    split at hstep
    next =>
      cases hstep
      exact ⟨hinv, h.balanced, h.claims, h.limits⟩
    next => cases hstep
  | publish inFlight =>
    simp only [Runtime.step] at hstep
    split at hstep
    next hwriter => cases hstep; exact h.publish hwriter
    next => cases hstep
  | completeHandled inFlight =>
    simp only [Runtime.step] at hstep
    split at hstep
    next =>
      cases hstep
      exact h.setShared hinv h.balanced.completeHandled keeps_completeHandled
    next => cases hstep
  | drop inFlight =>
    simp only [Runtime.step] at hstep
    split at hstep
    next =>
      cases hstep
      exact h.setShared hinv (Balanced.stopAll h.balanced.size) (Keeps.stopAll _ rfl)
    next => cases hstep
  | completeDurableBatch entries committed retry =>
    cases hstep
    exact h.setShared hinv h.balanced.completeDurableBatch keeps_completeDurableBatch
  | closeAdmission =>
    cases hstep
    exact h.setShared hinv (h.balanced.unchanged rfl rfl rfl rfl ⟨[], by simp [closeAdmission]⟩)
      (Keeps.unchanged rfl (fun _ => rfl) id rfl)
  | stop =>
    cases hstep
    exact h.setShared hinv (Balanced.stopAll h.balanced.size) (Keeps.stopAll _ rfl)

theorem Accounted.run {runtime final : Runtime} (h : runtime.Accounted limits)
    {events : List RuntimeEvent} (hrun : runtime.run events = some final) :
    final.Accounted limits := by
  induction events generalizing runtime with
  | nil =>
    cases hrun
    exact h
  | cons event rest ih =>
    simp only [Runtime.run] at hrun
    split at hrun
    next next hstep => exact ih (h.step hstep) hrun
    next => cases hrun

/-- Startup has empty slots, an empty ring and nothing reserved. -/
theorem Opened.accounted {runtime : Runtime} {retry : RetryStateSnapshot}
    (h : runtime.Opened retry) (hvalid : validateState retry = .ok ()) :
    runtime.Accounted runtime.shared.byteLimits := by
  have hinv := h.inv hvalid
  obtain ⟨shared, submits, writer, journal⟩ := runtime
  obtain ⟨storeId, byteLimits, hinstall, rfl, rfl, rfl⟩ := h
  unfold installOpenedRetry at hinstall
  split at hinstall
  next => cases hinstall
  next =>
    cases hinstall
    have hnone : ∀ i, (IngressState.new storeId byteLimits retry.options).slot? i = none := by
      intro i
      simp only [IngressState.new, IngressState.slot?, List.getElem?_replicate]
      split <;> rfl
    refine ⟨hinv, ⟨List.length_replicate, ?_, ?_, ?_, Nat.zero_le _, [], FixedQueue.lists_new,
      List.nodup_nil, ?_⟩, ?_, rfl⟩
    · intro i slot hi
      cases (hnone i).symm.trans hi
    · intro i j a b hi
      cases (hnone i).symm.trans hi
    · rfl
    · intro i
      have hi : ({ IngressState.new storeId byteLimits retry.options with
        retry := retry } : IngressState).slot? i = none := hnone i
      simp [Queued, hi]
    · intro i phase hi
      cases hi

/-- In every state that the locked sections lead to, in whatever order: the reserved bytes are
those of the occupied slots and within the configured total, the ring holds exactly the queued
slots, the frames and the receipts fit their slots, and neither the writer nor a submission meets
a slot or a ring that its section would refuse. -/
theorem ingress_account_balances {retry : RetryStateSnapshot}
    (hvalid : validateState retry = .ok ()) {start : Runtime} (hopened : start.Opened retry)
    {events : List RuntimeEvent} {runtime : Runtime} (hrun : start.run events = some runtime) :
    runtime.shared.reservedBytes = (runtime.shared.occupied.map (·.reservation)).sum ∧
    runtime.shared.reservedBytes ≤ start.shared.byteLimits.total.val ∧
    runtime.shared.occupied.length ≤ maxOutstandingCommands ∧
    (∃ items, runtime.shared.queue.Lists items ∧ items.Nodup ∧
      ∀ i, i ∈ items ↔ runtime.shared.Queued i) ∧
    (∀ slot ∈ runtime.shared.occupied, slot.phase = .queued →
      ∃ prepared, slot.prepared = some prepared ∧ prepared.frameLen = slot.reservation) ∧
    (∀ slot ∈ runtime.shared.occupied, slot.phase = .awaitingDurability →
      ∃ append, slot.append = some append ∧
        (runtime.shared.receipt slot.terminal).handled = some (.writerHandled append)) ∧
    (∀ slotIndex queue, runtime.shared.queue.pop = (some slotIndex, queue) →
      ∃ slot prepared, runtime.shared.slot? slotIndex = some slot ∧ slot.phase = .queued ∧
        slot.prepared = some prepared ∧
        runtime.shared.takeNext.1 = .work slotIndex prepared slot.priority slot.barrier) ∧
    ∀ (submit : Nat) (command : IngressCommand) (slotIndex terminal : Nat)
      (prepared : PreparedAdmissionV1),
      runtime.submits[submit]? = some (.prepared command slotIndex terminal prepared) →
      ¬runtime.shared.HasStopped → runtime.shared.queue.canPush = true ∧
        (runtime.shared.enqueue slotIndex terminal prepared command).1 =
          .ok ⟨.queued, terminal⟩ := by
  have h := (hopened.accounted hvalid).run hrun
  refine ⟨h.balanced.reserved, ?_, ?_, h.balanced.queue, ?_, ?_, ?_, ?_⟩
  · rw [← h.limits]
    exact h.balanced.bounded
  · rw [← h.balanced.size]
    exact List.length_filterMap_le _ _
  · intro slot hslot hphase
    obtain ⟨slotIndex, hslot⟩ := mem_occupied.mp hslot
    exact (h.balanced.sound slotIndex slot hslot).queued hphase
  · intro slot hslot hphase
    obtain ⟨slotIndex, hslot⟩ := mem_occupied.mp hslot
    have hwaiting := (h.balanced.sound slotIndex slot hslot).waiting.mpr hphase
    obtain ⟨append, happend⟩ := Option.isSome_iff_exists.mp hwaiting
    refine ⟨append, happend, ?_⟩
    rw [h.balanced.receipt hslot, happend]
    rfl
  · intro slotIndex queue hpop
    obtain ⟨slot, prepared, _, hslot, hphase, hprepared, -⟩ := h.balanced.pop hpop
    refine ⟨slot, prepared, hslot, hphase, hprepared, ?_⟩
    have hsame : ({ runtime.shared with queue := queue } : IngressState).slot? slotIndex =
      some slot := hslot
    simp [IngressState.takeNext, hpop, hsame, hphase, hprepared]
  · intro submit command slotIndex terminal prepared hsubmit hlive
    have hclaims : runtime.shared.Claimed slotIndex terminal prepared.frameLen :=
      h.claims submit _ hsubmit
    obtain hhalted | ⟨slot, hslot, hphase, -, -⟩ := hclaims
    · exact absurd hhalted.1 hlive
    · have hroom := h.balanced.canPush hslot (by simp [hphase])
      refine ⟨hroom, ?_⟩
      simp [IngressState.enqueue, hslot, hphase, hroom]

/-- A protected command up to its publication, a normal one up to the queue and a bulk one that
has just reserved. -/
def sampleClassesHeld : List RuntimeEvent :=
  [.enter (keyedCommand 'a' firstKey_printable .protectedClass), .check 0, .measure 0, .reserve 0,
    .enter (keyedCommand 'b' secondKey_printable .normal), .check 1, .measure 1, .reserve 1,
    .enter (keyedCommand 'c' thirdKey_printable .bulk), .check 2, .measure 2, .reserve 2,
    .prepare 0, .enqueue 0, .takeNext, .append 0 ⟨⟨sampleIdentity 1, 1⟩, 1, 841⟩, .publish 0,
    .completeHandled 0, .prepare 1, .enqueue 1]

/-- Slots of every class hold their bytes, each in another phase. -/
theorem ingress_account_balances_sample :
    ∃ runtime, sampleStart.run sampleClassesHeld = some runtime ∧
      runtime.shared.occupied.map (fun slot => (slot.priority, slot.phase)) =
        [(.protectedClass, .awaitingDurability), (.normal, .queued), (.bulk, .preparing)] ∧
      runtime.shared.reservedBytes = 3 * 813 ∧
      runtime.shared.reservedBytes = (runtime.shared.occupied.map (·.reservation)).sum := by
  have hopened : sampleStart.Opened sampleRetryState :=
    ⟨sampleIdentity 1, sampleByteLimits, rfl, rfl, rfl, rfl⟩
  have hreached : (sampleStart.run sampleClassesHeld).any (fun runtime =>
      decide (runtime.shared.occupied.map (fun slot => (slot.priority, slot.phase)) =
        [(.protectedClass, .awaitingDurability), (.normal, .queued), (.bulk, .preparing)] ∧
        runtime.shared.reservedBytes = 3 * 813)) = true := by
    decide +kernel
  obtain ⟨runtime, hrun, hreached⟩ := (Option.any_eq_true _ _).mp hreached
  obtain ⟨hslots, hbytes⟩ := of_decide_eq_true hreached
  exact ⟨runtime, hrun, hslots, hbytes, (ingress_account_balances rfl hopened hrun).1⟩

end Runtime

end Historian
