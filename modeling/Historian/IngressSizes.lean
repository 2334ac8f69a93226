import Historian.IngressClaims

namespace Historian

open Checks IngressState

/-- What holds of an encoded command that a submission was promised a place for. -/
structure PreparedAdmissionV1.Accepted (storeId : StoreId) (limits : ByteReservationLimits)
    (prepared : PreparedAdmissionV1) : Prop where
  built : prepared.admission.Built
  store : prepared.admission.storeId = storeId
  encoded : PreparedAdmissionV1.new prepared.admission = .ok prepared
  bytes : prepared.frameLen ≤ limits.total.val

/-- The measure of an encoded command is the length of its frame. -/
theorem PreparedAdmissionV1.new_measured {admission : CanonicalAdmission}
    {prepared : PreparedAdmissionV1} (h : PreparedAdmissionV1.new admission = .ok prepared) :
    admissionFrameLenV1 admission = .ok prepared.frameLen ∧
      prepared.frameLen =
        journalV1FramePrefixLen + prepared.payload.length + journalV1FrameCrcLen := by
  unfold PreparedAdmissionV1.new at h
  split at h
  next => cases h
  next frameLen hmeasure =>
    split at h
    next => cases h
    next =>
      split at h
      next hlen =>
        cases h
        exact ⟨hmeasure, hlen.symm⟩
      next => cases h

/-- What a submission has established about the size of its command. -/
def SubmitPhase.Sized (storeId : StoreId) (limits : ByteReservationLimits) : SubmitPhase → Prop
  | .entered command => command.admission.Built
  | .admitted command => command.admission.Built
  | .measured command length =>
    command.admission.Built ∧ length = admissionFrameLenV1 command.admission
  | .reserved command _ _ frameLen =>
    command.admission.Built ∧ command.admission.storeId = storeId ∧
      frameLen ≤ limits.total.val
  | .prepared _ _ _ encoded => encoded.Accepted storeId limits
  | _ => True

namespace IngressState

/-- No section changes the store or the limits that the runtime was opened with. -/
def SameScope (state next : IngressState) : Prop :=
  next.storeId = state.storeId ∧ next.byteLimits = state.byteLimits

theorem SameScope.stopAll (state : IngressState) : SameScope state state.stopAll := ⟨rfl, rfl⟩

theorem sameScope_enqueue (state : IngressState) (slotIndex terminal : Nat)
    (prepared : PreparedAdmissionV1) (command : IngressCommand) :
    SameScope state (state.enqueue slotIndex terminal prepared command).2 := by
  unfold enqueue
  split
  next =>
    split
    next => exact ⟨rfl, rfl⟩
    next => exact SameScope.stopAll state
  next => exact SameScope.stopAll state

theorem sameScope_rollbackPreparation (state : IngressState) (slotIndex : Nat) :
    SameScope state (state.rollbackPreparation slotIndex) := by
  unfold rollbackPreparation
  split
  next => exact ⟨rfl, rfl⟩
  next => exact ⟨rfl, rfl⟩

theorem sameScope_takeNext (state : IngressState) : SameScope state state.takeNext.2 := by
  unfold takeNext
  split
  next =>
    dsimp only
    split
    next => exact ⟨rfl, rfl⟩
    next =>
      split
      next => exact ⟨rfl, rfl⟩
      next =>
        split
        next => exact ⟨rfl, rfl⟩
        next => exact ⟨rfl, rfl⟩
  next =>
    dsimp only
    split
    next => exact ⟨rfl, rfl⟩
    next =>
      split
      next => exact ⟨rfl, rfl⟩
      next => exact ⟨rfl, rfl⟩

theorem sameScope_preparePublication (state : IngressState) (slotIndex : Nat)
    (admission : CanonicalAdmission) :
    SameScope state (state.preparePublication slotIndex admission).2 := by
  unfold preparePublication
  split
  next =>
    split
    next =>
      split
      next => exact ⟨rfl, rfl⟩
      next => exact ⟨rfl, rfl⟩
    next => exact ⟨rfl, rfl⟩
  next => exact ⟨rfl, rfl⟩

theorem sameScope_completeHandled (state : IngressState) (slotIndex : Nat)
    (admission : CanonicalAdmission) (append : AppendIdentity)
    (preparation : PreparedPublication) :
    SameScope state (state.completeHandled slotIndex admission append preparation).2 := by
  unfold completeHandled
  split
  next => exact SameScope.stopAll state
  next =>
    split
    next => exact SameScope.stopAll state
    next =>
      dsimp only
      split
      next => exact ⟨rfl, rfl⟩
      next => exact ⟨rfl, rfl⟩

theorem sameScope_finishBatch (committed : ManifestCommit) (entries : List DurableBatchEntry)
    (state : IngressState) : SameScope state (finishBatch committed state entries).2 := by
  induction entries generalizing state with
  | nil => exact ⟨rfl, rfl⟩
  | cons entry rest ih =>
    unfold finishBatch
    split
    next => exact SameScope.stopAll state
    next =>
      dsimp only
      split
      next => exact ih _
      next => exact ⟨rfl, rfl⟩

theorem sameScope_completeDurableBatch (state : IngressState) (entries : List DurableBatchEntry)
    (committed : ManifestCommit) (retry : RetryStateSnapshot) :
    SameScope state (state.completeDurableBatch entries committed retry).2 := by
  unfold completeDurableBatch
  split
  next => exact SameScope.stopAll state
  next =>
    split
    next => exact SameScope.stopAll state
    next =>
      split
      next => exact SameScope.stopAll state
      next => exact sameScope_finishBatch committed entries { state with retry := retry }

/-- Every encoded command in a slot satisfies `P`. -/
def Carries (P : PreparedAdmissionV1 → Prop) (state : IngressState) : Prop :=
  ∀ slotIndex slot prepared, state.slot? slotIndex = some slot →
    slot.prepared = some prepared → P prepared

variable {P : PreparedAdmissionV1 → Prop}

theorem Carries.of_slots {state next : IngressState} (h : state.Carries P)
    (hslots : next.slots = state.slots) : next.Carries P := by
  intro i slot prepared hslot
  unfold IngressState.slot? at hslot
  rw [hslots] at hslot
  exact h i slot prepared hslot

theorem Carries.stopped {state : IngressState} (h : state.Stopped) : state.Carries P := by
  intro i slot prepared hslot
  exact nomatch (h.2 i).symm.trans hslot

theorem Carries.rewrites {state next : IngressState} {slotIndex : Nat} {old : Slot}
    {new : Option Slot} (h : state.Carries P) (hnext : state.Rewrites next slotIndex old new)
    (hnew : ∀ slot ∈ new, ∀ prepared, slot.prepared = some prepared → P prepared) :
    next.Carries P := by
  intro i slot prepared hslot hprepared
  rw [hnext.slot?] at hslot
  split at hslot
  next => exact hnew slot hslot prepared hprepared
  next => exact h i slot prepared hslot hprepared

theorem Carries.reserves {state next : IngressState} {command : IngressCommand} {slotIndex : Nat}
    (h : state.Carries P) (hnext : state.Reserves next command slotIndex) : next.Carries P := by
  obtain ⟨slot, -, -, hnone, hslots⟩ := hnext.slot?
  intro i other prepared hother hprepared
  rw [hslots] at hother
  split at hother
  next =>
    cases hother
    rw [hnone] at hprepared
    cases hprepared
  next => exact h i other prepared hother hprepared

theorem Carries.commits {state next : IngressState} {entries : List DurableBatchEntry}
    (h : state.Carries P) (hnext : state.Commits next entries) : next.Carries P := by
  intro i slot prepared hslot
  exact h i slot prepared (hnext.remaining hslot).2

end IngressState

namespace Runtime

/-- Every command on its way to the writer was accepted within the limits of the runtime. -/
structure Sized (storeId : StoreId) (limits : ByteReservationLimits) (runtime : Runtime) :
    Prop where
  scope : runtime.shared.storeId = storeId ∧ runtime.shared.byteLimits = limits
  submits : ∀ phase ∈ runtime.submits, phase.Sized storeId limits
  slots : runtime.shared.Carries (PreparedAdmissionV1.Accepted storeId limits)
  writer : ∀ slot prepared, InFlightCommand.taken slot prepared ∈ runtime.writer →
    prepared.Accepted storeId limits

variable {storeId : StoreId} {limits : ByteReservationLimits}

theorem Sized.setSubmit {runtime next : Runtime} (h : runtime.Sized storeId limits) {submit : Nat}
    {phase : SubmitPhase} (hsubmits : next.submits = runtime.submits.set submit phase)
    (hphase : phase.Sized storeId limits) (hscope : SameScope runtime.shared next.shared)
    (hslots : next.shared.Carries (PreparedAdmissionV1.Accepted storeId limits))
    (hwriter : next.writer = runtime.writer) : next.Sized storeId limits where
  scope := ⟨hscope.1.trans h.scope.1, hscope.2.trans h.scope.2⟩
  submits := by
    intro other hother
    rw [hsubmits] at hother
    obtain hother | rfl := List.mem_or_eq_of_mem_set hother
    · exact h.submits other hother
    · exact hphase
  slots := hslots
  writer := by
    rw [hwriter]
    exact h.writer

/-- A step that leaves the submissions alone and gives the writer no encoded command. -/
theorem Sized.setShared {runtime next : Runtime} (h : runtime.Sized storeId limits)
    (hsubmits : next.submits = runtime.submits) (hscope : SameScope runtime.shared next.shared)
    (hslots : next.shared.Carries (PreparedAdmissionV1.Accepted storeId limits))
    (hwriter : ∀ slot prepared, InFlightCommand.taken slot prepared ∈ next.writer →
      InFlightCommand.taken slot prepared ∈ runtime.writer) : next.Sized storeId limits where
  scope := ⟨hscope.1.trans h.scope.1, hscope.2.trans h.scope.2⟩
  submits := by
    rw [hsubmits]
    exact h.submits
  slots := hslots
  writer := fun slot prepared hmem => h.writer slot prepared (hwriter slot prepared hmem)

theorem Sized.check {runtime : Runtime} (h : runtime.Sized storeId limits) (submit : Nat)
    {command : IngressCommand} (hbuilt : command.admission.Built) :
    (runtime.check submit command).Sized storeId limits := by
  unfold Runtime.check
  split
  next => exact h.setSubmit rfl trivial ⟨rfl, rfl⟩ h.slots rfl
  next => exact h.setSubmit rfl hbuilt ⟨rfl, rfl⟩ h.slots rfl

/-- A slot is reserved only for an admission of this store. -/
theorem reserve_store {state next : IngressState} {command : IngressCommand}
    {measured : Except JournalV1Error Nat} {slotIndex terminal frameLen : Nat}
    (h : state.reserve command measured = (.reserved slotIndex terminal frameLen, next)) :
    command.admission.storeId = state.storeId := by
  unfold IngressState.reserve at h
  split at h
  next => cases h
  next hrefusal =>
    unfold refusal at hrefusal
    split at hrefusal
    next => cases hrefusal
    next =>
      split at hrefusal
      next => cases hrefusal
      next hstore => exact not_not.mp hstore

theorem Sized.reserve {runtime : Runtime} (h : runtime.Sized storeId limits) (submit : Nat)
    {command : IngressCommand} {measured : Except JournalV1Error Nat}
    (hbuilt : command.admission.Built) :
    (runtime.reserve submit command measured).Sized storeId limits := by
  unfold Runtime.reserve
  split
  next result next hreserve =>
    obtain ⟨_, -, rfl | ⟨_, -, rfl⟩⟩ | ⟨_, _, -, hne, -⟩ := reserve_next hreserve
    · exact h.setSubmit rfl trivial ⟨rfl, rfl⟩ h.slots rfl
    · exact h.setSubmit rfl trivial ⟨rfl, rfl⟩ (h.slots.of_slots rfl) rfl
    · cases hne
  next slotIndex terminal frameLen next hreserve =>
    have hstore := reserve_store hreserve
    obtain ⟨_, hne, -⟩ | ⟨_, _, _, -, hreserves⟩ := reserve_cases hreserve
    · cases hne
    obtain ⟨_, hne, -⟩ | ⟨_, _, -, heq, htakes, rfl⟩ := reserve_next hreserve
    · cases hne
    cases heq
    have hroom : runtime.shared.reservedBytes + frameLen ≤
        runtime.shared.byteLimits.classCeiling command.priority := of_decide_eq_true htakes.room
    have hceiling := classCeiling_le runtime.shared.byteLimits command.priority
    rw [h.scope.2] at hroom hceiling
    exact h.setSubmit rfl ⟨hbuilt, hstore.trans h.scope.1, by omega⟩ ⟨rfl, rfl⟩
      (h.slots.reserves hreserves) rfl

theorem Sized.prepare {runtime : Runtime} (h : runtime.Sized storeId limits) (submit : Nat)
    {command : IngressCommand} {slotIndex terminal frameLen : Nat}
    (hbuilt : command.admission.Built) (hstore : command.admission.storeId = storeId)
    (hlen : frameLen ≤ limits.total.val) :
    (runtime.prepare submit command slotIndex terminal frameLen).Sized storeId limits := by
  refine h.setSubmit rfl ?_ ⟨rfl, rfl⟩ h.slots rfl
  split
  next prepared hprepared =>
    split
    next hsame =>
      have hadmission := PreparedAdmissionV1.new_admission hprepared
      refine ⟨hadmission ▸ hbuilt, hadmission ▸ hstore, ?_, by omega⟩
      rw [hadmission]
      exact hprepared
    next => trivial
  next => trivial

theorem Sized.enqueue {runtime : Runtime} (h : runtime.Sized storeId limits) (submit : Nat)
    {command : IngressCommand} {slotIndex terminal : Nat} {prepared : PreparedAdmissionV1}
    (haccepted : prepared.Accepted storeId limits) :
    (runtime.enqueue submit command slotIndex terminal prepared).Sized storeId limits := by
  refine h.setSubmit rfl trivial (sameScope_enqueue _ _ _ _ _) ?_ rfl
  change ((runtime.shared.enqueue slotIndex terminal prepared command).2).Carries _
  generalize henqueue : runtime.shared.enqueue slotIndex terminal prepared command = answer
  obtain ⟨result, next⟩ := answer
  obtain rfl | ⟨slot, -, hrewrites⟩ := enqueue_cases henqueue
  · exact Carries.stopped (stopped_stopAll _)
  · refine h.slots.rewrites hrewrites ?_
    intro new hnew other hother
    cases hnew
    cases hother
    exact haccepted

theorem Sized.rollback {runtime : Runtime} (h : runtime.Sized storeId limits) (submit : Nat)
    (command : IngressCommand) (slotIndex : Nat) (error : JournalV1Error) :
    (runtime.rollback submit command slotIndex error).Sized storeId limits := by
  refine h.setSubmit rfl trivial (sameScope_rollbackPreparation _ _) ?_ rfl
  change (runtime.shared.rollbackPreparation slotIndex).Carries _
  obtain ⟨-, hsame⟩ | ⟨slot, hrewrites⟩ := rollbackPreparation_cases runtime.shared slotIndex
  · rw [hsame]
    exact h.slots
  · exact h.slots.rewrites hrewrites (by simp)

theorem Sized.takeNext {runtime : Runtime} (h : runtime.Sized storeId limits) :
    runtime.takeNext.Sized storeId limits := by
  have hscope := sameScope_takeNext runtime.shared
  unfold Runtime.takeNext
  split
  next slotIndex prepared priority barrier next htake =>
    rw [htake] at hscope
    obtain ⟨_, _, slot, heq, -, hslot, hrewrites⟩ | ⟨hne, -⟩ := takeNext_cases htake
    · cases heq
      refine ⟨⟨hscope.1.trans h.scope.1, hscope.2.trans h.scope.2⟩, h.submits, ?_, ?_⟩
      · exact h.slots.rewrites hrewrites (by simp)
      · intro other encoded hmem
        rw [List.mem_append, List.mem_singleton] at hmem
        obtain hmem | hmem := hmem
        · exact h.writer other encoded hmem
        · cases hmem
          exact h.slots slotIndex slot prepared hrewrites.held hslot
    · exact absurd rfl (hne slotIndex prepared priority barrier)
  next work next hother htake =>
    rw [htake] at hscope
    refine h.setShared rfl hscope ?_ fun _ _ hmem => hmem
    obtain ⟨_, _, _, heq, -⟩ | ⟨-, hslots, -⟩ := takeNext_cases htake
    · exact absurd heq (by simpa using hother _ _ _ _)
    · exact h.slots.of_slots hslots

theorem Sized.drop {runtime : Runtime} (h : runtime.Sized storeId limits) (inFlight : Nat) :
    (runtime.drop inFlight).Sized storeId limits :=
  h.setShared rfl (SameScope.stopAll _) (Carries.stopped (stopped_stopAll _))
    fun _ _ hmem => List.mem_of_mem_eraseIdx hmem

theorem mem_set_of_ne {writer : List InFlightCommand} {inFlight : Nat} {new f : InFlightCommand}
    (hmem : f ∈ writer.set inFlight new) (hne : f ≠ new) : f ∈ writer := by
  obtain hmem | heq := List.mem_or_eq_of_mem_set hmem
  · exact hmem
  · exact absurd heq hne

theorem Sized.publish {runtime : Runtime} (h : runtime.Sized storeId limits)
    (inFlight slotIndex : Nat) (admission : CanonicalAdmission) (append : AppendIdentity) :
    (runtime.publish inFlight slotIndex admission append).Sized storeId limits := by
  have hscope := sameScope_preparePublication runtime.shared slotIndex admission
  unfold Runtime.publish
  split
  next preparation next hprepare =>
    rw [hprepare] at hscope
    refine h.setShared rfl hscope (h.slots.of_slots (preparePublication_cases hprepare).1) ?_
    intro slot prepared hmem
    exact mem_set_of_ne hmem (by simp)
  next next hprepare =>
    rw [hprepare] at hscope
    have hshared : ({ runtime with shared := next } : Runtime).Sized storeId limits :=
      h.setShared rfl hscope (h.slots.of_slots (preparePublication_cases hprepare).1)
        fun _ _ hmem => hmem
    exact hshared.drop inFlight

theorem Carries.completeHandled {state : IngressState} {P : PreparedAdmissionV1 → Prop}
    (h : state.Carries P) (slotIndex : Nat) (admission : CanonicalAdmission)
    (append : AppendIdentity) (preparation : PreparedPublication) :
    (state.completeHandled slotIndex admission append preparation).2.Carries P := by
  generalize hcomplete : state.completeHandled slotIndex admission append preparation = answer
  obtain ⟨completed, next⟩ := answer
  obtain ⟨hstopped, -⟩ | ⟨slot, -, hrewrites⟩ := completeHandled_cases hcomplete
  · exact Carries.stopped hstopped
  · refine h.rewrites hrewrites ?_
    intro new hnew prepared hprepared
    cases hnew
    exact h slotIndex slot prepared hrewrites.held hprepared

theorem Carries.completeDurableBatch {state : IngressState} {P : PreparedAdmissionV1 → Prop}
    (h : state.Carries P) (entries : List DurableBatchEntry) (committed : ManifestCommit)
    (retry : RetryStateSnapshot) :
    (state.completeDurableBatch entries committed retry).2.Carries P := by
  generalize hcomplete : state.completeDurableBatch entries committed retry = answer
  obtain ⟨completed, next⟩ := answer
  obtain ⟨hstopped, -⟩ | hcommits := completeDurableBatch_cases hcomplete
  · exact Carries.stopped hstopped
  · exact h.commits hcommits

theorem Sized.step {runtime next : Runtime} (h : runtime.Sized storeId limits)
    (event : RuntimeEvent) (hevent : event.Lawful) (hstep : runtime.step event = some next) :
    next.Sized storeId limits := by
  have hmem : ∀ {i : Nat} {phase : SubmitPhase}, runtime.submits[i]? = some phase →
      phase.Sized storeId limits := fun hi => h.submits _ (List.mem_of_getElem? hi)
  cases event with
  | enter command =>
    cases hstep
    refine ⟨h.scope, ?_, h.slots, h.writer⟩
    intro phase hphase
    rw [List.mem_append, List.mem_singleton] at hphase
    obtain hphase | rfl := hphase
    · exact h.submits phase hphase
    · exact hevent
  | check submit =>
    simp only [Runtime.step] at hstep
    split at hstep
    next hsubmit => cases hstep; exact h.check submit (hmem hsubmit)
    next => cases hstep
  | measure submit =>
    simp only [Runtime.step] at hstep
    split at hstep
    next hsubmit =>
      cases hstep
      exact h.setSubmit rfl ⟨hmem hsubmit, rfl⟩ ⟨rfl, rfl⟩ h.slots rfl
    next => cases hstep
  | reserve submit =>
    simp only [Runtime.step] at hstep
    split at hstep
    next hsubmit => cases hstep; exact h.reserve submit (hmem hsubmit).1
    next => cases hstep
  | prepare submit =>
    simp only [Runtime.step] at hstep
    split at hstep
    next hsubmit =>
      cases hstep
      obtain ⟨hbuilt, hstore, hlen⟩ := hmem hsubmit
      exact h.prepare submit hbuilt hstore hlen
    next => cases hstep
  | enqueue submit =>
    simp only [Runtime.step] at hstep
    split at hstep
    next hsubmit => cases hstep; exact h.enqueue submit (hmem hsubmit)
    next => cases hstep
  | rollback submit =>
    simp only [Runtime.step] at hstep
    split at hstep
    next => cases hstep; exact h.rollback submit _ _ _
    next => cases hstep
  | takeNext =>
    cases hstep
    exact h.takeNext
  | append inFlight identity =>
    simp only [Runtime.step] at hstep
    split at hstep
    next =>
      cases hstep
      exact h.setShared rfl ⟨rfl, rfl⟩ h.slots fun _ _ hmem => mem_set_of_ne hmem (by simp)
    next => cases hstep
  | publish inFlight =>
    simp only [Runtime.step] at hstep
    split at hstep
    next => cases hstep; exact h.publish _ _ _ _
    next => cases hstep
  | completeHandled inFlight =>
    simp only [Runtime.step] at hstep
    split at hstep
    next =>
      cases hstep
      exact h.setShared rfl (sameScope_completeHandled _ _ _ _ _)
        (Carries.completeHandled h.slots _ _ _ _) fun _ _ hmem => List.mem_of_mem_eraseIdx hmem
    next => cases hstep
  | drop inFlight =>
    simp only [Runtime.step] at hstep
    split at hstep
    next => cases hstep; exact h.drop inFlight
    next => cases hstep
  | completeDurableBatch entries committed retry =>
    cases hstep
    exact h.setShared rfl (sameScope_completeDurableBatch _ _ _ _)
      (Carries.completeDurableBatch h.slots _ _ _) fun _ _ hmem => hmem
  | closeAdmission =>
    cases hstep
    exact h.setShared rfl ⟨rfl, rfl⟩ (h.slots.of_slots rfl) fun _ _ hmem => hmem
  | stop =>
    cases hstep
    exact h.setShared rfl (SameScope.stopAll _) (Carries.stopped (stopped_stopAll _))
      fun _ _ hmem => hmem

theorem Sized.run {runtime final : Runtime} (h : runtime.Sized storeId limits)
    {events : List RuntimeEvent} (hevents : ∀ event ∈ events, event.Lawful)
    (hrun : runtime.run events = some final) : final.Sized storeId limits := by
  induction events generalizing runtime with
  | nil =>
    cases hrun
    exact h
  | cons event rest ih =>
    simp only [Runtime.run] at hrun
    split at hrun
    next next hstep =>
      exact ih (h.step event (hevents event List.mem_cons_self) hstep)
        (fun other hother => hevents other (List.mem_cons_of_mem event hother)) hrun
    next => cases hrun

end Runtime

end Historian
