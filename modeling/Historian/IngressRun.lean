import Historian.IngressInvariant

namespace Historian

open Checks IngressState

namespace Runtime

theorem Inv.check {runtime : Runtime} (h : runtime.Inv) (submit : Nat) (command : IngressCommand) :
    (runtime.check submit command).Inv := by
  unfold Runtime.check
  split
  next => exact h.setSubmitFree rfl trivial
  next => exact h.setSubmitFree rfl trivial

theorem Inv.reserve {runtime : Runtime} (h : runtime.Inv) (submit : Nat)
    (command : IngressCommand) (measured : Except JournalV1Error Nat) :
    (runtime.reserve submit command measured).Inv := by
  unfold Runtime.reserve
  split
  next result next hreserve =>
    obtain ⟨_, -, hslots, hretry, hclosed⟩ | ⟨_, _, _, hne, -⟩ := reserve_cases hreserve
    · have hshared := h.setUnchanged hslots hretry fun hc => hclosed.trans hc
      exact hshared.setSubmitFree rfl trivial
    · cases hne
  next slotIndex terminal frameLen next hreserve =>
    obtain ⟨_, hne, -⟩ | ⟨_, _, _, heq, hreserves⟩ := reserve_cases hreserve
    · cases hne
    cases heq
    -- nobody can own the slot that was free
    have hfree : ∀ q phase, ¬runtime.shared.Stopped → ¬runtime.shared.Owned slotIndex q phase := by
      rintro q phase hlive (hstopped | ⟨slot, hslot, -⟩)
      · exact hlive hstopped
      · rw [hreserves.wasFree] at hslot
        cases hslot
    have hlive : ¬runtime.shared.Stopped := by
      rintro ⟨hclosed, -⟩
      rw [hreserves.wasOpen] at hclosed
      cases hclosed
    have hshared : ({ runtime with shared := next } : Runtime).Inv := by
      apply h.setShared (h.keys.reserves hreserves) (h.matched.reserves hreserves) hreserves.frame
      · rintro - i phase slot q hi howns rfl
        exact hfree q _ hlive (h.submits i phase slot q hi howns)
      · rintro - k f hk hslot
        have howned := h.writer k f hk
        rw [hslot] at howned
        exact hfree _ _ hlive howned
      · rw [hreserves.retry]
        exact h.taken
    refine hshared.setSubmit ?_ ?_ trivial
    · rintro slot q ⟨⟩
      exact hreserves.owned
    · rintro slot q ⟨⟩ j b r hj hb
      exact absurd (h.submits j b slotIndex r hj hb) (hfree r _ hlive)

theorem Inv.prepare {runtime : Runtime} (h : runtime.Inv) {submit : Nat}
    {command : IngressCommand} {slotIndex terminal frameLen : Nat}
    (hsubmit : runtime.submits[submit]? = some (.reserved command slotIndex terminal frameLen)) :
    (runtime.prepare submit command slotIndex terminal frameLen).Inv := by
  -- whatever the encoding says, the submission keeps its slot and its qualification
  have hkeep : ∀ phase : SubmitPhase, phase.owns = some (slotIndex, command.admission.retry) →
      phase.Encoded → (runtime.setSubmit submit phase).Inv := by
    intro phase howns hencoded
    refine h.setSubmit ?_ ?_ hencoded
    · intro slot q hq
      cases howns.symm.trans hq
      exact h.submits submit _ _ _ hsubmit rfl
    · intro slot q hq j b r hj hb
      cases howns.symm.trans hq
      exact h.submitUnique j submit b _ _ r _ hj hsubmit hb rfl
  unfold Runtime.prepare
  split
  next prepared hprepared =>
    split
    next => exact hkeep _ rfl (PreparedAdmissionV1.new_admission hprepared)
    next => exact hkeep _ rfl trivial
  next => exact hkeep _ rfl trivial

/-- Other submissions do not own the slot that this one owns. -/
theorem Inv.others_free {runtime : Runtime} (h : runtime.Inv) {submit slotIndex : Nat}
    {phase done : SubmitPhase} {q : RetryQualification}
    (hsubmit : runtime.submits[submit]? = some phase) (howns : phase.owns = some (slotIndex, q))
    (hdone : done.owns = none) {i : Nat} {other : SubmitPhase} {slot : Nat}
    {r : RetryQualification} (hi : (runtime.setSubmit submit done).submits[i]? = some other)
    (hother : other.owns = some (slot, r)) : slot ≠ slotIndex := by
  rintro rfl
  simp only [Runtime.setSubmit, List.getElem?_set] at hi
  split at hi
  next =>
    split at hi
    next =>
      cases hi
      rw [hdone] at hother
      cases hother
    next => cases hi
  next hne => exact hne (h.submitUnique submit i phase other slot q r hsubmit hi howns hother)

/-- The slot of a submission is rewritten or given up while the submission ends. -/
theorem Inv.finishSubmit {runtime : Runtime} (h : runtime.Inv) {submit slotIndex : Nat}
    {phase : SubmitPhase} {q : RetryQualification} {result : SubmitResult}
    (hsubmit : runtime.submits[submit]? = some phase) (howns : phase.owns = some (slotIndex, q))
    {next : IngressState} {slot : Slot} {new : Option Slot}
    (hrewrites : runtime.shared.Rewrites next slotIndex slot new)
    (hmatched : next.PreparedMatches) :
    ({ runtime.setSubmit submit (.finished result) with shared := next } : Runtime).Inv := by
  have hfinished : (runtime.setSubmit submit (.finished result)).Inv := h.setSubmitFree rfl trivial
  have hlive : ¬runtime.shared.Stopped := by
    rintro ⟨-, hnone⟩
    have hheld := hrewrites.held
    rw [hnone slotIndex] at hheld
    cases hheld
  refine Inv.setShared hfinished (h.keys.rewrites hrewrites) hmatched hrewrites.frame ?_ ?_ ?_
  · intro _ i other s r hi hother
    exact h.others_free hsubmit howns rfl hi hother
  · intro _ k f hk
    exact (h.writer k f hk).ne (h.submits submit phase slotIndex q hsubmit howns) (by decide) hlive
  · rw [hrewrites.retry]
    exact h.taken

theorem Inv.enqueue {runtime : Runtime} (h : runtime.Inv) {submit : Nat}
    {command : IngressCommand} {slotIndex terminal : Nat} {prepared : PreparedAdmissionV1}
    (hsubmit : runtime.submits[submit]? = some (.prepared command slotIndex terminal prepared)) :
    (runtime.enqueue submit command slotIndex terminal prepared).Inv := by
  have hfinished : ∀ result, (runtime.setSubmit submit (.finished result)).Inv :=
    fun result => h.setSubmitFree rfl trivial
  unfold Runtime.enqueue
  cases henqueue : runtime.shared.enqueue slotIndex terminal prepared command with
  | mk result next =>
    obtain rfl | ⟨slot, -, hrewrites⟩ := enqueue_cases henqueue
    · exact (hfinished result).setStopped (stopped_stopAll _) rfl
    · refine h.finishSubmit hsubmit rfl hrewrites (h.matched.rewrites hrewrites ?_)
      intro new hnew p hp
      cases hnew
      cases hp
      -- the slot still belongs to this submission, and the encoding is of its command
      have hencoded : prepared.admission = command.admission := h.encoded submit _ hsubmit
      obtain ⟨-, hnone⟩ | ⟨own, hown, -, hq⟩ := h.submits submit _ _ _ hsubmit rfl
      · have hheld := hrewrites.held
        rw [hnone slotIndex] at hheld
        cases hheld
      · rw [hrewrites.held] at hown
        cases hown
        rw [hencoded]
        exact hq.symm

theorem Inv.rollback {runtime : Runtime} (h : runtime.Inv) {submit : Nat}
    {command : IngressCommand} {slotIndex : Nat} {error : JournalV1Error}
    (hsubmit : runtime.submits[submit]? = some (.rollback command slotIndex error)) :
    (runtime.rollback submit command slotIndex error).Inv := by
  unfold Runtime.rollback
  obtain ⟨-, heq⟩ | ⟨slot, hrewrites⟩ := rollbackPreparation_cases runtime.shared slotIndex
  · rw [heq]
    exact h.setSubmitFree rfl trivial
  · refine h.finishSubmit hsubmit rfl hrewrites (h.matched.rewrites hrewrites ?_)
    intro new hnew
    cases hnew

theorem Inv.takeNext {runtime : Runtime} (h : runtime.Inv) : runtime.takeNext.Inv := by
  unfold Runtime.takeNext
  split
  next slotIndex prepared priority barrier next htake =>
    obtain ⟨_, _, slot, hwork, hphase, hprepared, hrewrites⟩ | ⟨hne, -⟩ := takeNext_cases htake
    · cases hwork
      obtain ⟨hsubmits, hwriter⟩ := h.not_owned hrewrites.held
      have hmatched := h.matched slotIndex slot prepared hrewrites.held hprepared
      have hshared : ({ runtime with shared := next } : Runtime).Inv := by
        apply h.setShared (h.keys.rewrites hrewrites) _ hrewrites.frame
        · intro _ i phase s q hi howns
          exact hsubmits (by simp [hphase]) i phase s q hi howns
        · intro _ k f hk
          exact hwriter (by simp [hphase]) k f hk
        · rw [hrewrites.retry]
          exact h.taken
        · refine h.matched.rewrites hrewrites ?_
          intro new hnew p hp
          cases hnew
          cases hp
      refine hshared.pushWriter ?_ ?_ ?_
      · refine Or.inr ⟨_, (hrewrites.slot? slotIndex).trans (if_pos rfl), rfl, ?_⟩
        exact hmatched.symm
      · intro k f hk
        exact hwriter (by simp [hphase]) k f hk
      · intro q hq
        change q ∈ next.retry.retained at hq
        rw [hrewrites.retry] at hq
        have hkey := h.keys.retained slotIndex slot hrewrites.held q hq
        rwa [← hmatched] at hkey
    · exact absurd rfl (hne slotIndex prepared priority barrier)
  next work next hnone htake =>
    obtain ⟨_, _, _, hwork, -⟩ | ⟨-, hslots, hretry, hclosed⟩ := takeNext_cases htake
    · exact (hnone _ _ _ _ hwork).elim
    · exact h.setUnchanged hslots hretry fun hc => hclosed.trans hc

theorem Inv.stopAll {runtime : Runtime} (h : runtime.Inv) :
    ({ runtime with shared := runtime.shared.stopAll } : Runtime).Inv :=
  h.setStopped (stopped_stopAll _) rfl

theorem Inv.drop {runtime : Runtime} (h : runtime.Inv) (inFlight : Nat) :
    (runtime.drop inFlight).Inv :=
  h.stopAll.eraseWriter inFlight

theorem Inv.publish {runtime : Runtime} (h : runtime.Inv) {inFlight slotIndex : Nat}
    {admission : CanonicalAdmission} {append : AppendIdentity}
    (hwriter : runtime.writer[inFlight]? = some (.appended slotIndex admission append)) :
    (runtime.publish inFlight slotIndex admission append).Inv := by
  unfold Runtime.publish
  split
  next preparation next hprepare =>
    obtain ⟨hslots, hretry, hclosed⟩ := preparePublication_cases hprepare
    have hshared := h.setUnchanged hslots hretry fun hc => hclosed.trans hc
    exact hshared.setWriter (.published slotIndex admission append preparation) hwriter rfl rfl
      (fun ht => ht) runtime.journal
  next next hprepare =>
    obtain ⟨hslots, hretry, hclosed⟩ := preparePublication_cases hprepare
    exact (h.setUnchanged hslots hretry fun hc => hclosed.trans hc).drop inFlight

theorem Inv.completeHandled {runtime : Runtime} (h : runtime.Inv) {inFlight slotIndex : Nat}
    {admission : CanonicalAdmission} {append : AppendIdentity} {preparation : PreparedPublication}
    (hwriter : runtime.writer[inFlight]? =
      some (.published slotIndex admission append preparation)) :
    ({ runtime with
      shared := (runtime.shared.completeHandled slotIndex admission append preparation).2
      writer := runtime.writer.eraseIdx inFlight } : Runtime).Inv := by
  have herase := h.eraseWriter inFlight
  cases hhandled : runtime.shared.completeHandled slotIndex admission append preparation with
  | mk done next =>
    obtain ⟨hstopped, hretry⟩ | ⟨slot, hphase, hrewrites⟩ := completeHandled_cases hhandled
    · exact herase.setStopped hstopped hretry
    · obtain ⟨hsubmits, -⟩ := h.not_owned hrewrites.held
      refine herase.setShared (h.keys.rewrites hrewrites) ?_ hrewrites.frame ?_ ?_ ?_
      · refine h.matched.rewrites hrewrites ?_
        intro new hnew p hp
        cases hnew
        exact h.matched slotIndex slot p hrewrites.held hp
      · intro _ i phase s q hi howns
        exact hsubmits (by simp [hphase]) i phase s q hi howns
      · intro _ j g hj hsame
        obtain ⟨i, hne, hi, -⟩ := getElem?_eraseIdx_ne hj
        exact hne (h.writerUnique i inFlight g _ hi hwriter hsame)
      · rw [hrewrites.retry]
        exact herase.taken

/-- A batch takes slots that no thread works on, and retains no key of a command that is
still to be appended. -/
theorem Inv.completeDurableBatch {runtime : Runtime} (h : runtime.Inv)
    (entries : List DurableBatchEntry) (committed : ManifestCommit) (retry : RetryStateSnapshot) :
    ({ runtime with
      shared := (runtime.shared.completeDurableBatch entries committed retry).2 } :
        Runtime).Inv := by
  cases hbatch : runtime.shared.completeDurableBatch entries committed retry with
  | mk done next =>
    obtain ⟨hstopped, hretry⟩ | hcommits := completeDurableBatch_cases hbatch
    · exact h.setStopped hstopped hretry
    · have hwaiting : ∀ s ∈ entries.map (·.slot), ∃ slot, runtime.shared.slot? s = some slot ∧
          slot.phase = .awaitingDurability := by
        intro s hs
        obtain ⟨entry, hentry, rfl⟩ := List.mem_map.mp hs
        obtain ⟨slot, hslot, hphase, -⟩ := hcommits.waiting entry hentry
        exact ⟨slot, hslot, hphase⟩
      refine h.setShared (h.keys.commits hcommits) (h.matched.commits hcommits) hcommits.frame
        ?_ ?_ ?_
      · intro _ i phase s q hi howns hs
        obtain ⟨slot, hslot, hphase⟩ := hwaiting s hs
        exact (h.not_owned hslot).1 (by simp [hphase]) i phase s q hi howns rfl
      · intro _ k f hk hs
        obtain ⟨slot, hslot, hphase⟩ := hwaiting f.slotIndex hs
        exact (h.not_owned hslot).2 (by simp [hphase]) k f hk rfl
      · intro k f hk ht q hq
        obtain hold | ⟨entry, hentry, rfl⟩ := hcommits.retained q hq
        · exact h.taken k f hk ht q hold
        · obtain ⟨slot, hslot, hphase, hsame⟩ := hcommits.waiting entry hentry
          obtain hstopped | ⟨own, hown, howning, hq'⟩ := h.writer k f hk
          · rw [hstopped.2 entry.slot] at hslot
            cases hslot
          · rw [← hsame, ← hq']
            apply h.keys.slots entry.slot f.slotIndex slot own hslot hown
            exact fun heq => (h.not_owned hslot).2 (by simp [hphase]) k f hk heq.symm

/-- Every atomic step keeps the invariant. -/
theorem Inv.step {runtime next : Runtime} (h : runtime.Inv) {event : RuntimeEvent}
    (hstep : runtime.step event = some next) : next.Inv := by
  cases event with
  | enter command =>
    cases hstep
    have hget : ∀ (i : Nat) (phase : SubmitPhase),
        (runtime.submits ++ [.entered command])[i]? = some phase →
        runtime.submits[i]? = some phase ∨ phase = .entered command := by
      intro i phase hi
      rw [List.getElem?_append] at hi
      split at hi
      next => exact Or.inl hi
      next => exact Or.inr (List.mem_singleton.mp (List.mem_of_getElem? hi))
    refine ⟨h.keys, h.matched, ?_, ?_, ?_, h.writer, h.writerUnique, h.taken⟩
    · intro i phase slot q hi howns
      obtain hi | rfl := hget i phase hi
      · exact h.submits i phase slot q hi howns
      · cases howns
    · intro i j a b slot q r hi hj ha hb
      obtain hi | rfl := hget i a hi
      · obtain hj | rfl := hget j b hj
        · exact h.submitUnique i j a b slot q r hi hj ha hb
        · cases hb
      · cases ha
    · intro i phase hi
      obtain hi | rfl := hget i phase hi
      · exact h.encoded i phase hi
      · trivial
  | check submit =>
    simp only [Runtime.step] at hstep
    split at hstep
    next => cases hstep; exact h.check _ _
    next => cases hstep
  | measure submit =>
    simp only [Runtime.step] at hstep
    split at hstep
    next => cases hstep; exact h.setSubmitFree rfl trivial
    next => cases hstep
  | reserve submit =>
    simp only [Runtime.step] at hstep
    split at hstep
    next => cases hstep; exact h.reserve _ _ _
    next => cases hstep
  | prepare submit =>
    simp only [Runtime.step] at hstep
    split at hstep
    next hsubmit => cases hstep; exact h.prepare hsubmit
    next => cases hstep
  | enqueue submit =>
    simp only [Runtime.step] at hstep
    split at hstep
    next hsubmit => cases hstep; exact h.enqueue hsubmit
    next => cases hstep
  | rollback submit =>
    simp only [Runtime.step] at hstep
    split at hstep
    next hsubmit => cases hstep; exact h.rollback hsubmit
    next => cases hstep
  | takeNext =>
    cases hstep
    exact h.takeNext
  | append inFlight identity =>
    simp only [Runtime.step] at hstep
    split at hstep
    next slotIndex prepared hwriter =>
      cases hstep
      exact h.setWriter (.appended slotIndex prepared.admission identity) hwriter rfl rfl
        (fun ht => nomatch ht) _
    next => cases hstep
  | publish inFlight =>
    simp only [Runtime.step] at hstep
    split at hstep
    next hwriter => cases hstep; exact h.publish hwriter
    next => cases hstep
  | completeHandled inFlight =>
    simp only [Runtime.step] at hstep
    split at hstep
    next hwriter => cases hstep; exact h.completeHandled hwriter
    next => cases hstep
  | drop inFlight =>
    simp only [Runtime.step] at hstep
    split at hstep
    next => cases hstep; exact h.drop _
    next => cases hstep
  | completeDurableBatch entries committed retry =>
    cases hstep
    exact h.completeDurableBatch entries committed retry
  | closeAdmission =>
    cases hstep
    exact h.setUnchanged rfl rfl fun _ => rfl
  | stop =>
    cases hstep
    exact h.stopAll

theorem Inv.run {runtime final : Runtime} (h : runtime.Inv) {events : List RuntimeEvent}
    (hrun : runtime.run events = some final) : final.Inv := by
  induction events generalizing runtime with
  | nil =>
    cases hrun
    exact h
  | cons event rest ih =>
    simp only [Runtime.run] at hrun
    split at hrun
    next next hstep => exact ih (h.step hstep) hrun
    next => cases hrun

/-- Startup establishes the invariant from any projection whose entries are distinct. -/
theorem Opened.inv {runtime : Runtime} {retry : RetryStateSnapshot} (h : runtime.Opened retry)
    (hvalid : validateState retry = .ok ()) : runtime.Inv := by
  obtain ⟨shared, submits, writer, journal⟩ := runtime
  obtain ⟨storeId, byteLimits, hinstall, rfl, rfl, rfl⟩ := h
  unfold installOpenedRetry at hinstall
  split at hinstall
  next => cases hinstall
  next =>
    cases hinstall
    have hnone : ∀ i, (IngressState.new storeId byteLimits retry.options).slot? i = none := by
      intro i
      simp only [IngressState.new, IngressState.slot?, List.getElem?_replicate]
      split <;> rfl
    refine ⟨⟨?_, ?_, validateState_distinct hvalid⟩, ?_, ?_, ?_, ?_, ?_, ?_, ?_⟩
    · intro i j a b ha
      exact nomatch (hnone i).symm.trans ha
    · intro i a ha
      exact nomatch (hnone i).symm.trans ha
    · intro i a p ha
      exact nomatch (hnone i).symm.trans ha
    all_goals simp

end Runtime

end Historian
