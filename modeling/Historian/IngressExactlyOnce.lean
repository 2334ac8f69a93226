import Historian.IngressAnswers

namespace Historian

open Checks IngressState

abbrev ScopeKey := SeriesId × ProducerId × RetryKey

namespace Runtime

def Holds (runtime : Runtime) (key : ScopeKey) : Prop := ∃ q ∈ runtime.held, q.scopeKey = key

/-- A slot whose command has been appended. -/
def AppendedSlot (runtime : Runtime) (slotIndex : Nat) (slot : Slot) : Prop :=
  slot.phase = .awaitingDurability ∨
    slot.phase = .inFlight ∧ ∀ f ∈ runtime.writer, f.slotIndex = slotIndex → f.isTaken = false

/-- The key is held by what has been appended: a slot past its append, or a tier. -/
def HoldsAppended (runtime : Runtime) (key : ScopeKey) : Prop :=
  (∃ i slot, runtime.shared.slot? i = some slot ∧ slot.qualification.scopeKey = key ∧
    runtime.AppendedSlot i slot) ∨
  ∃ q ∈ runtime.shared.retry.retained, q.scopeKey = key

theorem Holds.cases {runtime : Runtime} {key : ScopeKey} (h : runtime.Holds key) :
    (∃ i slot, runtime.shared.slot? i = some slot ∧ slot.qualification.scopeKey = key) ∨
      ∃ q ∈ runtime.shared.retry.retained, q.scopeKey = key := by
  obtain ⟨q, hq, hkey⟩ := h
  rw [Runtime.held, List.mem_append] at hq
  obtain hq | hq := hq
  · obtain ⟨slot, hslot, rfl⟩ := List.mem_map.mp hq
    obtain ⟨i, hi⟩ := mem_occupied.mp hslot
    exact Or.inl ⟨i, slot, hi, hkey⟩
  · exact Or.inr ⟨q, hq, hkey⟩

theorem Holds.stopped {runtime : Runtime} {key : ScopeKey} (h : runtime.Holds key)
    (hstopped : runtime.shared.Stopped) :
    ∃ q ∈ runtime.shared.retry.retained, q.scopeKey = key := by
  obtain ⟨i, slot, hi, -⟩ | hq := h.cases
  · rw [hstopped.2 i] at hi
    cases hi
  · exact hq

/-- A step that keeps the projection, and every appended slot unless all is stopped. -/
theorem HoldsAppended.keep {runtime next : Runtime} {key : ScopeKey}
    (h : runtime.HoldsAppended key) (hholds : next.Holds key)
    (hretry : next.shared.retry = runtime.shared.retry)
    (hslots : next.shared.Stopped ∨ ∀ i slot, runtime.shared.slot? i = some slot →
      runtime.AppendedSlot i slot → ∃ slot', next.shared.slot? i = some slot' ∧
        slot'.qualification = slot.qualification ∧ next.AppendedSlot i slot') :
    next.HoldsAppended key := by
  obtain ⟨i, slot, hi, hkey, happended⟩ | hq := h
  · obtain hstopped | hslots := hslots
    · exact Or.inr (hholds.stopped hstopped)
    · obtain ⟨slot', hi', hq, happended'⟩ := hslots i slot hi happended
      exact Or.inl ⟨i, slot', hi', by rw [hq, hkey], happended'⟩
  · exact Or.inr (by rwa [hretry])

/-- A step that leaves the slots and the writer's commands as they were. -/
theorem HoldsAppended.unchanged {runtime next : Runtime} {key : ScopeKey}
    (h : runtime.HoldsAppended key) (hholds : next.Holds key)
    (hretry : next.shared.retry = runtime.shared.retry)
    (hslots : next.shared.slots = runtime.shared.slots)
    (hwriter : ∀ f ∈ next.writer, f.isTaken = true → f ∈ runtime.writer) :
    next.HoldsAppended key := by
  refine h.keep hholds hretry (Or.inr ?_)
  intro i slot hi happended
  refine ⟨slot, ?_, rfl, happended.imp_right ?_⟩
  · unfold IngressState.slot? at hi ⊢
    rw [hslots]
    exact hi
  · rintro ⟨hphase, hnot⟩
    refine ⟨hphase, ?_⟩
    intro f hf hfi
    cases ht : f.isTaken with
    | false => rfl
    | true => exact (hnot f (hwriter f hf ht) hfi) ▸ ht.symm

/-- A step that rewrites a slot which is not yet appended. -/
theorem HoldsAppended.rewrites {runtime next : Runtime} {key : ScopeKey}
    (h : runtime.HoldsAppended key) (hholds : next.Holds key) {slotIndex : Nat} {old : Slot}
    {new : Option Slot} (hrewrites : runtime.shared.Rewrites next.shared slotIndex old new)
    (hphase : old.phase = .preparing ∨ old.phase = .queued)
    (hwriter : ∀ f ∈ next.writer, f ∈ runtime.writer ∨ f.slotIndex = slotIndex) :
    next.HoldsAppended key := by
  refine h.keep hholds hrewrites.retry (Or.inr ?_)
  intro i slot hi happended
  have hne : slotIndex ≠ i := by
    rintro rfl
    rw [hrewrites.held] at hi
    cases hi
    obtain hw | ⟨hw, -⟩ := happended <;> simp [hw] at hphase
  refine ⟨slot, by rw [hrewrites.slot?, if_neg hne]; exact hi, rfl, happended.imp_right ?_⟩
  rintro ⟨hflight, hnot⟩
  refine ⟨hflight, ?_⟩
  intro f hf hfi
  obtain hf | hf := hwriter f hf
  · exact hnot f hf hfi
  · exact absurd (hf.symm.trans hfi) hne

theorem HoldsAppended.reserve {runtime : Runtime} {key : ScopeKey}
    (h : runtime.HoldsAppended key) {submit : Nat} {command : IngressCommand}
    {measured : Except JournalV1Error Nat}
    (hholds : (runtime.reserve submit command measured).Holds key) :
    (runtime.reserve submit command measured).HoldsAppended key := by
  unfold Runtime.reserve at hholds ⊢
  cases hreserve : runtime.shared.reserve command measured with
  | mk reservation shared =>
    rw [hreserve] at hholds
    obtain ⟨result, rfl, hslots, hretry, -⟩ | ⟨slotIndex, _, _, rfl, hreserves⟩ :=
      reserve_cases hreserve
    · exact h.unchanged hholds hretry hslots fun f hf _ => hf
    · obtain ⟨new, -, -, -, hget⟩ := hreserves.slot?
      refine h.keep hholds hreserves.retry (Or.inr ?_)
      intro i slot hi happended
      have hne : slotIndex ≠ i := by
        rintro rfl
        exact nomatch hreserves.wasFree.symm.trans hi
      exact ⟨slot, (hget i).trans ((if_neg hne).trans hi), rfl, happended⟩

theorem HoldsAppended.takeNext {runtime : Runtime} {key : ScopeKey}
    (h : runtime.HoldsAppended key) (hholds : runtime.takeNext.Holds key) :
    runtime.takeNext.HoldsAppended key := by
  unfold Runtime.takeNext at hholds ⊢
  cases htake : runtime.shared.takeNext with
  | mk work shared =>
    rw [htake] at hholds
    obtain ⟨slotIndex, prepared, slot, rfl, hphase, -, hrewrites⟩ | ⟨hnone, hslots, hretry, -⟩ :=
      takeNext_cases htake
    · refine h.rewrites hholds hrewrites (Or.inr hphase) ?_
      intro f hf
      rw [List.mem_append, List.mem_singleton] at hf
      exact hf.imp_right fun hf => by rw [hf]; rfl
    · cases work with
      | work slotIndex prepared priority barrier => exact absurd rfl (hnone _ _ _ _)
      | barrierRequired => exact h.unchanged hholds hretry hslots fun f hf _ => hf
      | empty => exact h.unchanged hholds hretry hslots fun f hf _ => hf
      | drained => exact h.unchanged hholds hretry hslots fun f hf _ => hf
      | failed => exact h.unchanged hholds hretry hslots fun f hf _ => hf

/-- The slot that completes its handled stage keeps waiting with its key. -/
theorem HoldsAppended.completeHandled {runtime : Runtime} {key : ScopeKey}
    (h : runtime.HoldsAppended key) {inFlight slotIndex : Nat} {admission : CanonicalAdmission}
    {append : AppendIdentity} {preparation : PreparedPublication}
    (hholds : ({ runtime with
      shared := (runtime.shared.completeHandled slotIndex admission append preparation).2
      writer := runtime.writer.eraseIdx inFlight } : Runtime).Holds key) :
    ({ runtime with
      shared := (runtime.shared.completeHandled slotIndex admission append preparation).2
      writer := runtime.writer.eraseIdx inFlight } : Runtime).HoldsAppended key := by
  cases hhandled : runtime.shared.completeHandled slotIndex admission append preparation with
  | mk done shared =>
    rw [hhandled] at hholds
    obtain ⟨hstopped, hretry⟩ | ⟨slot, -, hrewrites⟩ := completeHandled_cases hhandled
    · exact h.keep hholds hretry (Or.inl hstopped)
    · refine h.keep hholds hrewrites.retry (Or.inr ?_)
      intro i own hi happended
      by_cases hne : slotIndex = i
      · subst hne
        cases hrewrites.held.symm.trans hi
        exact ⟨_, (hrewrites.slot? slotIndex).trans (if_pos rfl), rfl, Or.inl rfl⟩
      · refine ⟨own, (hrewrites.slot? i).trans ((if_neg hne).trans hi), rfl,
          happended.imp_right ?_⟩
        rintro ⟨hphase, hnot⟩
        exact ⟨hphase, fun f hf hfi => hnot f (List.mem_of_mem_eraseIdx hf) hfi⟩

/-- A batch hands keys from its slots to the tiers; a key outside both is no longer held. -/
theorem HoldsAppended.completeDurableBatch {runtime : Runtime} {key : ScopeKey}
    (hinv : runtime.Inv) (h : runtime.HoldsAppended key) {entries : List DurableBatchEntry}
    {committed : ManifestCommit} {retry : RetryStateSnapshot}
    (hholds : ({ runtime with
      shared := (runtime.shared.completeDurableBatch entries committed retry).2 } :
        Runtime).Holds key) :
    ({ runtime with
      shared := (runtime.shared.completeDurableBatch entries committed retry).2 } :
        Runtime).HoldsAppended key := by
  cases hbatch : runtime.shared.completeDurableBatch entries committed retry with
  | mk done shared =>
    rw [hbatch] at hholds
    obtain ⟨hstopped, hretry⟩ | hcommits := completeDurableBatch_cases hbatch
    · exact h.keep hholds hretry (Or.inl hstopped)
    · obtain ⟨j, slot, hj, hkey⟩ | hq := hholds.cases
      · -- the holder was already there, so it is the slot or tier that held the key before
        obtain ⟨-, hold⟩ := hcommits.remaining hj
        obtain ⟨i, own, hi, hown, happended⟩ | ⟨q, hq, hqkey⟩ := h
        · by_cases hij : i = j
          · subst hij
            cases hold.symm.trans hi
            exact Or.inl ⟨i, slot, hj, hkey, happended⟩
          · exact absurd (hown.trans hkey.symm) (hinv.keys.slots i j own slot hi hold hij)
        · exact absurd (hqkey.trans hkey.symm) (hinv.keys.retained j slot hold q hq)
      · exact Or.inr hq

/-- Once appended, a key that is still held is held by what was appended. -/
theorem HoldsAppended.step {runtime next : Runtime} {key : ScopeKey} (hinv : runtime.Inv)
    (h : runtime.HoldsAppended key) {event : RuntimeEvent}
    (hstep : runtime.step event = some next) (hholds : next.Holds key) :
    next.HoldsAppended key := by
  cases event with
  | enter command =>
    cases hstep
    exact h.unchanged hholds rfl rfl fun f hf _ => hf
  | check submit =>
    simp only [Runtime.step] at hstep
    split at hstep
    next =>
      cases hstep
      unfold Runtime.check at hholds ⊢
      split at hholds
      next => exact h.unchanged hholds rfl rfl fun f hf _ => hf
      next => exact h.unchanged hholds rfl rfl fun f hf _ => hf
    next => cases hstep
  | measure submit =>
    simp only [Runtime.step] at hstep
    split at hstep
    next => cases hstep; exact h.unchanged hholds rfl rfl fun f hf _ => hf
    next => cases hstep
  | reserve submit =>
    simp only [Runtime.step] at hstep
    split at hstep
    next command measured _ =>
      cases hstep
      exact h.reserve hholds
    next => cases hstep
  | prepare submit =>
    simp only [Runtime.step] at hstep
    split at hstep
    next => cases hstep; exact h.unchanged hholds rfl rfl fun f hf _ => hf
    next => cases hstep
  | enqueue submit =>
    simp only [Runtime.step] at hstep
    split at hstep
    next command slotIndex terminal prepared _ =>
      cases hstep
      cases henqueue : runtime.shared.enqueue slotIndex terminal prepared command with
      | mk result shared =>
        simp only [Runtime.enqueue, henqueue] at hholds ⊢
        obtain rfl | ⟨slot, hphase, hrewrites⟩ := enqueue_cases henqueue
        · exact h.keep hholds rfl (Or.inl (stopped_stopAll _))
        · exact h.rewrites hholds hrewrites (Or.inl hphase) fun f hf => Or.inl hf
    next => cases hstep
  | rollback submit =>
    simp only [Runtime.step] at hstep
    split at hstep
    next command slotIndex error hsubmit =>
      cases hstep
      unfold Runtime.rollback at hholds ⊢
      obtain ⟨-, heq⟩ | ⟨slot, hrewrites⟩ := rollbackPreparation_cases runtime.shared slotIndex
      · rw [heq] at hholds ⊢
        exact h.unchanged hholds rfl rfl fun f hf _ => hf
      · have hphase : slot.phase = .preparing := by
          obtain hstopped | ⟨own, hown, hphase, -⟩ := hinv.submits submit _ _ _ hsubmit rfl
          · cases (hstopped.2 slotIndex).symm.trans hrewrites.held
          · cases hrewrites.held.symm.trans hown
            exact hphase
        exact h.rewrites hholds hrewrites (Or.inl hphase) fun f hf => Or.inl hf
    next => cases hstep
  | takeNext =>
    cases hstep
    exact h.takeNext hholds
  | append inFlight identity =>
    simp only [Runtime.step] at hstep
    split at hstep
    next slotIndex prepared _ =>
      cases hstep
      refine h.unchanged hholds rfl rfl ?_
      intro f hf ht
      obtain hf | rfl := List.mem_or_eq_of_mem_set hf
      · exact hf
      · cases ht
    next => cases hstep
  | publish inFlight =>
    simp only [Runtime.step] at hstep
    split at hstep
    next slotIndex admission append _ =>
      cases hstep
      cases hprepare : runtime.shared.preparePublication slotIndex admission with
      | mk preparation shared =>
        obtain ⟨hslots, hretry, -⟩ := preparePublication_cases hprepare
        simp only [Runtime.publish, hprepare] at hholds ⊢
        cases preparation with
        | none => exact h.keep hholds hretry (Or.inl (stopped_stopAll _))
        | some preparation =>
          refine h.unchanged hholds hretry hslots ?_
          intro f hf ht
          obtain hf | rfl := List.mem_or_eq_of_mem_set hf
          · exact hf
          · cases ht
    next => cases hstep
  | completeHandled inFlight =>
    simp only [Runtime.step] at hstep
    split at hstep
    next slotIndex admission append preparation hwriter =>
      cases hstep
      exact h.completeHandled hholds
    next => cases hstep
  | drop inFlight =>
    simp only [Runtime.step] at hstep
    split at hstep
    next => cases hstep; exact h.keep hholds rfl (Or.inl (stopped_stopAll _))
    next => cases hstep
  | completeDurableBatch entries committed retry =>
    cases hstep
    exact h.completeDurableBatch hinv hholds
  | closeAdmission =>
    cases hstep
    exact h.unchanged hholds rfl rfl fun f hf _ => hf
  | stop =>
    cases hstep
    exact h.keep hholds rfl (Or.inl (stopped_stopAll _))

/-- The key that an append of this command would put into the journal. -/
def Appends (runtime : Runtime) (inFlight : Nat) (key : ScopeKey) : Prop :=
  ∃ slotIndex encoded, runtime.writer[inFlight]? = some (.taken slotIndex encoded) ∧
    encoded.admission.retry.scopeKey = key

/-- A command that waits for its append is the only holder of its key. -/
theorem Inv.not_appended {runtime : Runtime} (h : runtime.Inv) {inFlight : Nat} {key : ScopeKey}
    (happends : runtime.Appends inFlight key) : ¬runtime.HoldsAppended key := by
  obtain ⟨slotIndex, encoded, hwriter, rfl⟩ := happends
  rintro (⟨i, own, hi, hkey, happended⟩ | ⟨q, hq, hkey⟩)
  · obtain hstopped | ⟨slot, hslot, hphase, hqual⟩ := h.writer inFlight _ hwriter
    · exact nomatch (hstopped.2 i).symm.trans hi
    · have hsame : i = slotIndex := by
        by_contra hne
        refine h.keys.slots i slotIndex own slot hi hslot hne ?_
        rw [hqual, hkey]
        rfl
      subst hsame
      cases hi.symm.trans hslot
      obtain hwaiting | ⟨-, hnot⟩ := happended
      · exact nomatch hphase.symm.trans hwaiting
      · exact nomatch hnot _ (List.mem_of_getElem? hwriter) rfl
  · exact h.taken inFlight _ hwriter rfl q hq hkey

/-- Right after its append a key is held by what was appended, if it is held at all. -/
theorem Inv.append_holds {runtime next : Runtime} (h : runtime.Inv) {inFlight : Nat}
    {identity : AppendIdentity} {key : ScopeKey} (happends : runtime.Appends inFlight key)
    (hstep : runtime.step (.append inFlight identity) = some next) (hholds : next.Holds key) :
    next.HoldsAppended key := by
  obtain ⟨slotIndex, encoded, hwriter, rfl⟩ := happends
  simp only [Runtime.step, hwriter] at hstep
  cases hstep
  obtain hstopped | ⟨slot, hslot, hphase, hqual⟩ := h.writer inFlight _ hwriter
  · exact Or.inr (hholds.stopped hstopped)
  · refine Or.inl ⟨slotIndex, slot, hslot, by rw [hqual]; rfl, Or.inr ⟨hphase, ?_⟩⟩
    intro f hf hfi
    obtain ⟨j, hj⟩ := List.mem_iff_getElem?.mp hf
    rw [List.getElem?_set] at hj
    split at hj
    next =>
      split at hj
      next =>
        cases hj
        rfl
      next => cases hj
    next hne => exact absurd (h.writerUnique inFlight j _ f hwriter hj hfi.symm) hne

/-- A key that was appended cannot be appended again before it was released. -/
theorem HoldsAppended.released {runtime later : Runtime} {key : ScopeKey} (hinv : runtime.Inv)
    (h : runtime.HoldsAppended key) {events : List RuntimeEvent}
    (hrun : runtime.run events = some later) {inFlight : Nat}
    (happends : later.Appends inFlight key) :
    ∃ before after between, events = before ++ after ∧ runtime.run before = some between ∧
      ¬between.Holds key := by
  induction events generalizing runtime with
  | nil =>
    cases hrun
    exact absurd h (hinv.not_appended happends)
  | cons event rest ih =>
    simp only [Runtime.run] at hrun
    split at hrun
    next next hstep =>
      by_cases hholds : next.Holds key
      · obtain ⟨before, after, between, rfl, hbefore, hnot⟩ :=
          ih (hinv.step hstep) (h.step hinv hstep hholds) hrun
        refine ⟨event :: before, after, between, rfl, ?_, hnot⟩
        simp only [Runtime.run, hstep]
        exact hbefore
      · refine ⟨[event], rest, next, rfl, ?_, hholds⟩
        simp only [Runtime.run, hstep]
    next => cases hrun

/-- Every interleaving keeps the keys of the slots and both tiers distinct, so a submission is
answered by the one place that holds its key and a held key is never appended again. -/
theorem exactly_once_admission {retry : RetryStateSnapshot}
    (hvalid : validateState retry = .ok ()) {start : Runtime} (hopened : start.Opened retry)
    {events : List RuntimeEvent} (hlawful : ∀ event ∈ events, event.Lawful) {runtime : Runtime}
    (hrun : start.run events = some runtime) :
    PairwiseDistinct runtime.held ∧
    (∀ submit command measured next,
      runtime.submits[submit]? = some (.measured command measured) →
      runtime.shared.closed = false → command.admission.storeId = runtime.shared.storeId →
      runtime.step (.reserve submit) = some next → runtime.Answers next submit command) ∧
    (∀ inFlight key, runtime.Appends inFlight key →
      ∀ q ∈ runtime.shared.retry.retained, q.scopeKey ≠ key) ∧
    ∀ inFlight identity key next, runtime.Appends inFlight key →
      runtime.step (.append inFlight identity) = some next →
      ∀ between later again, next.run between = some later → later.Appends again key →
        ∃ before after released, between = before ++ after ∧ next.run before = some released ∧
          ¬released.Holds key := by
  have hinv : runtime.Inv := (hopened.inv hvalid).run hrun
  have hsubmits : runtime.Lawful := by
    have hstart : start.Lawful := by
      obtain ⟨_, _, -, hnone, -⟩ := hopened
      intro phase hphase
      rw [hnone] at hphase
      cases hphase
    exact hstart.run hlawful hrun
  refine ⟨hinv.keys.pairwise, ?_, ?_, ?_⟩
  · intro submit command measured next hsubmit hopen hstore hstep
    obtain ⟨hbuilt, rfl⟩ := hsubmits _ (List.mem_of_getElem? hsubmit)
    obtain ⟨payload, -, -, hmeasure⟩ := hbuilt.frameLen
    simp only [Runtime.step, hsubmit, hmeasure] at hstep
    cases hstep
    exact hinv.answers submit hopen hstore
  · rintro inFlight key ⟨slotIndex, encoded, hwriter, rfl⟩
    exact hinv.taken inFlight _ hwriter rfl
  · intro inFlight identity key next happends hstep between later again hbetween hagain
    by_cases hholds : next.Holds key
    · exact (hinv.append_holds happends hstep hholds).released (hinv.step hstep) hbetween hagain
    · exact ⟨[], between, next, rfl, rfl, hholds⟩

def sampleRetryOptions : RetryPersistenceOptions := ⟨2, 2, by decide, by decide, by decide⟩

def sampleByteLimits : ByteReservationLimits := ⟨4096, 0, 0, by decide, by decide⟩

def sampleRetryState : RetryStateSnapshot := .empty (sampleIdentity 1) sampleRetryOptions

def sampleCommand : IngressCommand := ⟨sampleAdmission, .normal, .group⟩

def sampleStart : Runtime :=
  ⟨.new (sampleIdentity 1) sampleByteLimits sampleRetryOptions, [], [], []⟩

/-- Two submissions of the sample admission, the second one up to its reserve section. -/
def sampleEvents : List RuntimeEvent :=
  [.enter sampleCommand, .check 0, .measure 0, .reserve 0, .prepare 0, .enqueue 0, .takeNext,
    .append 0 ⟨⟨sampleIdentity 1, 1⟩, 1, 100⟩, .enter sampleCommand, .check 1, .measure 1]

theorem sampleCommand_built : sampleCommand.admission.Built := by
  have hadmit : sampleDecoded.readmit sampleRegistry = .ok sampleAdmission := by decide +kernel
  exact ⟨sampleRegistry, sampleRegistry_reachable, readmit_constructible hadmit⟩

/-- The sample admission under another retry key, at a priority. -/
def keyedCommand (key : Char) (h : validatePrintableAscii maxRetryKeyBytes [key] = true)
    (priority : AdmissionPriority) : IngressCommand :=
  ⟨{ sampleAdmission with retry := sampleRetry key h }, priority, .group⟩

theorem keyedCommand_built {key : Char}
    (h : validatePrintableAscii maxRetryKeyBytes [key] = true) (priority : AdmissionPriority) :
    (keyedCommand key h priority).admission.Built := by
  have hadmit : DecodedAdmissionV1.readmit sampleRegistry
      { sampleDecoded with retry := sampleRetry key h } =
        .ok { sampleAdmission with retry := sampleRetry key h } := rfl
  exact ⟨sampleRegistry, sampleRegistry_reachable, readmit_constructible hadmit⟩

/-- The second submission meets its key in the slot of the first and is coalesced onto it. -/
theorem exactly_once_admission_sample :
    ∃ runtime next, sampleStart.run sampleEvents = some runtime ∧
      PairwiseDistinct runtime.held ∧ runtime.step (.reserve 1) = some next ∧
      next = runtime.setSubmit 1 (.finished (.ok ⟨.coalesced, 0⟩)) := by
  have hopened : sampleStart.Opened sampleRetryState :=
    ⟨sampleIdentity 1, sampleByteLimits, rfl, rfl, rfl, rfl⟩
  have hlawful : ∀ event ∈ sampleEvents, event.Lawful := by
    have hbuilt := sampleCommand_built
    simp [sampleEvents, RuntimeEvent.Lawful, hbuilt]
  have hreached : (sampleStart.run sampleEvents).any (fun runtime =>
      runtime.submits[1]? =
        some (.measured sampleCommand (admissionFrameLenV1 sampleCommand.admission)) ∧
      runtime.shared.closed = false ∧ runtime.shared.storeId = sampleIdentity 1 ∧
      runtime.shared.occupied.map (fun slot => (slot.qualification, slot.terminal)) =
        [(sampleAdmission.retry, 0)]) = true := by decide +kernel
  obtain ⟨runtime, hrun, hreached⟩ := (Option.any_eq_true _ _).mp hreached
  obtain ⟨hsubmit, hopen, hstore, hslots⟩ := of_decide_eq_true hreached
  obtain ⟨hdistinct, hanswers, -⟩ := exactly_once_admission rfl hopened hlawful hrun
  have hstep : ∃ next, runtime.step (.reserve 1) = some next := by
    simp only [Runtime.step, hsubmit]
    exact ⟨_, rfl⟩
  obtain ⟨next, hstep⟩ := hstep
  refine ⟨runtime, next, hrun, hdistinct, hstep, ?_⟩
  obtain ⟨slot, hslot, heq⟩ := List.mem_map.mp (hslots ▸ List.mem_singleton_self _)
  obtain ⟨hqual, hterminal⟩ := Prod.mk.inj heq
  have hcoalesced := (hanswers 1 _ _ next hsubmit hopen hstore.symm hstep).coalesced slot hslot
    (by rw [hqual]; decide)
  rw [hcoalesced, hterminal]

end Runtime

end Historian
