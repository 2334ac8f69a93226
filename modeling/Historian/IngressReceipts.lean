import Historian.IngressClaims
import Historian.RetryRoot

namespace Historian

open Checks IngressState

/-- The stages that are resolved keep their outcome. -/
structure ReceiptState.Later (old new : ReceiptState) : Prop where
  handled : ∀ outcome, old.handled = some outcome → new.handled = some outcome
  durable : ∀ outcome, old.durable = some outcome → new.durable = some outcome

/-- The append that a commit reports lies within the cutoff of the commit. -/
structure DurableCommit.Covered (commit : DurableCommit) : Prop where
  journal : commit.append.journal = commit.committed.durableCutoff.journal
  sequence : commit.append.appendSequence ≤ commit.committed.durableCutoff.appendSequence
  offset : commit.append.endOffset ≤ commit.committed.durableCutoff.endOffset

/-- A receipt that reports durability has reported the same append as handled before, and the
commit is one of those that were made. -/
def ReceiptState.Truthful (made : ManifestCommit → Prop) (receipt : ReceiptState) : Prop :=
  ∀ commit, receipt.durable = some (.durable commit) →
    receipt.handled = some (.writerHandled commit.append) ∧ commit.Covered ∧ made commit.committed

namespace ReceiptState

variable {made : ManifestCommit → Prop} {receipt : ReceiptState}

theorem Later.refl (receipt : ReceiptState) : receipt.Later receipt := ⟨fun _ => id, fun _ => id⟩

theorem Later.trans {first second third : ReceiptState} (h : first.Later second)
    (h' : second.Later third) : first.Later third :=
  ⟨fun outcome heq => h'.handled outcome (h.handled outcome heq),
    fun outcome heq => h'.durable outcome (h.durable outcome heq)⟩

theorem later_resolveHandled (append : AppendIdentity) :
    receipt.Later (receipt.resolveHandled append).2 := by
  unfold resolveHandled
  split
  next => exact Later.refl receipt
  next hnone =>
    rw [not_not] at hnone
    refine ⟨?_, fun _ => id⟩
    intro outcome heq
    rw [hnone] at heq
    cases heq

theorem later_resolveDurable (commit : DurableCommit) :
    receipt.Later (receipt.resolveDurable commit).2 := by
  unfold resolveDurable
  split
  next => exact Later.refl receipt
  next hnone =>
    rw [not_not] at hnone
    refine ⟨fun _ => id, ?_⟩
    intro outcome heq
    rw [hnone] at heq
    cases heq

theorem later_resolveStopped : receipt.Later receipt.resolveStopped := by
  refine ⟨?_, ?_⟩
  · intro outcome heq
    simp [resolveStopped, heq]
  · intro outcome heq
    simp [resolveStopped, heq]

theorem Truthful.pending : ReceiptState.pending.Truthful made := by
  intro commit heq
  cases heq

theorem Truthful.resolveHandled (h : receipt.Truthful made) (append : AppendIdentity) :
    (receipt.resolveHandled append).2.Truthful made := by
  unfold ReceiptState.resolveHandled
  split
  next => exact h
  next hnone =>
    rw [not_not] at hnone
    intro commit heq
    have hhandled := (h commit heq).1
    rw [hnone] at hhandled
    cases hhandled

theorem Truthful.resolveDurable (h : receipt.Truthful made) {commit : DurableCommit}
    (hhandled : receipt.handled = some (.writerHandled commit.append)) (hcovered : commit.Covered)
    (hmade : made commit.committed) : (receipt.resolveDurable commit).2.Truthful made := by
  unfold ReceiptState.resolveDurable
  split
  next => exact h
  next =>
    intro other heq
    cases heq
    exact ⟨hhandled, hcovered, hmade⟩

theorem Truthful.resolveStopped (h : receipt.Truthful made) :
    receipt.resolveStopped.Truthful made := by
  intro commit heq
  have hdurable : receipt.durable = some (.durable commit) := by
    cases hdurable : receipt.durable with
    | none =>
      simp [ReceiptState.resolveStopped, hdurable] at heq
    | some outcome =>
      simpa [ReceiptState.resolveStopped, hdurable] using heq
  obtain ⟨hhandled, hrest⟩ := h commit hdurable
  exact ⟨later_resolveStopped.handled _ hhandled, hrest⟩

theorem Truthful.mono {more : ManifestCommit → Prop} (h : receipt.Truthful made)
    (hmore : ∀ committed, made committed → more committed) : receipt.Truthful more := by
  intro commit heq
  obtain ⟨hhandled, hcovered, hmade⟩ := h commit heq
  exact ⟨hhandled, hcovered, hmore _ hmade⟩

end ReceiptState

/-- How the receipts change: a new one is added, or one of them is resolved further. -/
inductive Receipts (made : ManifestCommit → Prop) : List ReceiptState → List ReceiptState → Prop
  | refl (receipts : List ReceiptState) : Receipts made receipts receipts
  | add {before after : List ReceiptState} (rest : Receipts made before after)
      (receipt : ReceiptState) (truthful : receipt.Truthful made) :
    Receipts made before (after ++ [receipt])
  | resolve {before after : List ReceiptState} (rest : Receipts made before after) {index : Nat}
      {old new : ReceiptState} (known : after[index]? = some old) (later : old.Later new)
      (truthful : old.Truthful made → new.Truthful made) :
    Receipts made before (after.set index new)

namespace Receipts

variable {made : ManifestCommit → Prop} {before after final : List ReceiptState}

theorem trans (h : Receipts made before after) (h' : Receipts made after final) :
    Receipts made before final := by
  induction h' with
  | refl => exact h
  | add _ receipt truthful ih => exact ih.add receipt truthful
  | resolve _ known later truthful ih => exact ih.resolve known later truthful

/-- Every receipt is still there, with the stages that it had. -/
theorem later (h : Receipts made before after) {index : Nat} {receipt : ReceiptState}
    (hreceipt : before[index]? = some receipt) :
    ∃ later, after[index]? = some later ∧ receipt.Later later := by
  induction h with
  | refl => exact ⟨receipt, hreceipt, .refl receipt⟩
  | add _ added _ ih =>
    obtain ⟨later, hlater, hkeeps⟩ := ih
    have hlt := (List.getElem?_eq_some_iff.mp hlater).1
    exact ⟨later, (List.getElem?_append_left hlt).trans hlater, hkeeps⟩
  | @resolve after _ place old new known later _ ih =>
    obtain ⟨found, hfound, hkeeps⟩ := ih
    by_cases hsame : place = index
    · subst hsame
      rw [hfound] at known
      cases known
      have hlt := (List.getElem?_eq_some_iff.mp hfound).1
      exact ⟨new, List.getElem?_set_self hlt, hkeeps.trans later⟩
    · exact ⟨found, (List.getElem?_set_ne hsame).trans hfound, hkeeps⟩

theorem truthful (h : Receipts made before after)
    (hbefore : ∀ receipt ∈ before, receipt.Truthful made) :
    ∀ receipt ∈ after, receipt.Truthful made := by
  induction h with
  | refl => exact hbefore
  | add _ added truthful ih =>
    intro receipt hreceipt
    rcases List.mem_append.mp hreceipt with hold | hnew
    · exact ih receipt hold
    · rw [List.mem_singleton] at hnew
      rw [hnew]
      exact truthful
  | resolve _ known _ truthful ih =>
    intro receipt hreceipt
    rcases List.mem_or_eq_of_mem_set hreceipt with hold | rfl
    · exact ih receipt hold
    · exact truthful (ih _ (List.mem_of_getElem? known))

/-- A receipt that may be unknown is stopped. -/
theorem stop (index : Nat) : Receipts made before (before.modify index (·.resolveStopped)) := by
  by_cases hlt : index < before.length
  · rw [List.modify_eq_set_getElem?, List.getElem?_eq_getElem hlt]
    exact (refl before).resolve (List.getElem?_eq_getElem hlt) ReceiptState.later_resolveStopped
      fun h => h.resolveStopped
  · rw [List.modify_eq_self (by omega)]
    exact refl before

end Receipts

namespace IngressState

variable {made : ManifestCommit → Prop} {state next : IngressState}

/-- What the replay tier holds was made, and its appends lie within their commits. -/
def Recorded (made : ManifestCommit → Prop) (retry : RetryStateSnapshot) : Prop :=
  ∀ outcome ∈ retry.replay, outcome.Within ∧ made outcome.committed

theorem receipts_stopAll {receipts : List ReceiptState} (state : IngressState)
    (same : state.receipts = receipts) :
    Receipts made receipts state.stopAll.receipts := by
  have hfold : ∀ (slots : List Slot) (receipts : List ReceiptState), Receipts made receipts
      (slots.foldl (fun receipts slot => receipts.modify slot.terminal (·.resolveStopped))
        receipts) := by
    intro slots
    induction slots with
    | nil => exact Receipts.refl
    | cons slot rest ih =>
      intro receipts
      exact (Receipts.stop slot.terminal).trans (ih _)
  rw [← same]
  exact hfold _ _

theorem classifyReplay_replay {qualification : RetryQualification} {guard : List RetryGuardEntry}
    {replay : List RetryReplayOutcome} {outcome : RetryReplayOutcome}
    (h : classifyReplay qualification guard replay = .replay outcome) : outcome ∈ replay := by
  induction replay with
  | nil =>
    have hguard : ∀ entries, classifyGuard qualification entries ≠ .replay outcome := by
      intro entries
      induction entries with
      | nil => exact nofun
      | cons entry rest ih =>
        unfold classifyGuard
        split
        next => exact nofun
        next => exact nofun
        next => exact ih
    exact absurd h (hguard guard)
  | cons head rest ih =>
    unfold classifyReplay at h
    split at h
    next =>
      cases h
      exact List.mem_cons_self
    next => cases h
    next => exact List.mem_cons_of_mem _ (ih h)

theorem receipts_reserve {command : IngressCommand} {measured : Except JournalV1Error Nat}
    {reservation : Reservation} (hrecorded : Recorded made state.retry)
    (h : state.reserve command measured = (reservation, next)) :
    Receipts made state.receipts next.receipts := by
  obtain ⟨_, -, rfl | ⟨outcome, hreplay, rfl⟩⟩ | ⟨_, _, -, -, -, rfl⟩ := reserve_next h
  · exact Receipts.refl _
  · obtain ⟨hwithin, hmade⟩ := hrecorded outcome (classifyReplay_replay hreplay)
    refine (Receipts.refl _).add _ ?_
    refine ReceiptState.Truthful.resolveDurable (ReceiptState.Truthful.pending.resolveHandled _) rfl
      ⟨rfl, hwithin.1, hwithin.2⟩ hmade
  · exact (Receipts.refl _).add _ ReceiptState.Truthful.pending

theorem receipts_enqueue {slotIndex terminal : Nat} {prepared : PreparedAdmissionV1}
    {command : IngressCommand} :
    Receipts made state.receipts
      (state.enqueue slotIndex terminal prepared command).2.receipts := by
  unfold IngressState.enqueue
  split
  next =>
    split
    next => exact Receipts.refl _
    next => exact receipts_stopAll state rfl
  next => exact receipts_stopAll state rfl

theorem receipts_rollbackPreparation {slotIndex : Nat} :
    Receipts made state.receipts (state.rollbackPreparation slotIndex).receipts := by
  unfold IngressState.rollbackPreparation
  split
  next => exact Receipts.refl _
  next slot _ => exact Receipts.stop slot.terminal

theorem receipts_takeNext : state.takeNext.2.receipts = state.receipts := by
  unfold IngressState.takeNext
  split
  next =>
    dsimp only
    split
    next => rfl
    next =>
      split
      next => rfl
      next => split <;> rfl
  next =>
    dsimp only
    split
    next => rfl
    next => split <;> rfl

theorem receipts_preparePublication {slotIndex : Nat} {admission : CanonicalAdmission} :
    (state.preparePublication slotIndex admission).2.receipts = state.receipts := by
  unfold IngressState.preparePublication
  split
  next =>
    split
    next => split <;> rfl
    next => rfl
  next => rfl

theorem receipts_completeHandled (hbalanced : state.Balanced) {slotIndex : Nat}
    {admission : CanonicalAdmission} {append : AppendIdentity}
    {preparation : PreparedPublication} :
    Receipts made state.receipts
      (state.completeHandled slotIndex admission append preparation).2.receipts := by
  unfold IngressState.completeHandled
  split
  next => exact receipts_stopAll state rfl
  next slot hslot =>
    split
    next => exact receipts_stopAll state rfl
    next =>
      have hknown := (hbalanced.sound slotIndex slot hslot).receipt
      have hreceipt := hbalanced.receipt hslot
      dsimp only
      split
      next =>
        refine (Receipts.refl _).resolve hknown ?_ ?_
        · rw [hreceipt]
          exact ReceiptState.later_resolveHandled append
        · rw [hreceipt]
          exact fun h => h.resolveHandled append
      next => exact receipts_stopAll _ rfl

/-- What the checks of a batch leave of an entry. -/
structure EntryWaits (committed : ManifestCommit) (entry : DurableBatchEntry) (slot : Slot) :
    Prop where
  phase : slot.phase = .awaitingDurability
  append : slot.append = some entry.append
  covered : DurableCommit.Covered ⟨entry.append, committed⟩

theorem entryWaits_of_valid {committed : ManifestCommit} {entry : DurableBatchEntry}
    (h : state.batchEntryValid committed.durableCutoff entry = true) :
    ∃ slot, state.slot? entry.slot = some slot ∧ EntryWaits committed entry slot := by
  unfold batchEntryValid at h
  split at h
  next => cases h
  next slot hslot =>
    split at h
    next => cases h
    next append happend =>
      simp only [decide_eq_true_eq] at h
      obtain ⟨hphase, rfl, -, hjournal, hsequence, hoffset, -⟩ := h
      exact ⟨slot, hslot, hphase, happend, hjournal, hsequence, hoffset⟩

/-- The state behind one entry of a batch. -/
def finishEntry (state : IngressState) (committed : ManifestCommit) (entry : DurableBatchEntry)
    (slot : Slot) : IngressState :=
  let next := { state.setSlot entry.slot none with
    reservedBytes := state.reservedBytes - slot.reservation }
  next.setReceipt slot.terminal
    ((state.receipt slot.terminal).resolveDurable ⟨entry.append, committed⟩).2

/-- A waiting entry is finished, and the batch goes on behind it. -/
theorem finishBatch_cons {committed : ManifestCommit} {entry : DurableBatchEntry}
    {rest : List DurableBatchEntry} {slot : Slot} (hbalanced : state.Balanced)
    (hslot : state.slot? entry.slot = some slot) (hwaits : EntryWaits committed entry slot) :
    finishBatch committed state (entry :: rest) =
      finishBatch committed (state.finishEntry committed entry slot) rest := by
  have hreceipt := hbalanced.receipt hslot
  simp only [finishBatch, hslot, hwaits.append, Option.getD_some]
  simp [finishEntry, hreceipt, ReceiptState.resolveDurable]

theorem finishEntry_balanced {committed : ManifestCommit} {entry : DurableBatchEntry}
    {slot : Slot} (hbalanced : state.Balanced) (hslot : state.slot? entry.slot = some slot)
    (hwaits : EntryWaits committed entry slot) :
    (state.finishEntry committed entry slot).Balanced := by
  refine hbalanced.release hslot (by simp [hwaits.phase]) rfl rfl rfl rfl ?_
  intro other hne
  exact List.getElem?_set_ne (Ne.symm hne)

theorem receipts_finishEntry {committed : ManifestCommit} {entry : DurableBatchEntry}
    {slot : Slot} (hbalanced : state.Balanced) (hslot : state.slot? entry.slot = some slot)
    (hwaits : EntryWaits committed entry slot) (hmade : made committed) :
    Receipts made state.receipts (state.finishEntry committed entry slot).receipts := by
  have hknown := (hbalanced.sound entry.slot slot hslot).receipt
  have hreceipt := hbalanced.receipt hslot
  refine (Receipts.refl _).resolve hknown ?_ ?_
  · rw [hreceipt]
    exact ReceiptState.later_resolveDurable _
  · rw [hreceipt]
    intro htruthful
    refine htruthful.resolveDurable ?_ hwaits.covered hmade
    simp [hwaits.append]

/-- The entries behind a finished one still wait, in slots of their own. -/
theorem finishEntry_slot? {committed : ManifestCommit} {entry other : DurableBatchEntry}
    {slot : Slot} (hslot : state.slot? entry.slot = some slot) (hne : other.slot ≠ entry.slot) :
    (state.finishEntry committed entry slot).slot? other.slot = state.slot? other.slot := by
  have hset : (state.setSlot entry.slot none).slot? other.slot =
      if entry.slot = other.slot then none else state.slot? other.slot := slot?_setSlot hslot
  rw [if_neg (Ne.symm hne)] at hset
  exact hset

/-- A batch whose entries wait in slots of their own resolves all of them. -/
theorem finishBatch_complete {committed : ManifestCommit} {entries : List DurableBatchEntry}
    (hbalanced : state.Balanced) (hdistinct : (entries.map (·.slot)).Nodup)
    (hwaits : ∀ entry ∈ entries, ∃ slot, state.slot? entry.slot = some slot ∧
      EntryWaits committed entry slot) (hmade : made committed) :
    ∃ next, finishBatch committed state entries = (true, next) ∧ next.retry = state.retry ∧
      Receipts made state.receipts next.receipts ∧
      ∀ entry ∈ entries, ∀ slot, state.slot? entry.slot = some slot →
        ∃ receipt, next.receipts[slot.terminal]? = some receipt ∧
          receipt.durable = some (.durable ⟨entry.append, committed⟩) := by
  induction entries generalizing state with
  | nil => exact ⟨state, rfl, rfl, Receipts.refl _, by simp⟩
  | cons entry rest ih =>
    obtain ⟨slot, hslot, hwait⟩ := hwaits entry List.mem_cons_self
    obtain ⟨hfirst, hdistinct⟩ := List.nodup_cons.mp hdistinct
    have hne : ∀ other ∈ rest, other.slot ≠ entry.slot := by
      intro other hother hsame
      exact hfirst (List.mem_map.mpr ⟨other, hother, hsame⟩)
    have hgrows := receipts_finishEntry hbalanced hslot hwait hmade
    obtain ⟨next, hfinish, hretry, hreceipts, hresolved⟩ :=
      ih (finishEntry_balanced hbalanced hslot hwait) hdistinct (by
        intro other hother
        rw [finishEntry_slot? hslot (hne other hother)]
        exact hwaits other (List.mem_cons_of_mem _ hother))
    refine ⟨next, ?_, hretry, hgrows.trans hreceipts, ?_⟩
    · rw [finishBatch_cons hbalanced hslot hwait]
      exact hfinish
    · intro other hother own hown
      rcases List.mem_cons.mp hother with rfl | hother
      · rw [hslot] at hown
        cases hown
        have hknown := (List.getElem?_eq_some_iff.mp (hbalanced.sound _ _ hslot).receipt).1
        have hreceipt := hbalanced.receipt hslot
        obtain ⟨later, hlater, hkeeps⟩ := hreceipts.later (List.getElem?_set_self hknown)
        refine ⟨later, hlater, hkeeps.durable _ ?_⟩
        simp [hreceipt, ReceiptState.resolveDurable]
      · rw [← finishEntry_slot? hslot (hne other hother)] at hown
        exact hresolved other hother own hown

/-- Increasing sequences keep the entries of a batch in different slots. -/
theorem slots_nodup {committed : ManifestCommit} {entries : List DurableBatchEntry}
    (hincreasing : (entries.map (·.pendingOutcome)).Pairwise
      fun a b => a.appendSequence < b.appendSequence)
    (hwaits : ∀ entry ∈ entries, ∃ slot, state.slot? entry.slot = some slot ∧
      EntryWaits committed entry slot) : (entries.map (·.slot)).Nodup := by
  rw [List.pairwise_map] at hincreasing
  unfold List.Nodup
  rw [List.pairwise_map]
  refine List.Pairwise.imp_of_mem ?_ hincreasing
  intro a b ha hb hlt hsame
  obtain ⟨slot, hslot, hwait⟩ := hwaits a ha
  obtain ⟨other, hother, hwait'⟩ := hwaits b hb
  rw [hsame, hother] at hslot
  cases hslot
  have happend : a.append = b.append :=
    Option.some.inj (hwait.append.symm.trans hwait'.append)
  change a.append.appendSequence < b.append.appendSequence at hlt
  rw [happend] at hlt
  exact absurd hlt (Fin.lt_irrefl _)

/-- A batch stops everything, or its checks have left entries that wait in slots of their own. -/
theorem completeDurableBatch_checked {entries : List DurableBatchEntry}
    {committed : ManifestCommit} {retry : RetryStateSnapshot} :
    state.completeDurableBatch entries committed retry = (false, state.stopAll) ∨
      state.completeDurableBatch entries committed retry =
        finishBatch committed { state with retry := retry } entries ∧
      state.retry.verifiesTransition retry (entries.map (·.pendingOutcome)) committed = true ∧
      (entries.map (·.slot)).Nodup ∧
      ∀ entry ∈ entries, ∃ slot, ({ state with retry := retry } : IngressState).slot? entry.slot =
        some slot ∧ EntryWaits committed entry slot := by
  unfold IngressState.completeDurableBatch
  split
  next => exact Or.inl rfl
  next =>
    split
    next => exact Or.inl rfl
    next hverified =>
      rw [not_not] at hverified
      split
      next => exact Or.inl rfl
      next hvalid =>
        rw [not_not, List.all_eq_true] at hvalid
        obtain ⟨reference, -, hadvance⟩ := RetryStateSnapshot.verifiesTransition_ok.mp hverified
        obtain ⟨-, -, -, hentries, -⟩ := RetryStateSnapshot.advance_ok hadvance
        have hwaits : ∀ entry ∈ entries, ∃ slot,
            ({ state with retry := retry } : IngressState).slot? entry.slot = some slot ∧
              EntryWaits committed entry slot := by
          intro entry hentry
          exact entryWaits_of_valid (hvalid entry hentry)
        have hdistinct := slots_nodup (advanceEntries_increasing hentries).2 hwaits
        exact Or.inr ⟨rfl, hverified, hdistinct, hwaits⟩

/-- A batch is accepted as a whole: all of its receipts are resolved and the new projection is
in place, or everything stops with the projection that was there. -/
theorem completeDurableBatch_whole (hbalanced : state.Balanced)
    {entries : List DurableBatchEntry} {committed : ManifestCommit} {retry : RetryStateSnapshot}
    (hmade : made committed) :
    (∃ next, state.completeDurableBatch entries committed retry = (true, next) ∧
      next.retry = retry ∧ Receipts made state.receipts next.receipts ∧
      state.retry.verifiesTransition retry (entries.map (·.pendingOutcome)) committed = true ∧
      ∀ entry ∈ entries, ∃ slot receipt, state.slot? entry.slot = some slot ∧
        next.receipts[slot.terminal]? = some receipt ∧
        receipt.durable = some (.durable ⟨entry.append, committed⟩)) ∨
    state.completeDurableBatch entries committed retry = (false, state.stopAll) := by
  obtain hstopped | ⟨heq, hverified, hdistinct, hwaits⟩ :=
    @completeDurableBatch_checked state entries committed retry
  · exact Or.inr hstopped
  · have hsame : ({ state with retry := retry } : IngressState).Balanced :=
      hbalanced.unchanged rfl rfl rfl rfl ⟨[], by simp⟩
    obtain ⟨next, hfinish, hretry, hreceipts, hresolved⟩ :=
      finishBatch_complete hsame hdistinct hwaits hmade
    refine Or.inl ⟨next, heq.trans hfinish, hretry, hreceipts, hverified, ?_⟩
    intro entry hentry
    obtain ⟨slot, hslot, -⟩ := hwaits entry hentry
    obtain ⟨receipt, hreceipt, hdurable⟩ := hresolved entry hentry slot hslot
    exact ⟨slot, receipt, hslot, hreceipt, hdurable⟩

/-- A stop reports no durability that was not reported before. -/
theorem stopAll_durable {index : Nat} {receipt : ReceiptState} {commit : DurableCommit}
    (hreceipt : state.stopAll.receipts[index]? = some receipt)
    (hdurable : receipt.durable = some (.durable commit)) :
    ∃ before, state.receipts[index]? = some before ∧ before.durable = some (.durable commit) := by
  have hfold : ∀ (slots : List Slot) (receipts : List ReceiptState) (receipt : ReceiptState),
      (slots.foldl (fun receipts slot => receipts.modify slot.terminal (·.resolveStopped))
        receipts)[index]? = some receipt → receipt.durable = some (.durable commit) →
      ∃ before, receipts[index]? = some before ∧ before.durable = some (.durable commit) := by
    intro slots
    induction slots with
    | nil => exact fun _ receipt hreceipt hdurable => ⟨receipt, hreceipt, hdurable⟩
    | cons slot rest ih =>
      intro receipts receipt hreceipt hdurable
      obtain ⟨middle, hmiddle, hdurable⟩ := ih _ receipt hreceipt hdurable
      rw [List.getElem?_modify] at hmiddle
      obtain ⟨before, hbefore, rfl⟩ := Option.map_eq_some_iff.mp hmiddle
      refine ⟨before, hbefore, ?_⟩
      split at hdurable
      next =>
        cases hstage : before.durable with
        | none => simp [ReceiptState.resolveStopped, hstage] at hdurable
        | some outcome => simpa [ReceiptState.resolveStopped, hstage] using hdurable
      next => exact hdurable
  exact hfold _ _ receipt hreceipt hdurable

end IngressState

end Historian
