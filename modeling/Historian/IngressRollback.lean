import Historian.IngressDrain

namespace Historian

open Checks IngressState

namespace IngressState

variable {state next : IngressState} {terminal : Nat}

/-- The first half of a rollback, under the lock: the slot and its bytes are given up. -/
def releaseSlot (state : IngressState) (slotIndex : Nat) (slot : Slot) : IngressState :=
  { state.setSlot slotIndex none with reservedBytes := state.reservedBytes - slot.reservation }

/-- The second half, behind the lock: the receipt is stopped. -/
def stopReceipt (state : IngressState) (terminal : Nat) : IngressState :=
  { state with receipts := state.receipts.modify terminal (·.resolveStopped) }

/-! The stop of a receipt changes nothing else. -/

theorem slots_stopReceipt : (state.stopReceipt terminal).slots = state.slots := rfl

theorem slot?_stopReceipt (slotIndex : Nat) :
    (state.stopReceipt terminal).slot? slotIndex = state.slot? slotIndex := rfl

theorem queue_stopReceipt : (state.stopReceipt terminal).queue = state.queue := rfl

theorem retry_stopReceipt : (state.stopReceipt terminal).retry = state.retry := rfl

theorem latest_stopReceipt : (state.stopReceipt terminal).latest = state.latest := rfl

theorem storeId_stopReceipt : (state.stopReceipt terminal).storeId = state.storeId := rfl

theorem length_stopReceipt :
    (state.stopReceipt terminal).receipts.length = state.receipts.length :=
  List.length_modify _ _ _

theorem rollbackPreparation_halves {slotIndex : Nat} {slot : Slot}
    (h : state.slot? slotIndex = some slot) :
    state.rollbackPreparation slotIndex =
      (state.releaseSlot slotIndex slot).stopReceipt slot.terminal := by
  unfold rollbackPreparation
  rw [h]
  rfl

theorem modify_append_left {α : Type} {f : α → α} {index : Nat} {xs : List α} (ys : List α)
    (h : index < xs.length) : (xs ++ ys).modify index f = xs.modify index f ++ ys := by
  apply List.ext_getElem?
  intro other
  rw [List.getElem?_modify, List.getElem?_append, List.getElem?_append, List.length_modify,
    List.getElem?_modify]
  by_cases hother : other < xs.length
  · rw [if_pos hother, if_pos hother]
  · have hne : index ≠ other := by omega
    rw [if_neg hother, if_neg hother]
    simp [hne]

theorem modify_comm {α : Type} {f : α → α} {index other : Nat} (xs : List α) :
    (xs.modify index f).modify other f = (xs.modify other f).modify index f := by
  by_cases hsame : index = other
  · rw [hsame]
  · exact List.modify_modify_ne f f xs hsame

theorem stopReceipts_modify (slots : List (Option Slot)) (receipts : List ReceiptState) :
    stopReceipts slots (receipts.modify terminal (·.resolveStopped)) =
      (stopReceipts slots receipts).modify terminal (·.resolveStopped) := by
  unfold stopReceipts
  induction slots.filterMap id generalizing receipts with
  | nil => rfl
  | cons slot rest ih =>
    rw [List.foldl_cons, List.foldl_cons, modify_comm]
    exact ih _

theorem stopAll_stopReceipt (state : IngressState) (terminal : Nat) :
    (state.stopReceipt terminal).stopAll = state.stopAll.stopReceipt terminal := by
  unfold stopAll stopReceipt
  rw [stopReceipts_modify]

theorem receipt_stopReceipt {other : Nat} (h : other ≠ terminal) :
    (state.stopReceipt terminal).receipt other = state.receipt other := by
  unfold receipt stopReceipt
  rw [List.getD_eq_getElem?_getD, List.getD_eq_getElem?_getD,
    List.getElem?_modify_ne _ _ (Ne.symm h)]

theorem setReceipt_stopReceipt (state : IngressState) {other : Nat} (receipt : ReceiptState)
    (h : other ≠ terminal) : (state.stopReceipt terminal).setReceipt other receipt =
      (state.setReceipt other receipt).stopReceipt terminal := by
  have hreceipts : (state.receipts.modify terminal (·.resolveStopped)).set other receipt =
      (state.receipts.set other receipt).modify terminal (·.resolveStopped) := by
    apply List.ext_getElem?
    intro index
    rw [List.getElem?_set, List.getElem?_modify, List.getElem?_modify, List.getElem?_set,
      List.length_modify]
    by_cases hother : other = index
    · rw [if_pos hother, if_pos hother, ← hother]
      simp [Ne.symm h]
    · rw [if_neg hother, if_neg hother]
  unfold setReceipt stopReceipt
  rw [hreceipts]

/-- A receipt that no slot carries is not looked at by a submission. -/
theorem reserve_stopReceipt (h : terminal < state.receipts.length) (command : IngressCommand)
    (measured : Except JournalV1Error Nat) :
    (state.stopReceipt terminal).reserve command measured =
      ((state.reserve command measured).1,
        (state.reserve command measured).2.stopReceipt terminal) := by
  have hrefusal : (state.stopReceipt terminal).refusal command = state.refusal command := rfl
  unfold reserve
  rw [hrefusal]
  cases state.refusal command with
  | some => rfl
  | none =>
    cases measured with
    | error => rfl
    | ok frameLen =>
      dsimp only
      rw [slots_stopReceipt, retry_stopReceipt]
      cases classifySlots command.admission.retry state.slots with
      | some known => cases known <;> rfl
      | none =>
        cases state.retry.classify command.admission.retry with
        | replay outcome =>
          simp only [replayed, stopReceipt, List.length_modify]
          rw [modify_append_left _ h]
        | expired => rfl
        | conflict => rfl
        | fresh =>
          dsimp only
          unfold reserveFresh
          have hcount : (state.stopReceipt terminal).activeCount = state.activeCount := rfl
          have hroom : (state.stopReceipt terminal).canReserve command.priority frameLen =
            state.canReserve command.priority frameLen := rfl
          rw [hcount, hroom, slots_stopReceipt, length_stopReceipt]
          split
          next => rfl
          next =>
            split
            next => rfl
            next =>
              split
              next => rfl
              next =>
                simp only [stopReceipt, setSlot]
                rw [modify_append_left _ h]

theorem enqueue_stopReceipt (slotIndex receipt : Nat) (prepared : PreparedAdmissionV1)
    (command : IngressCommand) :
    (state.stopReceipt terminal).enqueue slotIndex receipt prepared command =
      ((state.enqueue slotIndex receipt prepared command).1,
        (state.enqueue slotIndex receipt prepared command).2.stopReceipt terminal) := by
  unfold enqueue
  rw [slot?_stopReceipt, queue_stopReceipt]
  split
  next =>
    split
    next => rfl
    next => rw [stopAll_stopReceipt]
  next => rw [stopAll_stopReceipt]

theorem rollbackPreparation_stopReceipt (state : IngressState) (terminal slotIndex : Nat) :
    (state.stopReceipt terminal).rollbackPreparation slotIndex =
      (state.rollbackPreparation slotIndex).stopReceipt terminal := by
  unfold rollbackPreparation
  rw [slot?_stopReceipt]
  split
  next => rfl
  next => simp only [stopReceipt, setSlot, modify_comm]

theorem takeNext_stopReceipt (state : IngressState) (terminal : Nat) :
    (state.stopReceipt terminal).takeNext =
      (state.takeNext.1, state.takeNext.2.stopReceipt terminal) := by
  unfold takeNext
  rw [queue_stopReceipt]
  split
  next slotIndex queue _ =>
    have hslot : ({ state.stopReceipt terminal with queue := queue } : IngressState).slot?
      slotIndex = ({ state with queue := queue } : IngressState).slot? slotIndex := rfl
    dsimp only
    rw [hslot]
    split
    next => rfl
    next =>
      split
      next => rfl
      next =>
        split
        next => rfl
        next => rfl
  next queue _ =>
    have hcount : ({ state.stopReceipt terminal with queue := queue } : IngressState).activeCount =
      ({ state with queue := queue } : IngressState).activeCount := rfl
    have hclosed : (state.stopReceipt terminal).closed = state.closed := rfl
    have hrequested : (state.stopReceipt terminal).barrierRequested = state.barrierRequested := rfl
    dsimp only
    rw [hcount, hclosed, hrequested]
    split
    next => rfl
    next =>
      split
      next => rfl
      next => rfl

theorem preparePublication_stopReceipt (state : IngressState) (terminal slotIndex : Nat)
    (admission : CanonicalAdmission) :
    (state.stopReceipt terminal).preparePublication slotIndex admission =
      ((state.preparePublication slotIndex admission).1,
        (state.preparePublication slotIndex admission).2.stopReceipt terminal) := by
  unfold preparePublication
  rw [slot?_stopReceipt, latest_stopReceipt]
  split
  next =>
    split
    next =>
      split
      next => rfl
      next => rfl
    next => rfl
  next => rfl

theorem completeHandled_stopReceipt (hfree : ¬state.Carried terminal) (slotIndex : Nat)
    (admission : CanonicalAdmission) (append : AppendIdentity) (preparation : PreparedPublication) :
    (state.stopReceipt terminal).completeHandled slotIndex admission append preparation =
      ((state.completeHandled slotIndex admission append preparation).1,
        (state.completeHandled slotIndex admission append preparation).2.stopReceipt terminal) := by
  unfold completeHandled
  rw [slot?_stopReceipt, latest_stopReceipt]
  split
  next => rw [stopAll_stopReceipt]
  next slot hsome =>
    have hother : slot.terminal ≠ terminal :=
      fun hsame => hfree ⟨slotIndex, slot, hsome, hsame⟩
    let handled := { slot with
      retainedAdmission := some admission
      append := some append
      phase := .awaitingDurability }
    let written := { state.setSlot slotIndex (some handled) with
      latest := state.latest.commit preparation }
    split
    next => rw [stopAll_stopReceipt]
    next =>
      dsimp only
      rw [receipt_stopReceipt hother]
      split
      next => exact congrArg (Prod.mk true) (setReceipt_stopReceipt written _ hother)
      next => exact congrArg (Prod.mk false) (stopAll_stopReceipt written terminal)

theorem finishBatch_stopReceipt {committed : ManifestCommit} {entries : List DurableBatchEntry}
    (hfree : ¬state.Carried terminal) :
    finishBatch committed (state.stopReceipt terminal) entries =
      ((finishBatch committed state entries).1,
        (finishBatch committed state entries).2.stopReceipt terminal) := by
  induction entries generalizing state with
  | nil => rfl
  | cons entry rest ih =>
    unfold finishBatch
    rw [slot?_stopReceipt]
    split
    next => rw [stopAll_stopReceipt]
    next slot hsome =>
      have hother : slot.terminal ≠ terminal :=
        fun hsame => hfree ⟨entry.slot, slot, hsome, hsame⟩
      dsimp only
      rw [receipt_stopReceipt hother]
      split
      next =>
        have hreleased : ¬((state.releaseSlot entry.slot slot).setReceipt slot.terminal
            ((state.receipt slot.terminal).resolveDurable
              ⟨slot.append.getD entry.append, committed⟩).2).Carried terminal := by
          rintro ⟨index, other, hindex, hterminal⟩
          refine hfree ⟨index, other, ?_, hterminal⟩
          have hset : (state.setSlot entry.slot none).slot? index = _ := slot?_setSlot hsome
          change (state.setSlot entry.slot none).slot? index = some other at hindex
          rw [hset] at hindex
          split at hindex
          next => cases hindex
          next => exact hindex
        have hrest := ih hreleased
        rw [← setReceipt_stopReceipt _ _ hother] at hrest
        exact hrest
      next =>
        exact congrArg (Prod.mk false)
          (stopAll_stopReceipt (state.releaseSlot entry.slot slot) terminal)

theorem completeDurableBatch_stopReceipt (hfree : ¬state.Carried terminal)
    (entries : List DurableBatchEntry) (committed : ManifestCommit) (retry : RetryStateSnapshot) :
    (state.stopReceipt terminal).completeDurableBatch entries committed retry =
      ((state.completeDurableBatch entries committed retry).1,
        (state.completeDurableBatch entries committed retry).2.stopReceipt terminal) := by
  have hentries :
      entries.all ((state.stopReceipt terminal).batchEntryValid committed.durableCutoff) =
        entries.all (state.batchEntryValid committed.durableCutoff) := by
    refine List.all_congr rfl ?_
    intro entry
    unfold batchEntryValid
    rw [slot?_stopReceipt]
    split
    next => rfl
    next slot hsome =>
      have hother : slot.terminal ≠ terminal :=
        fun hsame => hfree ⟨entry.slot, slot, hsome, hsame⟩
      rw [receipt_stopReceipt hother]
  unfold completeDurableBatch
  rw [storeId_stopReceipt, retry_stopReceipt, hentries]
  split
  next => rw [stopAll_stopReceipt]
  next =>
    split
    next => rw [stopAll_stopReceipt]
    next =>
      split
      next => rw [stopAll_stopReceipt]
      next => exact @finishBatch_stopReceipt { state with retry := retry } _ _ _ hfree

/-- The receipt is given out, and no slot carries it any more. -/
structure Released (state : IngressState) (terminal : Nat) : Prop where
  known : terminal < state.receipts.length
  free : ¬state.Carried terminal

theorem Released.mono (h : state.Released terminal)
    (grows : state.receipts.length ≤ next.receipts.length)
    (slots : ∀ slotIndex slot, next.slot? slotIndex = some slot →
      ∃ old, state.slot? slotIndex = some old ∧ old.terminal = slot.terminal) :
    next.Released terminal := by
  refine ⟨Nat.lt_of_lt_of_le h.known grows, ?_⟩
  rintro ⟨slotIndex, slot, hslot, hterminal⟩
  obtain ⟨old, hold, hsame⟩ := slots slotIndex slot hslot
  exact h.free ⟨slotIndex, old, hold, hsame.trans hterminal⟩

theorem Released.unchanged (h : state.Released terminal) (slots : next.slots = state.slots)
    (grows : state.receipts.length ≤ next.receipts.length) : next.Released terminal := by
  refine h.mono grows ?_
  intro slotIndex slot hslot
  unfold IngressState.slot? at hslot ⊢
  rw [slots] at hslot
  exact ⟨slot, hslot, rfl⟩

/-- One slot is given up or rewritten under its receipt. -/
theorem Released.written (h : state.Released terminal) {slotIndex : Nat} {old : Slot}
    {new : Option Slot} (held : state.slot? slotIndex = some old)
    (written : next.slots = state.slots.set slotIndex new)
    (same : ∀ slot ∈ new, slot.terminal = old.terminal)
    (grows : state.receipts.length ≤ next.receipts.length) : next.Released terminal := by
  refine h.mono grows ?_
  intro j slot hslot
  have hset : (state.setSlot slotIndex new).slot? j = _ := slot?_setSlot held
  have hj : next.slot? j = if slotIndex = j then new else state.slot? j := by
    unfold IngressState.slot? at hset ⊢
    rw [written]
    exact hset
  rw [hj] at hslot
  split at hslot
  next hsame =>
    rw [← hsame]
    exact ⟨old, held, (same slot hslot).symm⟩
  next => exact ⟨slot, hslot, rfl⟩

theorem Released.stopAll (h : state.Released terminal) : state.stopAll.Released terminal := by
  refine h.mono (Nat.le_of_eq (length_stopAll state).symm) ?_
  intro slotIndex slot hslot
  rw [slot?_stopAll] at hslot
  cases hslot

theorem Released.reserve (h : state.Released terminal) (command : IngressCommand)
    (measured : Except JournalV1Error Nat) :
    (state.reserve command measured).2.Released terminal := by
  have hgrows := (@extends_reserve state command measured).length_le
  cases hreserve : state.reserve command measured with
  | mk reservation next =>
    rw [hreserve] at hgrows
    obtain ⟨_, -, rfl | ⟨outcome, -, rfl⟩⟩ | ⟨slotIndex, frameLen, -, -, htakes, rfl⟩ :=
      reserve_next hreserve
    · exact h
    · exact h.unchanged rfl hgrows
    · refine ⟨Nat.lt_of_lt_of_le h.known hgrows, ?_⟩
      rintro ⟨j, slot, hslot, hterminal⟩
      change (state.setSlot slotIndex (some (state.freshSlot command frameLen))).slot? j =
        some slot at hslot
      unfold IngressState.slot? IngressState.setSlot at hslot
      rw [slot?_of_set] at hslot
      split at hslot
      next =>
        -- the fresh slot carries a receipt of its own
        cases hslot
        exact absurd hterminal (Nat.ne_of_gt h.known)
      next => exact h.free ⟨j, slot, hslot, hterminal⟩

theorem Released.preparePublication (h : state.Released terminal) (slotIndex : Nat)
    (admission : CanonicalAdmission) :
    (state.preparePublication slotIndex admission).2.Released terminal := by
  have hreceipts : (state.preparePublication slotIndex admission).2.receipts = state.receipts :=
    receipts_preparePublication
  have hgrows := Nat.le_of_eq (congrArg List.length hreceipts).symm
  cases hprepare : state.preparePublication slotIndex admission with
  | mk preparation next =>
    rw [hprepare] at hgrows
    exact h.unchanged (preparePublication_cases hprepare).1 hgrows

theorem Released.finishBatch {committed : ManifestCommit} {entries : List DurableBatchEntry}
    (h : state.Released terminal) : (finishBatch committed state entries).2.Released terminal := by
  induction entries generalizing state with
  | nil => exact h
  | cons entry rest ih =>
    unfold IngressState.finishBatch
    split
    next => exact h.stopAll
    next slot hslot =>
      have hreleased : (state.releaseSlot entry.slot slot).Released terminal :=
        h.written hslot rfl (by simp) (Nat.le_refl _)
      dsimp only
      split
      next => exact ih (hreleased.unchanged rfl (Nat.le_of_eq (List.length_set ..).symm))
      next => exact hreleased.stopAll

/-- A receipt that is given out stays away from the slots. -/
theorem Released.section (h : state.Released terminal) (hsection : state.Section next) :
    next.Released terminal := by
  cases hsection with
  | unchanged => exact h
  | reserve command measured => exact h.reserve command measured
  | enqueue slotIndex receipt prepared command =>
    unfold IngressState.enqueue
    split
    next slot hslot =>
      split
      next => exact h.written hslot rfl (by simp) (Nat.le_refl _)
      next => exact h.stopAll
    next => exact h.stopAll
  | rollbackPreparation slotIndex =>
    unfold IngressState.rollbackPreparation
    split
    next => exact h
    next slot hslot =>
      exact h.written hslot rfl (by simp) (Nat.le_of_eq (List.length_modify ..).symm)
  | takeNext =>
    have hreceipts : state.takeNext.2.receipts = state.receipts := receipts_takeNext
    have hgrows := Nat.le_of_eq (congrArg List.length hreceipts).symm
    cases htake : state.takeNext with
    | mk work next =>
      rw [htake] at hgrows
      obtain ⟨_, _, slot, -, -, -, hrewrites⟩ | ⟨-, hslots, -, -⟩ := takeNext_cases htake
      · exact h.written hrewrites.held hrewrites.written (by simp) hgrows
      · exact h.unchanged hslots hgrows
  | preparePublication slotIndex admission => exact h.preparePublication slotIndex admission
  | unpublished slotIndex admission => exact (h.preparePublication slotIndex admission).stopAll
  | completeHandled slotIndex admission append preparation =>
    unfold IngressState.completeHandled
    split
    next => exact h.stopAll
    next slot hslot =>
      split
      next => exact h.stopAll
      next =>
        have hwritten : ({ state.setSlot slotIndex (some { slot with
            retainedAdmission := some admission
            append := some append
            phase := .awaitingDurability }) with
          latest := state.latest.commit preparation } : IngressState).Released terminal :=
            h.written hslot rfl (by simp) (Nat.le_refl _)
        dsimp only
        split
        next => exact hwritten.unchanged rfl (Nat.le_of_eq (List.length_set ..).symm)
        next => exact hwritten.stopAll
  | completeDurableBatch entries committed retry =>
    unfold IngressState.completeDurableBatch
    split
    next => exact h.stopAll
    next =>
      split
      next => exact h.stopAll
      next =>
        split
        next => exact h.stopAll
        next =>
          have hsame : ({ state with retry := retry } : IngressState).Released terminal :=
            h.unchanged rfl (Nat.le_refl _)
          exact hsame.finishBatch
  | closeAdmission => exact h.unchanged rfl (Nat.le_refl _)
  | stopAll => exact h.stopAll

/-- A section does the same before and behind the stop of a receipt that no slot carries. -/
theorem Section.stopReceipt (h : state.Section next) (hreleased : state.Released terminal) :
    (state.stopReceipt terminal).Section (next.stopReceipt terminal) := by
  cases h with
  | unchanged => exact .unchanged
  | reserve command measured =>
    have hsection : (state.stopReceipt terminal).Section
        ((state.stopReceipt terminal).reserve command measured).2 := .reserve command measured
    rw [reserve_stopReceipt hreleased.known] at hsection
    exact hsection
  | enqueue slotIndex receipt prepared command =>
    have hsection : (state.stopReceipt terminal).Section
        ((state.stopReceipt terminal).enqueue slotIndex receipt prepared command).2 :=
      .enqueue slotIndex receipt prepared command
    rw [enqueue_stopReceipt] at hsection
    exact hsection
  | rollbackPreparation slotIndex =>
    rw [← rollbackPreparation_stopReceipt]
    exact .rollbackPreparation slotIndex
  | takeNext =>
    have hsection : (state.stopReceipt terminal).Section (state.stopReceipt terminal).takeNext.2 :=
      .takeNext
    rw [takeNext_stopReceipt] at hsection
    exact hsection
  | preparePublication slotIndex admission =>
    have hsection : (state.stopReceipt terminal).Section
        ((state.stopReceipt terminal).preparePublication slotIndex admission).2 :=
      .preparePublication slotIndex admission
    rw [preparePublication_stopReceipt] at hsection
    exact hsection
  | unpublished slotIndex admission =>
    have hsection : (state.stopReceipt terminal).Section
        ((state.stopReceipt terminal).preparePublication slotIndex admission).2.stopAll :=
      .unpublished slotIndex admission
    rw [preparePublication_stopReceipt, stopAll_stopReceipt] at hsection
    exact hsection
  | completeHandled slotIndex admission append preparation =>
    have hsection : (state.stopReceipt terminal).Section
        ((state.stopReceipt terminal).completeHandled slotIndex admission append preparation).2 :=
      .completeHandled slotIndex admission append preparation
    rw [completeHandled_stopReceipt hreleased.free] at hsection
    exact hsection
  | completeDurableBatch entries committed retry =>
    have hsection : (state.stopReceipt terminal).Section
        ((state.stopReceipt terminal).completeDurableBatch entries committed retry).2 :=
      .completeDurableBatch entries committed retry
    rw [completeDurableBatch_stopReceipt hreleased.free] at hsection
    exact hsection
  | closeAdmission => exact .closeAdmission
  | stopAll =>
    rw [← stopAll_stopReceipt]
    exact .stopAll

theorem sections_stopReceipt (h : Relation.ReflTransGen Section state next)
    (hreleased : state.Released terminal) :
    Relation.ReflTransGen Section (state.stopReceipt terminal) (next.stopReceipt terminal) ∧
      next.Released terminal := by
  induction h with
  | refl => exact ⟨.refl, hreleased⟩
  | tail _ hsection ih =>
    obtain ⟨hsections, hmiddle⟩ := ih
    exact ⟨hsections.tail (hsection.stopReceipt hmiddle), hmiddle.section hsection⟩

/-- A rollback counts as one step although its receipt is stopped behind the lock: whatever
sections other threads run between the two halves lead to the same state behind the rollback. -/
theorem rollback_is_one_step (hbalanced : state.Balanced) {slotIndex : Nat} {slot : Slot}
    (hslot : state.slot? slotIndex = some slot)
    (hbetween : Relation.ReflTransGen Section (state.releaseSlot slotIndex slot) next) :
    Relation.ReflTransGen Section (state.rollbackPreparation slotIndex)
      (next.stopReceipt slot.terminal) := by
  rw [rollbackPreparation_halves hslot]
  refine (sections_stopReceipt hbetween ⟨hbalanced.terminal_lt hslot, ?_⟩).1
  rintro ⟨j, other, hother, hterminal⟩
  have hset : (state.setSlot slotIndex none).slot? j = _ := slot?_setSlot hslot
  change (state.setSlot slotIndex none).slot? j = some other at hother
  rw [hset] at hother
  split at hother
  next => cases hother
  next hne => exact hne (hbalanced.terminals _ _ _ _ hslot hother hterminal.symm)

end IngressState

end Historian
