import Historian.IngressDurable

namespace Historian

open Checks IngressState

/-- Both stages are decided. -/
def ReceiptState.Resolved (receipt : ReceiptState) : Prop :=
  receipt.handled ≠ none ∧ receipt.durable ≠ none

/-- A receipt keeps its place and what it reports. -/
def Extends (before after : List ReceiptState) : Prop :=
  ∀ (index : Nat) (receipt : ReceiptState), before[index]? = some receipt →
    ∃ later, after[index]? = some later ∧ receipt.Later later

theorem ReceiptState.Resolved.later {old new : ReceiptState} (h : old.Resolved)
    (hlater : old.Later new) : new.Resolved := by
  obtain ⟨handled, hhandled⟩ := Option.ne_none_iff_exists'.mp h.1
  obtain ⟨durable, hdurable⟩ := Option.ne_none_iff_exists'.mp h.2
  refine ⟨?_, ?_⟩
  · rw [hlater.handled _ hhandled]
    simp
  · rw [hlater.durable _ hdurable]
    simp

theorem ReceiptState.resolved_resolveStopped (receipt : ReceiptState) :
    receipt.resolveStopped.Resolved := by simp [ReceiptState.Resolved, ReceiptState.resolveStopped]

theorem Receipts.extends {made : ManifestCommit → Prop} {before after : List ReceiptState}
    (h : Receipts made before after) : Extends before after :=
  fun _ _ hreceipt => h.later hreceipt

theorem Extends.refl (receipts : List ReceiptState) : Extends receipts receipts :=
  fun _ receipt hreceipt => ⟨receipt, hreceipt, .refl receipt⟩

theorem Extends.trans {first second third : List ReceiptState} (h : Extends first second)
    (h' : Extends second third) : Extends first third := by
  intro index receipt hreceipt
  obtain ⟨middle, hmiddle, hlater⟩ := h index receipt hreceipt
  obtain ⟨last, hlast, hlater'⟩ := h' index middle hmiddle
  exact ⟨last, hlast, hlater.trans hlater'⟩

theorem Extends.append (receipts more : List ReceiptState) :
    Extends receipts (receipts ++ more) := by
  intro index receipt hreceipt
  have hlt := (List.getElem?_eq_some_iff.mp hreceipt).1
  exact ⟨receipt, (List.getElem?_append_left hlt).trans hreceipt, .refl receipt⟩

theorem Extends.length_le {before after : List ReceiptState} (h : Extends before after) :
    before.length ≤ after.length := by
  rcases Nat.eq_zero_or_pos before.length with hzero | hpos
  · omega
  · obtain ⟨later, hlater, -⟩ := h (before.length - 1) _
      (List.getElem?_eq_getElem (show before.length - 1 < before.length by omega))
    have hlt := (List.getElem?_eq_some_iff.mp hlater).1
    omega

namespace IngressState

/-- Some occupied slot carries this receipt. -/
def Carried (state : IngressState) (index : Nat) : Prop :=
  ∃ slotIndex slot, state.slot? slotIndex = some slot ∧ slot.terminal = index

/-- A receipt is resolved, or a slot that is still occupied will resolve it. -/
def Answered (state : IngressState) : Prop :=
  ∀ (index : Nat) (receipt : ReceiptState), state.receipts[index]? = some receipt →
    receipt.Resolved ∨ state.Carried index

/-- The locked sections of the shared state, and what a dropped command does to it. -/
inductive Section (state : IngressState) : IngressState → Prop
  | unchanged : Section state state
  | reserve (command : IngressCommand) (measured : Except JournalV1Error Nat) :
    Section state (state.reserve command measured).2
  | enqueue (slotIndex terminal : Nat) (prepared : PreparedAdmissionV1)
      (command : IngressCommand) :
    Section state (state.enqueue slotIndex terminal prepared command).2
  | rollbackPreparation (slotIndex : Nat) :
    Section state (state.rollbackPreparation slotIndex)
  | takeNext : Section state state.takeNext.2
  | preparePublication (slotIndex : Nat) (admission : CanonicalAdmission) :
    Section state (state.preparePublication slotIndex admission).2
  | unpublished (slotIndex : Nat) (admission : CanonicalAdmission) :
    Section state (state.preparePublication slotIndex admission).2.stopAll
  | completeHandled (slotIndex : Nat) (admission : CanonicalAdmission) (append : AppendIdentity)
      (preparation : PreparedPublication) :
    Section state (state.completeHandled slotIndex admission append preparation).2
  | completeDurableBatch (entries : List DurableBatchEntry) (committed : ManifestCommit)
      (retry : RetryStateSnapshot) :
    Section state (state.completeDurableBatch entries committed retry).2
  | closeAdmission : Section state state.closeAdmission
  | stopAll : Section state state.stopAll

end IngressState

/-- Every step of the runtime runs one section at most. -/
theorem Runtime.step_section {runtime next : Runtime} {event : RuntimeEvent}
    (hstep : runtime.step event = some next) : runtime.shared.Section next.shared := by
  cases event with
  | enter command =>
    cases hstep
    exact .unchanged
  | check submit =>
    simp only [Runtime.step] at hstep
    split at hstep
    next =>
      cases hstep
      unfold Runtime.check
      split
      next => exact .unchanged
      next => exact .unchanged
    next => cases hstep
  | measure submit =>
    simp only [Runtime.step] at hstep
    split at hstep
    next =>
      cases hstep
      exact .unchanged
    next => cases hstep
  | reserve submit =>
    simp only [Runtime.step] at hstep
    split at hstep
    next command measured _ =>
      cases hstep
      have hsection : runtime.shared.Section (runtime.shared.reserve command measured).2 :=
        .reserve command measured
      unfold Runtime.reserve
      split
      next hreserve =>
        rw [hreserve] at hsection
        exact hsection
      next hreserve =>
        rw [hreserve] at hsection
        exact hsection
    next => cases hstep
  | prepare submit =>
    simp only [Runtime.step] at hstep
    split at hstep
    next =>
      cases hstep
      exact .unchanged
    next => cases hstep
  | enqueue submit =>
    simp only [Runtime.step] at hstep
    split at hstep
    next command slotIndex terminal prepared _ =>
      cases hstep
      exact .enqueue slotIndex terminal prepared command
    next => cases hstep
  | rollback submit =>
    simp only [Runtime.step] at hstep
    split at hstep
    next command slotIndex error _ =>
      cases hstep
      exact .rollbackPreparation slotIndex
    next => cases hstep
  | takeNext =>
    cases hstep
    rw [(takeNext_shared runtime).1]
    exact .takeNext
  | append inFlight identity =>
    simp only [Runtime.step] at hstep
    split at hstep
    next =>
      cases hstep
      exact .unchanged
    next => cases hstep
  | publish inFlight =>
    simp only [Runtime.step] at hstep
    split at hstep
    next slotIndex admission append _ =>
      cases hstep
      unfold Runtime.publish
      split
      next hprepare =>
        have hsection : runtime.shared.Section
            (runtime.shared.preparePublication slotIndex admission).2 :=
          .preparePublication slotIndex admission
        rw [hprepare] at hsection
        exact hsection
      next hprepare =>
        have hsection : runtime.shared.Section
            (runtime.shared.preparePublication slotIndex admission).2.stopAll :=
          .unpublished slotIndex admission
        rw [hprepare] at hsection
        exact hsection
    next => cases hstep
  | completeHandled inFlight =>
    simp only [Runtime.step] at hstep
    split at hstep
    next slotIndex admission append preparation _ =>
      cases hstep
      exact .completeHandled slotIndex admission append preparation
    next => cases hstep
  | drop inFlight =>
    simp only [Runtime.step] at hstep
    split at hstep
    next =>
      cases hstep
      exact .stopAll
    next => cases hstep
  | completeDurableBatch entries committed retry =>
    cases hstep
    exact .completeDurableBatch entries committed retry
  | closeAdmission =>
    cases hstep
    exact .closeAdmission
  | stop =>
    cases hstep
    exact .stopAll

namespace IngressState

variable {state next : IngressState}

theorem length_stopReceipts (slots : List (Option Slot)) (receipts : List ReceiptState) :
    (stopReceipts slots receipts).length = receipts.length := by
  unfold stopReceipts
  induction slots.filterMap id generalizing receipts with
  | nil => rfl
  | cons slot rest ih =>
    rw [List.foldl_cons, ih, List.length_modify]

theorem length_stopAll (state : IngressState) :
    state.stopAll.receipts.length = state.receipts.length := length_stopReceipts _ _

/-- A stop resolves the receipt of every slot. -/
theorem resolved_stopReceipts {slots : List (Option Slot)} {receipts : List ReceiptState}
    {index : Nat} (h : ∀ receipt, receipts[index]? = some receipt →
      receipt.Resolved ∨ ∃ slot ∈ slots.filterMap id, slot.terminal = index) :
    ∀ receipt, (stopReceipts slots receipts)[index]? = some receipt → receipt.Resolved := by
  unfold stopReceipts
  generalize slots.filterMap id = items at h ⊢
  induction items generalizing receipts with
  | nil =>
    intro receipt hreceipt
    rcases h receipt hreceipt with hresolved | ⟨slot, hslot, -⟩
    · exact hresolved
    · cases hslot
  | cons slot rest ih =>
    refine ih ?_
    intro receipt hreceipt
    rw [List.getElem?_modify] at hreceipt
    obtain ⟨before, hbefore, rfl⟩ := Option.map_eq_some_iff.mp hreceipt
    by_cases hsame : slot.terminal = index
    · rw [if_pos hsame]
      exact Or.inl (ReceiptState.resolved_resolveStopped before)
    · rw [if_neg hsame]
      rcases h before hbefore with hresolved | ⟨other, hother, hterminal⟩
      · exact Or.inl hresolved
      · rcases List.mem_cons.mp hother with hhead | htail
        · rw [hhead] at hterminal
          exact absurd hterminal hsame
        · exact Or.inr ⟨other, htail, hterminal⟩

theorem Answered.resolved_stopAll (h : state.Answered) {index : Nat} {receipt : ReceiptState}
    (hreceipt : state.stopAll.receipts[index]? = some receipt) : receipt.Resolved := by
  refine resolved_stopReceipts ?_ receipt hreceipt
  intro before hbefore
  rcases h index before hbefore with hresolved | ⟨slotIndex, slot, hslot, hterminal⟩
  · exact Or.inl hresolved
  · exact Or.inr ⟨slot, mem_occupied.mpr ⟨slotIndex, hslot⟩, hterminal⟩

theorem Answered.stopAll (h : state.Answered) : state.stopAll.Answered :=
  fun _ _ hreceipt => Or.inl (h.resolved_stopAll hreceipt)

/-- A section that leaves every receipt with its slot, or resolves it. -/
theorem Answered.carry (h : state.Answered) (grows : Extends state.receipts next.receipts)
    (carried : ∀ slotIndex slot, state.slot? slotIndex = some slot → next.Carried slot.terminal ∨
      ∀ receipt, next.receipts[slot.terminal]? = some receipt → receipt.Resolved)
    (length : next.receipts.length = state.receipts.length) : next.Answered := by
  intro index receipt hreceipt
  have hlt := (List.getElem?_eq_some_iff.mp hreceipt).1
  rw [length] at hlt
  have hbefore := List.getElem?_eq_getElem hlt
  rcases h index _ hbefore with hresolved | ⟨slotIndex, slot, hslot, hterminal⟩
  · obtain ⟨later, hfound, hlater⟩ := grows index _ hbefore
    rw [hreceipt, Option.some.injEq] at hfound
    rw [hfound]
    exact Or.inl (hresolved.later hlater)
  · rcases carried slotIndex slot hslot with hcarried | hresolves
    · rw [hterminal] at hcarried
      exact Or.inr hcarried
    · rw [hterminal] at hresolves
      exact Or.inl (hresolves receipt hreceipt)

/-- A section that rewrites one slot under its receipt. -/
theorem Answered.rewritten (h : state.Answered) {slotIndex : Nat} {old new : Slot}
    (grows : Extends state.receipts next.receipts) (held : state.slot? slotIndex = some old)
    (written : next.slots = state.slots.set slotIndex (some new))
    (same : new.terminal = old.terminal)
    (length : next.receipts.length = state.receipts.length) : next.Answered := by
  refine h.carry grows ?_ length
  intro j slot hslot
  have hj : next.slot? j = if slotIndex = j then some new else state.slot? j := by
    have hset : (state.setSlot slotIndex (some new)).slot? j = _ := slot?_setSlot held
    unfold IngressState.slot? at hset ⊢
    rw [written]
    exact hset
  by_cases hsame : slotIndex = j
  · rw [if_pos hsame] at hj
    rw [← hsame, held, Option.some.injEq] at hslot
    rw [← hslot]
    exact Or.inl ⟨j, new, hj, same⟩
  · rw [if_neg hsame, hslot] at hj
    exact Or.inl ⟨j, slot, hj, rfl⟩

/-- A section that gives up one slot with its receipt resolved. -/
theorem Answered.released (h : state.Answered) {slotIndex : Nat} {old : Slot}
    (grows : Extends state.receipts next.receipts) (held : state.slot? slotIndex = some old)
    (written : next.slots = state.slots.set slotIndex none)
    (resolves : ∀ receipt, next.receipts[old.terminal]? = some receipt → receipt.Resolved)
    (length : next.receipts.length = state.receipts.length) : next.Answered := by
  refine h.carry grows ?_ length
  intro j slot hslot
  have hj : next.slot? j = if slotIndex = j then none else state.slot? j := by
    have hset : (state.setSlot slotIndex none).slot? j = _ := slot?_setSlot held
    unfold IngressState.slot? at hset ⊢
    rw [written]
    exact hset
  by_cases hsame : slotIndex = j
  · rw [← hsame, held, Option.some.injEq] at hslot
    rw [← hslot]
    exact Or.inr resolves
  · rw [if_neg hsame, hslot] at hj
    exact Or.inl ⟨j, slot, hj, rfl⟩

/-- A section that adds one receipt, resolved or with a slot. -/
theorem Answered.added (h : state.Answered) {receipt : ReceiptState}
    (receipts : next.receipts = state.receipts ++ [receipt])
    (kept : ∀ slotIndex slot, state.slot? slotIndex = some slot →
      next.slot? slotIndex = some slot)
    (own : receipt.Resolved ∨ next.Carried state.receipts.length) : next.Answered := by
  intro index found hfound
  rw [receipts, List.getElem?_append] at hfound
  by_cases hlt : index < state.receipts.length
  · rw [if_pos hlt] at hfound
    rcases h index found hfound with hresolved | ⟨slotIndex, slot, hslot, hterminal⟩
    · exact Or.inl hresolved
    · exact Or.inr ⟨slotIndex, slot, kept slotIndex slot hslot, hterminal⟩
  · rw [if_neg hlt, List.getElem?_singleton] at hfound
    split at hfound
    next hlast =>
      cases hfound
      have hindex : index = state.receipts.length := by omega
      rw [hindex]
      exact own
    next => cases hfound

theorem resolved_replayed (state : IngressState) (outcome : RetryReplayOutcome) :
    ∃ receipt : ReceiptState, receipt.Resolved ∧
      (state.replayed outcome).2.receipts = state.receipts ++ [receipt] :=
  ⟨_, ⟨by simp [ReceiptState.resolveHandled, ReceiptState.resolveDurable, ReceiptState.pending],
    by simp [ReceiptState.resolveHandled, ReceiptState.resolveDurable, ReceiptState.pending]⟩, rfl⟩

theorem extends_reserve (command : IngressCommand) (measured : Except JournalV1Error Nat) :
    Extends state.receipts (state.reserve command measured).2.receipts := by
  cases hreserve : state.reserve command measured with
  | mk reservation next =>
    obtain ⟨_, -, rfl | ⟨outcome, -, rfl⟩⟩ | ⟨_, _, -, -, -, rfl⟩ := reserve_next hreserve
    · exact Extends.refl _
    · exact Extends.append _ _
    · exact Extends.append _ _

theorem Answered.reserve (h : state.Answered) (command : IngressCommand)
    (measured : Except JournalV1Error Nat) :
    (state.reserve command measured).2.Answered := by
  cases hreserve : state.reserve command measured with
  | mk reservation next =>
    obtain ⟨_, -, rfl | ⟨outcome, -, rfl⟩⟩ | ⟨slotIndex, frameLen, -, -, htakes, rfl⟩ :=
      reserve_next hreserve
    · exact h
    · obtain ⟨receipt, hresolved, hreceipts⟩ := resolved_replayed state outcome
      exact h.added hreceipts (fun _ _ hslot => hslot) (Or.inl hresolved)
    · have hslot : ∀ j,
          (state.setSlot slotIndex (some (state.freshSlot command frameLen))).slot? j =
          if slotIndex = j then some (state.freshSlot command frameLen) else state.slot? j := by
        intro j
        unfold IngressState.slot? IngressState.setSlot
        rw [slot?_of_set]
        simp [htakes.inRange]
      refine h.added rfl ?_ (Or.inr ⟨slotIndex, _, (hslot slotIndex).trans (if_pos rfl), rfl⟩)
      intro j slot hj
      have hne : slotIndex ≠ j := by
        intro hsame
        rw [← hsame, htakes.wasFree] at hj
        cases hj
      exact (hslot j).trans ((if_neg hne).trans hj)

theorem Answered.enqueue (h : state.Answered) (slotIndex terminal : Nat)
    (prepared : PreparedAdmissionV1) (command : IngressCommand) :
    (state.enqueue slotIndex terminal prepared command).2.Answered := by
  unfold IngressState.enqueue
  split
  next slot hslot =>
    split
    next =>
      exact h.rewritten (Extends.refl _) hslot rfl rfl rfl
    next => exact h.stopAll
  next => exact h.stopAll

theorem Answered.rollbackPreparation (h : state.Answered) (slotIndex : Nat) :
    (state.rollbackPreparation slotIndex).Answered := by
  have hreceipts : Receipts (fun _ => True) state.receipts
      (state.rollbackPreparation slotIndex).receipts := receipts_rollbackPreparation
  unfold IngressState.rollbackPreparation at hreceipts ⊢
  split
  next => exact h
  next slot hslot =>
    rw [hslot] at hreceipts
    refine h.released hreceipts.extends hslot rfl ?_ (List.length_modify ..)
    intro receipt hreceipt
    change (state.receipts.modify slot.terminal _)[slot.terminal]? = _ at hreceipt
    rw [List.getElem?_modify] at hreceipt
    obtain ⟨before, -, rfl⟩ := Option.map_eq_some_iff.mp hreceipt
    rw [if_pos rfl]
    exact ReceiptState.resolved_resolveStopped before

theorem Answered.unchanged (h : state.Answered) (slots : next.slots = state.slots)
    (receipts : next.receipts = state.receipts) : next.Answered := by
  intro index receipt hreceipt
  rw [receipts] at hreceipt
  rcases h index receipt hreceipt with hresolved | ⟨slotIndex, slot, hslot, hterminal⟩
  · exact Or.inl hresolved
  · refine Or.inr ⟨slotIndex, slot, ?_, hterminal⟩
    unfold IngressState.slot? at hslot ⊢
    rw [slots]
    exact hslot

theorem Answered.takeNext (h : state.Answered) : state.takeNext.2.Answered := by
  have hreceipts : state.takeNext.2.receipts = state.receipts := receipts_takeNext
  cases htake : state.takeNext with
  | mk work next =>
    rw [htake] at hreceipts
    obtain ⟨_, _, slot, -, -, -, hrewrites⟩ | ⟨-, hslots, -, -⟩ := takeNext_cases htake
    · refine h.rewritten ?_ hrewrites.held hrewrites.written rfl (congrArg List.length hreceipts)
      dsimp only at hreceipts
      rw [hreceipts]
      exact Extends.refl _
    · exact h.unchanged hslots hreceipts

theorem Answered.preparePublication (h : state.Answered) (slotIndex : Nat)
    (admission : CanonicalAdmission) :
    (state.preparePublication slotIndex admission).2.Answered := by
  have hreceipts : (state.preparePublication slotIndex admission).2.receipts = state.receipts :=
    receipts_preparePublication
  cases hprepare : state.preparePublication slotIndex admission with
  | mk preparation next =>
    rw [hprepare] at hreceipts
    obtain ⟨hslots, -⟩ := preparePublication_cases hprepare
    exact h.unchanged hslots hreceipts

theorem Answered.completeHandled (hbalanced : state.Balanced) (h : state.Answered)
    (slotIndex : Nat) (admission : CanonicalAdmission) (append : AppendIdentity)
    (preparation : PreparedPublication) :
    (state.completeHandled slotIndex admission append preparation).2.Answered := by
  have hgrows : Receipts (fun _ => True) state.receipts
      (state.completeHandled slotIndex admission append preparation).2.receipts :=
    receipts_completeHandled hbalanced
  unfold IngressState.completeHandled at hgrows ⊢
  split
  next => exact h.stopAll
  next slot hslot =>
    rw [hslot] at hgrows
    dsimp only at hgrows
    split
    next => exact h.stopAll
    next hvalid =>
      rw [if_neg hvalid] at hgrows
      have hreceipt := hbalanced.receipt hslot
      have happend : slot.append = none := by
        simp only [not_or, not_not] at hvalid
        exact (hbalanced.sound slotIndex slot hslot).no_append (by simp [hvalid.1])
      simp only [hreceipt, happend, Option.map_none, ReceiptState.resolveHandled, ne_eq,
        not_true_eq_false, ↓reduceIte] at hgrows ⊢
      exact h.rewritten hgrows.extends hslot rfl rfl (List.length_set ..)

/-- One entry of a batch is finished. -/
theorem Answered.finishEntry (hbalanced : state.Balanced) (h : state.Answered)
    {committed : ManifestCommit} {entry : DurableBatchEntry} {slot : Slot}
    (hslot : state.slot? entry.slot = some slot) (hwaits : EntryWaits committed entry slot) :
    (state.finishEntry committed entry slot).Answered := by
  have hgrows : Receipts (fun _ => True) state.receipts
      (state.finishEntry committed entry slot).receipts :=
    receipts_finishEntry hbalanced hslot hwaits trivial
  refine h.released hgrows.extends hslot rfl ?_ (List.length_set ..)
  intro receipt hreceipt
  have hknown := (List.getElem?_eq_some_iff.mp (hbalanced.sound _ _ hslot).receipt).1
  change (state.receipts.set slot.terminal _)[slot.terminal]? = _ at hreceipt
  rw [List.getElem?_set_self hknown, Option.some.injEq] at hreceipt
  rw [← hreceipt, hbalanced.receipt hslot, hwaits.append]
  simp [ReceiptState.Resolved, ReceiptState.resolveDurable]

/-- The entries of a batch are finished one after the other. -/
theorem Answered.finishBatch {committed : ManifestCommit} {entries : List DurableBatchEntry}
    (hbalanced : state.Balanced) (h : state.Answered)
    (hdistinct : (entries.map (·.slot)).Nodup)
    (hwaits : ∀ entry ∈ entries, ∃ slot, state.slot? entry.slot = some slot ∧
      EntryWaits committed entry slot) : (finishBatch committed state entries).2.Answered := by
  induction entries generalizing state with
  | nil => exact h
  | cons entry rest ih =>
    obtain ⟨slot, hslot, hwait⟩ := hwaits entry List.mem_cons_self
    obtain ⟨hfirst, hdistinct⟩ := List.nodup_cons.mp hdistinct
    rw [finishBatch_cons hbalanced hslot hwait]
    refine ih (finishEntry_balanced hbalanced hslot hwait) (h.finishEntry hbalanced hslot hwait)
      hdistinct ?_
    intro other hother
    have hne : other.slot ≠ entry.slot := by
      intro hsame
      exact hfirst (List.mem_map.mpr ⟨other, hother, hsame⟩)
    rw [finishEntry_slot? hslot hne]
    exact hwaits other (List.mem_cons_of_mem _ hother)

theorem Answered.completeDurableBatch (hbalanced : state.Balanced) (h : state.Answered)
    (entries : List DurableBatchEntry) (committed : ManifestCommit) (retry : RetryStateSnapshot) :
    (state.completeDurableBatch entries committed retry).2.Answered := by
  obtain hstopped | ⟨heq, -, hdistinct, hwaits⟩ :=
    @completeDurableBatch_checked state entries committed retry
  · rw [hstopped]
    exact h.stopAll
  · rw [heq]
    have hsame : ({ state with retry := retry } : IngressState).Balanced :=
      hbalanced.unchanged rfl rfl rfl rfl ⟨[], by simp⟩
    exact Answered.finishBatch hsame (h.unchanged rfl rfl) hdistinct hwaits

/-- Every section leaves a receipt resolved or with a slot. -/
theorem Answered.section (hbalanced : state.Balanced) (h : state.Answered)
    (hsection : state.Section next) : next.Answered := by
  cases hsection with
  | unchanged => exact h
  | reserve command measured => exact h.reserve command measured
  | enqueue slotIndex terminal prepared command =>
    exact h.enqueue slotIndex terminal prepared command
  | rollbackPreparation slotIndex => exact h.rollbackPreparation slotIndex
  | takeNext => exact h.takeNext
  | preparePublication slotIndex admission => exact h.preparePublication slotIndex admission
  | unpublished slotIndex admission => exact (h.preparePublication slotIndex admission).stopAll
  | completeHandled slotIndex admission append preparation =>
    exact h.completeHandled hbalanced slotIndex admission append preparation
  | completeDurableBatch entries committed retry =>
    exact h.completeDurableBatch hbalanced entries committed retry
  | closeAdmission => exact h.unchanged rfl rfl
  | stopAll => exact h.stopAll

/-- Every section keeps the receipts and what they report. -/
theorem extends_section (hbalanced : state.Balanced) (hsection : state.Section next) :
    Extends state.receipts next.receipts := by
  have hreceipts : (∃ command measured, next = (state.reserve command measured).2) ∨
      Receipts (fun _ => True) state.receipts next.receipts := by
    cases hsection with
    | unchanged => exact Or.inr (Receipts.refl _)
    | reserve command measured => exact Or.inl ⟨command, measured, rfl⟩
    | enqueue => exact Or.inr receipts_enqueue
    | rollbackPreparation => exact Or.inr receipts_rollbackPreparation
    | takeNext =>
      rw [receipts_takeNext]
      exact Or.inr (Receipts.refl _)
    | preparePublication =>
      rw [receipts_preparePublication]
      exact Or.inr (Receipts.refl _)
    | unpublished => exact Or.inr (receipts_stopAll _ receipts_preparePublication)
    | completeHandled => exact Or.inr (receipts_completeHandled hbalanced)
    | completeDurableBatch entries committed retry =>
      obtain ⟨after, heq, -, hreceipts, -⟩ | heq := @completeDurableBatch_whole (fun _ => True)
        state hbalanced entries committed retry trivial
      · rw [heq]
        exact Or.inr hreceipts
      · rw [heq]
        exact Or.inr (receipts_stopAll _ rfl)
    | closeAdmission => exact Or.inr (Receipts.refl _)
    | stopAll => exact Or.inr (receipts_stopAll _ rfl)
  rcases hreceipts with ⟨command, measured, rfl⟩ | hreceipts
  · exact extends_reserve command measured
  · exact hreceipts.extends

theorem closed_section (hsection : state.Section next) (hclosed : state.closed = true) :
    next.closed = true := by
  cases hsection with
  | unchanged => exact hclosed
  | reserve command measured =>
    cases hreserve : state.reserve command measured with
    | mk reservation next =>
      obtain ⟨_, -, rfl | ⟨outcome, -, rfl⟩⟩ | ⟨_, _, -, -, -, rfl⟩ := reserve_next hreserve
      · exact hclosed
      · exact hclosed
      · exact hclosed
  | enqueue slotIndex terminal prepared command =>
    unfold IngressState.enqueue
    split
    next =>
      split
      next => exact hclosed
      next => rfl
    next => rfl
  | rollbackPreparation slotIndex =>
    unfold IngressState.rollbackPreparation
    split
    next => exact hclosed
    next => exact hclosed
  | takeNext =>
    cases htake : state.takeNext with
    | mk work next =>
      obtain ⟨_, _, _, -, -, -, hrewrites⟩ | ⟨-, -, -, hsame⟩ := takeNext_cases htake
      · exact hrewrites.closed.trans hclosed
      · exact hsame.trans hclosed
  | preparePublication slotIndex admission =>
    cases hprepare : state.preparePublication slotIndex admission with
    | mk preparation next => exact (preparePublication_cases hprepare).2.2.trans hclosed
  | unpublished slotIndex admission => rfl
  | completeHandled slotIndex admission append preparation =>
    cases hhandled : state.completeHandled slotIndex admission append preparation with
    | mk done next =>
      obtain ⟨hstopped, -⟩ | ⟨_, -, hrewrites⟩ := completeHandled_cases hhandled
      · exact hstopped.1
      · exact hrewrites.closed.trans hclosed
  | completeDurableBatch entries committed retry =>
    cases hbatch : state.completeDurableBatch entries committed retry with
    | mk done next =>
      obtain ⟨hstopped, -⟩ | hcommits := completeDurableBatch_cases hbatch
      · exact hstopped.1
      · rcases hcommits.slots with hstopped | ⟨hsame, -⟩
        · exact hstopped.1
        · exact hsame.trans hclosed
  | closeAdmission => rfl
  | stopAll => rfl

/-- A later state publishes what was sealed, or nothing any more. -/
structure StaysSealed (state next : IngressState) : Prop where
  isSealed : next.latest.isSealed = true
  current : next.latest.current = state.latest.current ∨ next.HasStopped

theorem StaysSealed.same (h : state.latest.isSealed = true) (same : next.latest = state.latest) :
    state.StaysSealed next := by
  refine ⟨?_, Or.inl ?_⟩
  · rw [same]
    exact h
  · rw [same]

theorem StaysSealed.stopAll (before : IngressState) : state.StaysSealed before.stopAll :=
  ⟨rfl, Or.inr rfl⟩

theorem StaysSealed.trans {first second third : IngressState} (h : first.StaysSealed second)
    (h' : second.StaysSealed third) : first.StaysSealed third := by
  refine ⟨h'.isSealed, ?_⟩
  rcases h'.current with hsame | hstopped
  · rcases h.current with hfirst | hstopped
    · exact Or.inl (hsame.trans hfirst)
    · exact Or.inr (hsame.trans hstopped)
  · exact Or.inr hstopped

theorem staysSealed_finishBatch {committed : ManifestCommit} {entries : List DurableBatchEntry}
    (h : state.latest.isSealed = true) :
    state.StaysSealed (finishBatch committed state entries).2 := by
  induction entries generalizing state with
  | nil => exact .same h rfl
  | cons entry rest ih =>
    unfold finishBatch
    split
    next => exact .stopAll _
    next slot hslot =>
      dsimp only
      split
      next =>
        refine StaysSealed.trans ?_ (ih h)
        exact .same h rfl
      next => exact .stopAll _

/-- Behind the seal nothing is published any more. -/
theorem staysSealed_section (hsection : state.Section next) (h : state.latest.isSealed = true) :
    state.StaysSealed next := by
  have hplan : ∀ candidate, state.latest.plan candidate = none := by
    intro candidate
    unfold LatestState.plan
    split
    next => rfl
    next => rw [if_pos h]
  have hprepare : ∀ slotIndex admission,
      (state.preparePublication slotIndex admission).2 = state := by
    intro slotIndex admission
    unfold preparePublication
    rw [hplan]
    split
    next => split <;> rfl
    next => rfl
  cases hsection with
  | unchanged => exact .same h rfl
  | reserve command measured =>
    cases hreserve : state.reserve command measured with
    | mk reservation next =>
      obtain ⟨_, -, rfl | ⟨outcome, -, rfl⟩⟩ | ⟨_, _, -, -, -, rfl⟩ := reserve_next hreserve
      · exact .same h rfl
      · exact .same h rfl
      · exact .same h rfl
  | enqueue slotIndex terminal prepared command =>
    unfold IngressState.enqueue
    split
    next =>
      split
      next => exact .same h rfl
      next => exact .stopAll _
    next => exact .stopAll _
  | rollbackPreparation slotIndex =>
    unfold IngressState.rollbackPreparation
    split
    next => exact .same h rfl
    next => exact .same h rfl
  | takeNext =>
    have hseal : state.latest.seal = (false, state.latest) := if_pos (Or.inr h)
    unfold IngressState.takeNext
    split
    next =>
      dsimp only
      split
      next => exact .same h rfl
      next =>
        split
        next => exact .same h rfl
        next => split <;> exact .same h rfl
    next =>
      dsimp only
      rw [hseal]
      split
      next => exact .same h rfl
      next => split <;> exact .same h rfl
  | preparePublication slotIndex admission =>
    rw [hprepare]
    exact .same h rfl
  | unpublished slotIndex admission => exact .stopAll _
  | completeHandled slotIndex admission append preparation =>
    have hrefused : state.latest.canComplete preparation = false := by
      unfold LatestState.canComplete
      rw [h]
    unfold IngressState.completeHandled
    split
    next => exact .stopAll _
    next =>
      rw [if_pos (Or.inr (by rw [hrefused]; decide))]
      exact .stopAll _
  | completeDurableBatch entries committed retry =>
    obtain hstopped | ⟨heq, -⟩ := @completeDurableBatch_checked state entries committed retry
    · rw [hstopped]
      exact .stopAll _
    · rw [heq]
      have hinstalled : state.StaysSealed { state with retry := retry } := .same h rfl
      exact hinstalled.trans (staysSealed_finishBatch h)
  | closeAdmission => exact .same h rfl
  | stopAll => exact .stopAll _

/-- The last answer of the queue: nothing is outstanding, and the latest observations are sealed
by it and by nothing before. -/
theorem takeNext_drained (h : state.takeNext.1 = .drained) :
    state.closed = true ∧ (∀ slotIndex, state.slot? slotIndex = none) ∧
      state.latest.current ≠ none ∧ state.latest.isSealed = false ∧
      state.takeNext.2.latest = { state.latest with isSealed := true } := by
  unfold IngressState.takeNext at h ⊢
  split at h
  next =>
    dsimp only at h
    split at h
    next => cases h
    next =>
      split at h
      next => cases h
      next => split at h <;> cases h
  next hpop =>
    dsimp only at h
    split at h
    next hempty =>
      dsimp only at h
      split at h
      next hseal =>
        have hslots : ∀ slotIndex, state.slot? slotIndex = none := by
          intro slotIndex
          rcases hslot : state.slot? slotIndex with _ | slot
          · rfl
          · have hmem : slot ∈ state.occupied := mem_occupied.mpr ⟨slotIndex, hslot⟩
            have hlength := List.length_pos_of_mem hmem
            have hzero : state.occupied.length = 0 := hempty.2
            omega
        have hopen : ¬(state.latest.current = none ∨ state.latest.isSealed = true) := by
          intro hshut
          have hrefused : state.latest.seal = (false, state.latest) := if_pos hshut
          rw [hrefused] at hseal
          cases hseal
        have hsealed : state.latest.seal = (true, { state.latest with isSealed := true }) :=
          if_neg hopen
        obtain ⟨hcurrent, hunsealed⟩ := not_or.mp hopen
        refine ⟨hempty.1, hslots, hcurrent, by simpa using hunsealed, ?_⟩
        dsimp only
        rw [if_pos hempty, hsealed]
      next => cases h
    next => split at h <;> cases h

theorem classifySlots_terminal {qualification : RetryQualification} {slots : List (Option Slot)}
    {terminal : Nat} (h : classifySlots qualification slots = some (some terminal)) :
    ∃ slot ∈ slots.filterMap id, slot.terminal = terminal := by
  induction slots with
  | nil => cases h
  | cons entry rest ih =>
    cases entry with
    | none => exact ih h
    | some head =>
      rw [show (some head :: rest).filterMap id = head :: rest.filterMap id from rfl]
      simp only [classifySlots] at h
      split at h
      next =>
        cases h
        exact ⟨head, List.mem_cons_self, rfl⟩
      next => cases h
      next =>
        obtain ⟨slot, hslot, hterminal⟩ := ih h
        exact ⟨slot, List.mem_cons_of_mem _ hslot, hterminal⟩

theorem Balanced.terminal_lt {state : IngressState} (h : state.Balanced) {slotIndex : Nat}
    {slot : Slot} (hslot : state.slot? slotIndex = some slot) :
    slot.terminal < state.receipts.length :=
  (List.getElem?_eq_some_iff.mp (h.sound slotIndex slot hslot).receipt).1

theorem reserve_closed {state : IngressState} (h : state.closed = true) (command : IngressCommand)
    (measured : Except JournalV1Error Nat) :
    state.reserve command measured = (.finished (TrySubmitError.of .closed command), state) := by
  unfold IngressState.reserve refusal
  rw [if_pos h]

/-- A submission that the second section accepts is given a receipt that is known. -/
theorem Balanced.reserve_known {state next : IngressState} (h : state.Balanced)
    {command : IngressCommand} {measured : Except JournalV1Error Nat} {submission : Submission}
    (hreserve : state.reserve command measured = (.finished (.ok submission), next)) :
    submission.receipt < next.receipts.length := by
  unfold IngressState.reserve at hreserve
  split at hreserve
  next result hrefusal =>
    unfold refusal at hrefusal
    split at hrefusal
    next =>
      cases hrefusal
      cases hreserve
    next =>
      split at hrefusal
      next =>
        cases hrefusal
        cases hreserve
      next => cases hrefusal
  next =>
    split at hreserve
    next => cases hreserve
    next frameLen =>
      split at hreserve
      next terminal hclassify =>
        cases hreserve
        obtain ⟨slot, hslot, rfl⟩ := classifySlots_terminal hclassify
        obtain ⟨slotIndex, hslot⟩ := mem_occupied.mp hslot
        exact h.terminal_lt hslot
      next => cases hreserve
      next =>
        split at hreserve
        next outcome _ =>
          cases hreserve
          obtain ⟨receipt, -, hreceipts⟩ := resolved_replayed state outcome
          have hlength := congrArg List.length hreceipts
          rw [List.length_append, List.length_singleton] at hlength
          change state.receipts.length < (state.replayed outcome).2.receipts.length
          omega
        next => cases hreserve
        next => cases hreserve
        next =>
          unfold reserveFresh at hreserve
          split at hreserve
          next => cases hreserve
          next =>
            split at hreserve
            next => cases hreserve
            next => split at hreserve <;> cases hreserve

end IngressState

/-- What one step does to the submission that takes it. -/
inductive SubmitMove (state next : IngressState) : SubmitPhase → SubmitPhase → Prop
  | refused (command : IngressCommand) (error : TrySubmitError) :
    SubmitMove state next (.entered command) (.finished (.error error))
  | admitted (command : IngressCommand) :
    SubmitMove state next (.entered command) (.admitted command)
  | measured (command : IngressCommand) (measured : Except JournalV1Error Nat) :
    SubmitMove state next (.admitted command) (.measured command measured)
  | answered (command : IngressCommand) (measured : Except JournalV1Error Nat)
      (result : SubmitResult) (h : state.reserve command measured = (.finished result, next)) :
    SubmitMove state next (.measured command measured) (.finished result)
  | reserved (command : IngressCommand) (measured : Except JournalV1Error Nat)
      (slotIndex terminal frameLen : Nat)
      (h : state.reserve command measured = (.reserved slotIndex terminal frameLen, next)) :
    SubmitMove state next (.measured command measured)
      (.reserved command slotIndex terminal frameLen)
  | prepared (command : IngressCommand) (slotIndex terminal frameLen : Nat)
      (encoded : PreparedAdmissionV1) :
    SubmitMove state next (.reserved command slotIndex terminal frameLen)
      (.prepared command slotIndex terminal encoded)
  | unprepared (command : IngressCommand) (slotIndex terminal frameLen : Nat)
      (error : JournalV1Error) :
    SubmitMove state next (.reserved command slotIndex terminal frameLen)
      (.rollback command slotIndex error)
  | enqueued (command : IngressCommand) (slotIndex terminal : Nat)
      (encoded : PreparedAdmissionV1)
      (h : next = (state.enqueue slotIndex terminal encoded command).2) :
    SubmitMove state next (.prepared command slotIndex terminal encoded)
      (.finished (state.enqueue slotIndex terminal encoded command).1)
  | rolledBack (command : IngressCommand) (slotIndex : Nat) (error : JournalV1Error)
      (reason : TrySubmitError) :
    SubmitMove state next (.rollback command slotIndex error) (.finished (.error reason))

/-- A submission whose next section may put it into the queue. -/
def SubmitPhase.CanEnqueue : SubmitPhase → Prop
  | .reserved _ _ _ _ => True
  | .prepared _ _ _ _ => True
  | _ => False

namespace Runtime

/-- A step moves one submission at most. -/
theorem step_submits {runtime next : Runtime} {event : RuntimeEvent}
    (hstep : runtime.step event = some next) :
    next.submits = runtime.submits ∨
    (∃ command, next.submits = runtime.submits ++ [.entered command]) ∨
    ∃ submit old new, runtime.submits[submit]? = some old ∧
      next.submits = runtime.submits.set submit new ∧
      SubmitMove runtime.shared next.shared old new := by
  cases event with
  | enter command =>
    cases hstep
    exact Or.inr (Or.inl ⟨command, rfl⟩)
  | check submit =>
    simp only [Runtime.step] at hstep
    split at hstep
    next command hsubmit =>
      cases hstep
      unfold Runtime.check IngressState.refusal
      split
      next result hrefusal =>
        refine Or.inr (Or.inr ⟨submit, _, _, hsubmit, rfl, ?_⟩)
        split at hrefusal
        next =>
          cases hrefusal
          exact .refused command _
        next =>
          split at hrefusal
          next =>
            cases hrefusal
            exact .refused command _
          next => cases hrefusal
      next => exact Or.inr (Or.inr ⟨submit, _, _, hsubmit, rfl, .admitted command⟩)
    next => cases hstep
  | measure submit =>
    simp only [Runtime.step] at hstep
    split at hstep
    next command hsubmit =>
      cases hstep
      exact Or.inr (Or.inr ⟨submit, _, _, hsubmit, rfl, .measured command _⟩)
    next => cases hstep
  | reserve submit =>
    simp only [Runtime.step] at hstep
    split at hstep
    next command measured hsubmit =>
      cases hstep
      unfold Runtime.reserve
      split
      next result shared hreserve =>
        exact Or.inr (Or.inr ⟨submit, _, _, hsubmit, rfl,
          .answered command measured result hreserve⟩)
      next slotIndex terminal frameLen shared hreserve =>
        exact Or.inr (Or.inr ⟨submit, _, _, hsubmit, rfl,
          .reserved command measured slotIndex terminal frameLen hreserve⟩)
    next => cases hstep
  | prepare submit =>
    simp only [Runtime.step] at hstep
    split at hstep
    next command slotIndex terminal frameLen hsubmit =>
      cases hstep
      refine Or.inr (Or.inr ⟨submit, _, _, hsubmit, rfl, ?_⟩)
      split
      next encoded _ =>
        split
        next => exact .prepared command slotIndex terminal frameLen encoded
        next => exact .unprepared command slotIndex terminal frameLen _
      next => exact .unprepared command slotIndex terminal frameLen _
    next => cases hstep
  | enqueue submit =>
    simp only [Runtime.step] at hstep
    split at hstep
    next command slotIndex terminal encoded hsubmit =>
      cases hstep
      exact Or.inr (Or.inr ⟨submit, _, _, hsubmit, rfl,
        .enqueued command slotIndex terminal encoded rfl⟩)
    next => cases hstep
  | rollback submit =>
    simp only [Runtime.step] at hstep
    split at hstep
    next command slotIndex error hsubmit =>
      cases hstep
      exact Or.inr (Or.inr ⟨submit, _, _, hsubmit, rfl, .rolledBack command slotIndex error _⟩)
    next => cases hstep
  | takeNext =>
    cases hstep
    unfold Runtime.takeNext
    exact Or.inl (by split <;> rfl)
  | append inFlight identity =>
    simp only [Runtime.step] at hstep
    split at hstep
    next =>
      cases hstep
      exact Or.inl rfl
    next => cases hstep
  | publish inFlight =>
    simp only [Runtime.step] at hstep
    split at hstep
    next =>
      cases hstep
      unfold Runtime.publish
      exact Or.inl (by split <;> rfl)
    next => cases hstep
  | completeHandled inFlight =>
    simp only [Runtime.step] at hstep
    split at hstep
    next =>
      cases hstep
      exact Or.inl rfl
    next => cases hstep
  | drop inFlight =>
    simp only [Runtime.step] at hstep
    split at hstep
    next =>
      cases hstep
      exact Or.inl rfl
    next => cases hstep
  | completeDurableBatch entries committed retry =>
    cases hstep
    exact Or.inl rfl
  | closeAdmission =>
    cases hstep
    exact Or.inl rfl
  | stop =>
    cases hstep
    exact Or.inl rfl

/-- The phase of a submission is the one before, that of a new call, or the one it moved to. -/
theorem submit_before {runtime next : Runtime} {event : RuntimeEvent}
    (hstep : runtime.step event = some next) {submit : Nat} {phase : SubmitPhase}
    (h : next.submits[submit]? = some phase) :
    runtime.submits[submit]? = some phase ∨ (∃ command, phase = .entered command) ∨
      ∃ old, runtime.submits[submit]? = some old ∧
        SubmitMove runtime.shared next.shared old phase := by
  obtain hsame | ⟨command, hnew⟩ | ⟨moved, old, new, hold, hset, hmove⟩ := step_submits hstep
  · rw [hsame] at h
    exact Or.inl h
  · rw [hnew, List.getElem?_append] at h
    split at h
    next => exact Or.inl h
    next =>
      have hmem := List.mem_singleton.mp (List.mem_of_getElem? h)
      exact Or.inr (Or.inl ⟨command, hmem⟩)
  · rw [hset, List.getElem?_set] at h
    by_cases hsubmit : moved = submit
    · rw [if_pos hsubmit] at h
      split at h
      next =>
        cases h
        rw [hsubmit] at hold
        exact Or.inr (Or.inr ⟨old, hold, hmove⟩)
      next => cases h
    · rw [if_neg hsubmit] at h
      exact Or.inl h

/-- The answer to a submission stays. -/
theorem finished_step {runtime next : Runtime} {event : RuntimeEvent}
    (hstep : runtime.step event = some next) {submit : Nat} {result : SubmitResult}
    (h : runtime.submits[submit]? = some (.finished result)) :
    next.submits[submit]? = some (.finished result) := by
  obtain hsame | ⟨command, hnew⟩ | ⟨moved, old, new, hold, hset, hmove⟩ := step_submits hstep
  · rw [hsame]
    exact h
  · have hlt := (List.getElem?_eq_some_iff.mp h).1
    rw [hnew, List.getElem?_append_left hlt]
    exact h
  · have hne : moved ≠ submit := by
      intro hsame
      rw [hsame, h] at hold
      cases hold
      cases hmove
    rw [hset, List.getElem?_set_ne hne]
    exact h

theorem finished_run {runtime final : Runtime} {events : List RuntimeEvent}
    (hrun : runtime.run events = some final) {submit : Nat} {result : SubmitResult}
    (h : runtime.submits[submit]? = some (.finished result)) :
    final.submits[submit]? = some (.finished result) := by
  induction events generalizing runtime with
  | nil =>
    cases hrun
    exact h
  | cons event rest ih =>
    simp only [Runtime.run] at hrun
    split at hrun
    next next hstep => exact ih hrun (finished_step hstep h)
    next => cases hrun

/-- Every receipt that a submission was answered with is known. -/
def Known (runtime : Runtime) : Prop :=
  ∀ (submit : Nat) (submission : Submission),
    runtime.submits[submit]? = some (.finished (.ok submission)) →
      submission.receipt < runtime.shared.receipts.length

variable {limits : ByteReservationLimits}

theorem Accounted.known_step {runtime next : Runtime} (h : runtime.Accounted limits)
    (hknown : runtime.Known) {event : RuntimeEvent} (hstep : runtime.step event = some next) :
    next.Known := by
  have hgrows := (extends_section h.balanced (step_section hstep)).length_le
  intro submit submission hsubmit
  rcases submit_before hstep hsubmit with hbefore | ⟨command, hentered⟩ | ⟨old, hold, hmove⟩
  · exact Nat.lt_of_lt_of_le (hknown submit submission hbefore) hgrows
  · cases hentered
  · generalize hphase : SubmitPhase.finished (.ok submission) = phase at hmove
    cases hmove with
    | refused command error => cases hphase
    | admitted command => cases hphase
    | measured command measured => cases hphase
    | answered command measured result hreserve =>
      cases hphase
      exact h.balanced.reserve_known hreserve
    | reserved command measured slotIndex terminal frameLen hreserve => cases hphase
    | prepared command slotIndex terminal frameLen encoded => cases hphase
    | unprepared command slotIndex terminal frameLen error => cases hphase
    | enqueued command slotIndex terminal encoded hnext =>
      injection hphase with hresult
      -- the slot that accepted the command is the one that its submission claimed
      have hclaimed : runtime.shared.Claimed slotIndex terminal encoded.frameLen :=
        h.claims submit _ hold
      unfold IngressState.enqueue at hresult
      split at hresult
      next slot hslot =>
        have hterminal : slot.terminal = terminal := by
          obtain hhalted | ⟨own, hown, -, hterminal, -⟩ := hclaimed
          · exact absurd hhalted (not_halted hslot)
          · rw [hslot] at hown
            cases hown
            exact hterminal
        split at hresult
        next =>
          cases hresult
          have hlt := h.balanced.terminal_lt hslot
          rw [hterminal] at hlt
          exact Nat.lt_of_lt_of_le hlt hgrows
        next => cases hresult
      next => cases hresult
    | rolledBack command slotIndex error reason => cases hphase

/-- A closed runtime accepts nobody who has not reserved before. -/
theorem canEnqueue_step {runtime next : Runtime} {event : RuntimeEvent}
    (hstep : runtime.step event = some next) (hclosed : runtime.shared.closed = true)
    {submit : Nat} {phase : SubmitPhase} (h : next.submits[submit]? = some phase)
    (hcan : phase.CanEnqueue) :
    ∃ before, runtime.submits[submit]? = some before ∧ before.CanEnqueue := by
  rcases submit_before hstep h with hbefore | ⟨command, rfl⟩ | ⟨old, hold, hmove⟩
  · exact ⟨phase, hbefore, hcan⟩
  · cases hcan
  · refine ⟨old, hold, ?_⟩
    cases hmove with
    | refused command error => cases hcan
    | admitted command => cases hcan
    | measured command measured => cases hcan
    | answered command measured result hreserve => cases hcan
    | reserved command measured slotIndex terminal frameLen hreserve =>
      rw [reserve_closed hclosed] at hreserve
      cases hreserve
    | prepared command slotIndex terminal frameLen encoded => trivial
    | unprepared command slotIndex terminal frameLen error => cases hcan
    | enqueued command slotIndex terminal encoded hnext => cases hcan
    | rolledBack command slotIndex error reason => cases hcan

theorem Accounted.answered_run {runtime final : Runtime} (h : runtime.Accounted limits)
    (hanswered : runtime.shared.Answered) (hknown : runtime.Known) {events : List RuntimeEvent}
    (hrun : runtime.run events = some final) : final.shared.Answered ∧ final.Known := by
  induction events generalizing runtime with
  | nil =>
    cases hrun
    exact ⟨hanswered, hknown⟩
  | cons event rest ih =>
    simp only [Runtime.run] at hrun
    split at hrun
    next next hstep =>
      exact ih (h.step hstep) (hanswered.section h.balanced (step_section hstep))
        (h.known_step hknown hstep) hrun
    next => cases hrun

theorem closed_run {runtime final : Runtime} (h : runtime.shared.closed = true)
    {events : List RuntimeEvent} (hrun : runtime.run events = some final) :
    final.shared.closed = true := by
  induction events generalizing runtime with
  | nil =>
    cases hrun
    exact h
  | cons event rest ih =>
    simp only [Runtime.run] at hrun
    split at hrun
    next next hstep => exact ih (closed_section (step_section hstep) h) hrun
    next => cases hrun

/-- The runtime behind the last answer of the queue. -/
structure Drained (base : IngressState) (runtime : Runtime) : Prop where
  closed : runtime.shared.closed = true
  stays : base.StaysSealed runtime.shared
  quiet : ∀ (submit : Nat) (phase : SubmitPhase), runtime.submits[submit]? = some phase →
    ¬phase.CanEnqueue

theorem Drained.step {base : IngressState} {runtime next : Runtime} (h : runtime.Drained base)
    {event : RuntimeEvent} (hstep : runtime.step event = some next) : next.Drained base := by
  have hsection := step_section hstep
  refine ⟨closed_section hsection h.closed,
    h.stays.trans (staysSealed_section hsection h.stays.isSealed), ?_⟩
  intro submit phase hsubmit hcan
  obtain ⟨before, hbefore, hcan⟩ := canEnqueue_step hstep h.closed hsubmit hcan
  exact h.quiet submit before hbefore hcan

theorem Drained.run {base : IngressState} {runtime final : Runtime} (h : runtime.Drained base)
    {events : List RuntimeEvent} (hrun : runtime.run events = some final) :
    final.Drained base := by
  induction events generalizing runtime with
  | nil =>
    cases hrun
    exact h
  | cons event rest ih =>
    simp only [Runtime.run] at hrun
    split at hrun
    next next hstep => exact ih (h.step hstep) hrun
    next => cases hrun

theorem Drained.not_drained {base : IngressState} {runtime : Runtime} (h : runtime.Drained base) :
    runtime.shared.takeNext.1 ≠ .drained := by
  intro hdrained
  obtain ⟨-, -, -, hunsealed, -⟩ := takeNext_drained hdrained
  rw [h.stays.isSealed] at hunsealed
  cases hunsealed

/-- A submission that still has its slot ahead cannot be there when no slot is occupied. -/
theorem Accounted.quiet {runtime : Runtime} (h : runtime.Accounted limits)
    (hslots : ∀ slotIndex, runtime.shared.slot? slotIndex = none)
    (hlive : ¬runtime.shared.HasStopped) {submit : Nat} {phase : SubmitPhase}
    (hsubmit : runtime.submits[submit]? = some phase) : ¬phase.CanEnqueue := by
  have hfree : ∀ slotIndex terminal frameLen,
      ¬runtime.shared.Claimed slotIndex terminal frameLen := by
    intro slotIndex terminal frameLen hclaimed
    rcases hclaimed with hhalted | ⟨slot, hslot, -⟩
    · exact hlive hhalted.1
    · rw [hslots slotIndex] at hslot
      cases hslot
  have hclaims := h.claims submit phase hsubmit
  intro hcan
  cases phase with
  | reserved command slotIndex terminal frameLen => exact hfree _ _ _ hclaims
  | prepared command slotIndex terminal encoded => exact hfree _ _ _ hclaims
  | entered command => cases hcan
  | admitted command => cases hcan
  | measured command measured => cases hcan
  | rollback command slotIndex error => cases hcan
  | finished result => cases hcan

theorem Accounted.drained {runtime : Runtime} (h : runtime.Accounted limits)
    (hdrained : runtime.shared.takeNext.1 = .drained) :
    runtime.takeNext.Drained runtime.shared := by
  obtain ⟨hclosed, hslots, hcurrent, -, hlatest⟩ := takeNext_drained hdrained
  obtain ⟨hshared, hsubmits⟩ := takeNext_shared runtime
  refine ⟨?_, ⟨?_, ?_⟩, ?_⟩
  · rw [hshared]
    exact closed_section .takeNext hclosed
  · rw [hshared, hlatest]
  · rw [hshared, hlatest]
    exact Or.inl rfl
  · intro submit phase hsubmit
    rw [hsubmits] at hsubmit
    exact h.quiet hslots hcurrent hsubmit

/-- Whoever reserves after the close is refused for good. When the queue answers that it is
drained, no slot is occupied and no submission can enqueue, every receipt that was handed out is
resolved in both stages, and the queue answers so never again; what is published stays, until a
stop makes it unavailable. -/
theorem graceful_drain {retry : RetryStateSnapshot} (hvalid : validateState retry = .ok ())
    {start : Runtime} (hopened : start.Opened retry) {before after : List RuntimeEvent}
    {earlier runtime : Runtime} (hbefore : start.run before = some earlier)
    (hafter : earlier.run after = some runtime) :
    (earlier.shared.closed = true → ∀ (submit : Nat) (command : IngressCommand)
      (measured : Except JournalV1Error Nat) (next : Runtime),
      runtime.submits[submit]? = some (.measured command measured) →
      runtime.step (.reserve submit) = some next → next.shared = runtime.shared ∧
        ∀ (later : List RuntimeEvent) (final : Runtime), next.run later = some final →
          final.submits[submit]? = some (.finished (TrySubmitError.of .closed command))) ∧
    (runtime.shared.takeNext.1 = .drained →
      runtime.shared.closed = true ∧ (∀ slotIndex, runtime.shared.slot? slotIndex = none) ∧
      (∀ phase ∈ runtime.submits, ¬phase.CanEnqueue) ∧
      (∀ (submit : Nat) (submission : Submission),
        earlier.submits[submit]? = some (.finished (.ok submission)) →
        ∃ receipt, runtime.shared.receipts[submission.receipt]? = some receipt ∧
          receipt.Resolved) ∧
      runtime.shared.latest.current ≠ none ∧
      ∀ (later : List RuntimeEvent) (final : Runtime), runtime.takeNext.run later = some final →
        final.shared.takeNext.1 ≠ .drained ∧ (∀ phase ∈ final.submits, ¬phase.CanEnqueue) ∧
        (final.shared.latest.current = runtime.shared.latest.current ∨
          final.shared.HasStopped)) := by
  have hstart := hopened.accounted hvalid
  have hearlier := hstart.run hbefore
  have haccounted := hearlier.run hafter
  refine ⟨?_, ?_⟩
  · intro hclosed submit command measured next hsubmit hstep
    have hstill := closed_run hclosed hafter
    simp only [Runtime.step, hsubmit, Runtime.reserve, reserve_closed hstill,
      Option.some.injEq] at hstep
    have hlt := (List.getElem?_eq_some_iff.mp hsubmit).1
    cases hstep
    refine ⟨rfl, ?_⟩
    intro later final hrun
    exact finished_run hrun (List.getElem?_set_self hlt)
  · intro hdrained
    obtain ⟨hclosed, hslots, hcurrent, -, -⟩ := takeNext_drained hdrained
    have hempty : start.shared.receipts = [] ∧ start.submits = [] := by
      obtain ⟨storeId, byteLimits, hinstall, hsubmits, -, -⟩ := hopened
      unfold installOpenedRetry at hinstall
      split at hinstall
      next => cases hinstall
      next =>
        injection hinstall with hshared
        exact ⟨by rw [← hshared]; rfl, hsubmits⟩
    have hanswered : start.shared.Answered := by
      intro index receipt hreceipt
      rw [hempty.1] at hreceipt
      cases hreceipt
    have hknown : start.Known := by
      intro submit submission hsubmit
      rw [hempty.2] at hsubmit
      cases hsubmit
    obtain ⟨hanswered, hknown⟩ := hstart.answered_run hanswered hknown hbefore
    obtain ⟨hanswered, hknown⟩ := hearlier.answered_run hanswered hknown hafter
    refine ⟨hclosed, hslots, ?_, ?_, hcurrent, ?_⟩
    · intro phase hphase
      obtain ⟨submit, hsubmit⟩ := List.getElem?_of_mem hphase
      exact haccounted.quiet hslots hcurrent hsubmit
    · intro submit submission hsubmit
      have hlt := hknown submit submission (finished_run hafter hsubmit)
      refine ⟨_, List.getElem?_eq_getElem hlt, ?_⟩
      obtain hresolved | ⟨slotIndex, slot, hslot, -⟩ :=
        hanswered _ _ (List.getElem?_eq_getElem hlt)
      · exact hresolved
      · rw [hslots slotIndex] at hslot
        cases hslot
    · intro later final hrun
      have hfinal := (haccounted.drained hdrained).run hrun
      refine ⟨hfinal.not_drained, ?_, hfinal.stays.current⟩
      intro phase hphase
      obtain ⟨submit, hsubmit⟩ := List.getElem?_of_mem hphase
      exact hfinal.quiet submit phase hsubmit

/-- The sample admission is in preparation when admission closes. -/
def sampleClosing : List RuntimeEvent :=
  [.enter sampleCommand, .check 0, .measure 0, .reserve 0, .prepare 0, .closeAdmission]

/-- It enters the queue behind the close, and its batch is made durable. -/
def sampleDraining : List RuntimeEvent :=
  [.enqueue 0, .takeNext, .append 0 FlushingRuntime.sampleAppend, .publish 0, .completeHandled 0,
    .completeDurableBatch [⟨0, sampleAdmission.retry, FlushingRuntime.sampleAppend⟩]
      FlushingRuntime.sampleSyncedCommit FlushingRuntime.sampleSynced]

theorem graceful_drain_sample :
    ∃ earlier runtime, sampleStart.run sampleClosing = some earlier ∧
      earlier.run sampleDraining = some runtime ∧ earlier.shared.closed = true ∧
      earlier.shared.occupied.length = 1 ∧ runtime.shared.takeNext.1 = .drained ∧
      (∀ slotIndex, runtime.shared.slot? slotIndex = none) ∧
      runtime.takeNext.shared.takeNext.1 ≠ .drained := by
  have hopened : sampleStart.Opened sampleRetryState :=
    ⟨sampleIdentity 1, sampleByteLimits, rfl, rfl, rfl, rfl⟩
  have hreached : (sampleStart.run sampleClosing).any (fun earlier =>
      earlier.shared.closed = true ∧ earlier.shared.occupied.length = 1 ∧
      (earlier.run sampleDraining).any (fun runtime =>
        runtime.shared.takeNext.1 = .drained) = true) = true := by decide +kernel
  obtain ⟨earlier, hbefore, hreached⟩ := (Option.any_eq_true _ _).mp hreached
  obtain ⟨hclosed, hlength, hreached⟩ := of_decide_eq_true hreached
  obtain ⟨runtime, hafter, hreached⟩ := (Option.any_eq_true _ _).mp hreached
  have hdrained := of_decide_eq_true hreached
  obtain ⟨-, hslots, -, -, -, hlater⟩ := (graceful_drain rfl hopened hbefore hafter).2 hdrained
  exact ⟨earlier, runtime, hbefore, hafter, hclosed, hlength, hdrained, hslots,
    (hlater [] _ rfl).1⟩

/-- A stop behind the drain takes back what is published. -/
theorem graceful_drain_stopped :
    ∃ drained final, sampleStart.run [.closeAdmission] = some drained ∧
      drained.shared.takeNext.1 = .drained ∧ drained.takeNext.step .stop = some final ∧
      drained.takeNext.shared.latest.current ≠ none ∧ final.shared.latest.current = none := by
  refine ⟨_, _, rfl, ?_, rfl, ?_, rfl⟩
  · decide +kernel
  · decide +kernel

end Runtime

end Historian
