import Historian.Ring
import Historian.IngressRun

namespace Historian

open Checks IngressState

/-- The slot numbers in the ring, in the order in which they leave it. -/
structure FixedQueue.Lists (queue : FixedQueue) (items : List Nat) : Prop where
  ring : Ring.Holds queue.entries maxOutstandingCommands queue.head items
  len : queue.len = items.length

namespace FixedQueue

variable {queue : FixedQueue} {items : List Nat}

theorem lists_new : FixedQueue.new.Lists [] := ⟨Ring.holds_nil (by decide), rfl⟩

theorem Lists.canPush (h : queue.Lists items) (room : items.length < maxOutstandingCommands) :
    queue.canPush = true := by
  unfold FixedQueue.canPush
  rw [h.len, h.ring.free room]
  simpa using room

theorem Lists.push (h : queue.Lists items) (room : items.length < maxOutstandingCommands)
    (slotIndex : Nat) : (queue.push slotIndex).Lists (items ++ [slotIndex]) := by
  refine ⟨?_, ?_⟩
  · unfold FixedQueue.push
    rw [h.len]
    exact h.ring.push room
  · simp [FixedQueue.push, h.len]

theorem Lists.pop_nil (h : queue.Lists []) : queue.pop = (none, queue) := by
  have hlen : queue.len = 0 := h.len
  unfold FixedQueue.pop
  rw [if_pos hlen]

theorem Lists.pop_cons {slotIndex : Nat} (h : queue.Lists (slotIndex :: items)) :
    ∃ rest, queue.pop = (some slotIndex, rest) ∧ rest.Lists items := by
  have hlen : queue.len ≠ 0 := by
    rw [h.len]
    simp
  refine ⟨⟨queue.entries.set queue.head none, (queue.head + 1) % maxOutstandingCommands,
    queue.len - 1⟩, ?_, h.ring.pop, ?_⟩
  · unfold FixedQueue.pop
    rw [if_neg hlen, h.ring.front]
    rfl
  · simp [h.len]

end FixedQueue

/-- What a slot and its receipt agree on: nothing is durable yet, the handled stage is the append
of the slot, and a queued command has a frame of the reserved length. -/
structure Slot.Sound (receipts : List ReceiptState) (slot : Slot) : Prop where
  receipt : receipts[slot.terminal]? = some ⟨slot.append.map .writerHandled, none⟩
  waiting : slot.append.isSome = true ↔ slot.phase = .awaitingDurability
  queued : slot.phase = .queued →
    ∃ prepared, slot.prepared = some prepared ∧ prepared.frameLen = slot.reservation

theorem Slot.Sound.no_append {receipts : List ReceiptState} {slot : Slot}
    (h : slot.Sound receipts) (hphase : slot.phase ≠ .awaitingDurability) : slot.append = none := by
  have hnone : ¬slot.append.isSome = true := fun hsome => hphase (h.waiting.mp hsome)
  simpa using hnone

def Slot.bytes (slot : Option Slot) : Nat := slot.elim 0 (·.reservation)

namespace IngressState

/-- Only a stop makes the latest observations unavailable, and they stay so. -/
def HasStopped (state : IngressState) : Prop := state.latest.current = none

def Queued (state : IngressState) (slotIndex : Nat) : Prop :=
  ∃ slot, state.slot? slotIndex = some slot ∧ slot.phase = .queued

/-- The bytes, the ring and the receipts agree with the occupied slots. -/
structure Balanced (state : IngressState) : Prop where
  size : state.slots.length = maxOutstandingCommands
  sound : ∀ slotIndex slot, state.slot? slotIndex = some slot → slot.Sound state.receipts
  terminals : ∀ i j a b, state.slot? i = some a → state.slot? j = some b →
    a.terminal = b.terminal → i = j
  reserved : state.reservedBytes = (state.occupied.map (·.reservation)).sum
  bounded : state.reservedBytes ≤ state.byteLimits.total.val
  queue : ∃ items, state.queue.Lists items ∧ items.Nodup ∧ ∀ i, i ∈ items ↔ state.Queued i

theorem sum_reservations (slots : List (Option Slot)) :
    ((slots.filterMap id).map (·.reservation)).sum = (slots.map Slot.bytes).sum := by
  induction slots with
  | nil => rfl
  | cons slot rest ih =>
    cases slot with
    | none => simpa [Slot.bytes] using ih
    | some slot => simpa [Slot.bytes] using ih

/-- What a sum over the slots counts for one of them is replaced when that slot is. -/
theorem sum_set_map (count : Option Slot → Nat) {slots : List (Option Slot)} {slotIndex : Nat}
    (hlt : slotIndex < slots.length) (new : Option Slot) :
    ((slots.set slotIndex new).map count).sum + count (slots[slotIndex]?).join =
      (slots.map count).sum + count new := by
  induction slots generalizing slotIndex with
  | nil => simp at hlt
  | cons slot rest ih =>
    cases slotIndex with
    | zero =>
      simp only [List.set_cons_zero, List.map_cons, List.sum_cons, List.getElem?_cons_zero,
        Option.join_some]
      omega
    | succ slotIndex =>
      have hrest := ih (by simpa using hlt : slotIndex < rest.length)
      simp only [List.set_cons_succ, List.map_cons, List.sum_cons, List.getElem?_cons_succ]
      omega

theorem slot_bytes_le {state : IngressState} (h : state.Balanced) {slotIndex : Nat} {slot : Slot}
    (hslot : state.slot? slotIndex = some slot) : slot.reservation ≤ state.reservedBytes := by
  have hsum := sum_set_map Slot.bytes (lt_of_slot? hslot) none
  have hbytes : Slot.bytes (state.slots[slotIndex]?).join = slot.reservation := by
    unfold slot? at hslot
    rw [hslot]
    rfl
  have hnone : Slot.bytes none = 0 := rfl
  rw [h.reserved]
  unfold occupied
  rw [sum_reservations]
  omega

/-- One slot changes, with the receipt of its terminal; the others keep theirs. -/
structure Turns (state next : IngressState) (slotIndex terminal : Nat) (new : Option Slot) :
    Prop where
  slots : next.slots = state.slots.set slotIndex new
  limits : next.byteLimits = state.byteLimits
  own : ∀ slot ∈ new, slot.terminal = terminal ∧ slot.Sound next.receipts
  others : ∀ j slot, j ≠ slotIndex → state.slot? j = some slot → slot.terminal ≠ terminal
  receipts : ∀ other receipt, other ≠ terminal → state.receipts[other]? = some receipt →
    next.receipts[other]? = some receipt

theorem Turns.slot? {state next : IngressState} {slotIndex terminal : Nat} {new : Option Slot}
    (h : state.Turns next slotIndex terminal new) (hlt : slotIndex < state.slots.length) (j : Nat) :
    next.slot? j = if slotIndex = j then new else state.slot? j := by
  unfold IngressState.slot?
  rw [h.slots, slot?_of_set]
  simp [hlt]

theorem Balanced.turn {state next : IngressState} (h : state.Balanced) {slotIndex terminal : Nat}
    {new : Option Slot} (hlt : slotIndex < state.slots.length)
    (turns : state.Turns next slotIndex terminal new)
    (reserved : next.reservedBytes + Slot.bytes (state.slot? slotIndex) =
      state.reservedBytes + Slot.bytes new)
    (bounded : next.reservedBytes ≤ state.byteLimits.total.val)
    (queue : ∃ items, next.queue.Lists items ∧ items.Nodup ∧ ∀ i, i ∈ items ↔ next.Queued i) :
    next.Balanced where
  size := by rw [turns.slots, List.length_set, h.size]
  sound := by
    intro j slot hj
    rw [turns.slot? hlt] at hj
    split at hj
    next => exact (turns.own slot (Option.mem_def.mpr hj)).2
    next hne =>
      have hsound := h.sound j slot hj
      have hterminal := turns.others j slot (Ne.symm hne) hj
      exact ⟨turns.receipts _ _ hterminal hsound.receipt, hsound.waiting, hsound.queued⟩
  terminals := by
    intro i j a b hi hj hsame
    rw [turns.slot? hlt] at hi hj
    split at hi
    next hii =>
      split at hj
      next hjj => exact hii.symm.trans hjj
      next hne =>
        have hown := (turns.own a (Option.mem_def.mpr hi)).1
        exact absurd (hsame.symm.trans hown) (turns.others j b (Ne.symm hne) hj)
    next hne =>
      split at hj
      next =>
        have hown := (turns.own b (Option.mem_def.mpr hj)).1
        exact absurd (hsame.trans hown) (turns.others i a (Ne.symm hne) hi)
      next => exact h.terminals i j a b hi hj hsame
  reserved := by
    have hsum := sum_set_map Slot.bytes hlt new
    have hbefore := h.reserved
    unfold occupied at hbefore ⊢
    rw [sum_reservations] at hbefore ⊢
    rw [turns.slots]
    unfold IngressState.slot? at reserved
    omega
  bounded := by
    rw [turns.limits]
    exact bounded
  queue := queue

theorem Balanced.stopAll {state : IngressState}
    (size : state.slots.length = maxOutstandingCommands) :
    state.stopAll.Balanced := by
  have hnone : ∀ i, state.stopAll.slot? i = none := slot?_stopAll state
  refine ⟨?_, ?_, ?_, ?_, Nat.zero_le _, [], FixedQueue.lists_new, List.nodup_nil, ?_⟩
  · simpa [IngressState.stopAll] using size
  · intro i slot hi
    exact nomatch (hnone i).symm.trans hi
  · intro i j a b hi
    exact nomatch (hnone i).symm.trans hi
  · change 0 = _
    unfold occupied
    rw [sum_reservations]
    simp [IngressState.stopAll, Slot.bytes]
  · intro i
    simp [Queued, hnone i]

/-- A step that at most adds receipts. -/
theorem Balanced.unchanged {state next : IngressState} (h : state.Balanced)
    (slots : next.slots = state.slots) (queue : next.queue = state.queue)
    (reserved : next.reservedBytes = state.reservedBytes)
    (limits : next.byteLimits = state.byteLimits)
    (receipts : ∃ more, next.receipts = state.receipts ++ more) : next.Balanced := by
  have hslot : ∀ i, next.slot? i = state.slot? i := by
    intro i
    unfold slot?
    rw [slots]
  obtain ⟨more, hmore⟩ := receipts
  refine ⟨?_, ?_, ?_, ?_, ?_, ?_⟩
  · rw [slots, h.size]
  · intro i slot hi
    rw [hslot] at hi
    have hsound := h.sound i slot hi
    refine ⟨?_, hsound.waiting, hsound.queued⟩
    rw [hmore, List.getElem?_append_left (List.getElem?_eq_some_iff.mp hsound.receipt).1]
    exact hsound.receipt
  · intro i j a b hi hj
    rw [hslot] at hi hj
    exact h.terminals i j a b hi hj
  · unfold occupied
    rw [reserved, slots]
    exact h.reserved
  · rw [reserved, limits]
    exact h.bounded
  · obtain ⟨items, hlists, hnodup, hmem⟩ := h.queue
    refine ⟨items, by rwa [queue], hnodup, ?_⟩
    intro i
    rw [hmem]
    unfold Queued
    rw [hslot]

/-- A ring whose slots stay as they are when a slot outside of it changes. -/
theorem Balanced.queue_outside {state next : IngressState} (h : state.Balanced)
    {slotIndex terminal : Nat} {new : Option Slot} (hlt : slotIndex < state.slots.length)
    (turns : state.Turns next slotIndex terminal new) (same : next.queue = state.queue)
    (old : ∀ slot, state.slot? slotIndex = some slot → slot.phase ≠ .queued)
    (fresh : ∀ slot ∈ new, slot.phase ≠ .queued) :
    ∃ items, next.queue.Lists items ∧ items.Nodup ∧ ∀ i, i ∈ items ↔ next.Queued i := by
  obtain ⟨items, hlists, hnodup, hmem⟩ := h.queue
  refine ⟨items, by rwa [same], hnodup, ?_⟩
  intro i
  rw [hmem]
  unfold Queued
  rw [turns.slot? hlt]
  split
  next heq =>
    subst heq
    refine ⟨?_, ?_⟩
    · rintro ⟨slot, hslot, hphase⟩
      exact absurd hphase (old slot hslot)
    · rintro ⟨slot, hslot, hphase⟩
      exact absurd hphase (fresh slot (Option.mem_def.mpr hslot))
  next => exact Iff.rfl

theorem classCeiling_le (limits : ByteReservationLimits) (priority : AdmissionPriority) :
    limits.classCeiling priority ≤ limits.total.val := by
  cases priority <;> simp only [ByteReservationLimits.classCeiling] <;> omega

theorem Balanced.take {state : IngressState} (h : state.Balanced) {command : IngressCommand}
    {slotIndex frameLen : Nat} (takes : state.CanTake command slotIndex frameLen) :
    IngressState.Balanced
      { state.setSlot slotIndex (some (state.freshSlot command frameLen)) with
        reservedBytes := state.reservedBytes + frameLen
        receipts := state.receipts ++ [.pending] } := by
  have hroom : state.reservedBytes + frameLen ≤ state.byteLimits.classCeiling command.priority :=
    of_decide_eq_true takes.room
  have hceiling := classCeiling_le state.byteLimits command.priority
  have hturns : state.Turns
      { state.setSlot slotIndex (some (state.freshSlot command frameLen)) with
        reservedBytes := state.reservedBytes + frameLen
        receipts := state.receipts ++ [.pending] } slotIndex state.receipts.length
      (some (state.freshSlot command frameLen)) := by
    refine ⟨rfl, rfl, ?_, ?_, ?_⟩
    · intro slot hslot
      cases hslot
      refine ⟨rfl, ?_, ?_, ?_⟩
      · simp [freshSlot, ReceiptState.pending]
      · simp [freshSlot]
      · intro hphase
        cases hphase
    · intro j slot _ hj
      have hlt := (List.getElem?_eq_some_iff.mp (h.sound j slot hj).receipt).1
      omega
    · intro other receipt _ hother
      have hlt := (List.getElem?_eq_some_iff.mp hother).1
      exact (List.getElem?_append_left hlt).trans hother
  refine h.turn takes.inRange hturns ?_ (by change _ + _ ≤ _; omega) ?_
  · rw [takes.wasFree]
    rfl
  · refine h.queue_outside takes.inRange hturns rfl ?_ ?_
    · intro slot hslot
      exact nomatch takes.wasFree.symm.trans hslot
    · intro slot hslot
      cases hslot
      simp [freshSlot]

theorem Balanced.others {state : IngressState} (h : state.Balanced) {slotIndex : Nat} {old : Slot}
    (hold : state.slot? slotIndex = some old) (j : Nat) (slot : Slot) (hne : j ≠ slotIndex)
    (hj : state.slot? j = some slot) : slot.terminal ≠ old.terminal :=
  fun hsame => hne (h.terminals j slotIndex slot old hj hold hsame)

/-- The ring has room for a slot that is not in it. -/
theorem Balanced.room {state : IngressState} (h : state.Balanced) {slotIndex : Nat} {old : Slot}
    (hold : state.slot? slotIndex = some old) (hphase : old.phase ≠ .queued) {items : List Nat}
    (hnodup : items.Nodup) (hmem : ∀ i, i ∈ items ↔ state.Queued i) :
    slotIndex ∉ items ∧ items.length < maxOutstandingCommands := by
  have houtside : slotIndex ∉ items := by
    rw [hmem]
    rintro ⟨slot, hslot, hqueued⟩
    rw [hold] at hslot
    cases hslot
    exact hphase hqueued
  have hrange : (slotIndex :: items) ⊆ List.range maxOutstandingCommands := by
    intro i hi
    rw [List.mem_range, ← h.size]
    rcases List.mem_cons.mp hi with rfl | hi
    · exact lt_of_slot? hold
    · obtain ⟨slot, hslot, -⟩ := (hmem i).mp hi
      exact lt_of_slot? hslot
  have hdistinct : (slotIndex :: items).Nodup := List.nodup_cons.mpr ⟨houtside, hnodup⟩
  have hlength := List.Nodup.length_le_of_subset hdistinct hrange
  rw [List.length_cons, List.length_range] at hlength
  exact ⟨houtside, hlength⟩

/-- The enqueue section finds room in the ring for every command that still has its slot. -/
theorem Balanced.canPush {state : IngressState} (h : state.Balanced) {slotIndex : Nat} {old : Slot}
    (hold : state.slot? slotIndex = some old) (hphase : old.phase ≠ .queued) :
    state.queue.canPush = true := by
  obtain ⟨items, hlists, hnodup, hmem⟩ := h.queue
  exact hlists.canPush (h.room hold hphase hnodup hmem).2

theorem Balanced.enqueue {state : IngressState} (h : state.Balanced) {slotIndex terminal : Nat}
    {prepared : PreparedAdmissionV1} {command : IngressCommand}
    (hlength : ∀ slot, state.slot? slotIndex = some slot → slot.phase = .preparing →
      prepared.frameLen = slot.reservation) :
    (state.enqueue slotIndex terminal prepared command).2.Balanced := by
  unfold IngressState.enqueue
  split
  next old hold =>
    split
    next hvalid =>
      have hphase : old.phase ≠ .queued := by simp [hvalid.1]
      have hsound := h.sound slotIndex old hold
      have hturns : state.Turns
          { state.setSlot slotIndex (some { old with prepared := some prepared, phase := .queued })
            with queue := state.queue.push slotIndex } slotIndex old.terminal
          (some { old with prepared := some prepared, phase := .queued }) := by
        refine ⟨rfl, rfl, ?_, h.others hold, fun _ _ _ => id⟩
        intro slot hslot
        cases hslot
        refine ⟨rfl, hsound.receipt, ?_, ?_⟩
        · have hwaiting := hsound.waiting
          simp only [hvalid.1, reduceCtorEq, iff_false] at hwaiting
          simpa using hwaiting
        · intro _
          exact ⟨prepared, rfl, hlength old hold hvalid.1⟩
      refine h.turn (lt_of_slot? hold) hturns ?_ h.bounded ?_
      · rw [hold]
        rfl
      · obtain ⟨items, hlists, hnodup, hmem⟩ := h.queue
        obtain ⟨houtside, hroom⟩ := h.room hold hphase hnodup hmem
        refine ⟨items ++ [slotIndex], hlists.push hroom slotIndex, ?_, ?_⟩
        · rw [List.nodup_append]
          refine ⟨hnodup, List.pairwise_singleton _ _, ?_⟩
          rintro i hi j hj rfl
          rw [List.mem_singleton] at hj
          exact houtside (hj ▸ hi)
        · intro i
          unfold Queued
          rw [hturns.slot? (lt_of_slot? hold), List.mem_append, List.mem_singleton, hmem]
          split
          next heq => simp [heq]
          next hne => simp [Queued, Ne.symm hne]
    next => exact Balanced.stopAll h.size
  next => exact Balanced.stopAll h.size

/-- The slot at the front of the ring is a queued one with its frame. -/
theorem Balanced.pop {state : IngressState} (h : state.Balanced) {slotIndex : Nat}
    {queue : FixedQueue} (hpop : state.queue.pop = (some slotIndex, queue)) :
    ∃ slot prepared items, state.slot? slotIndex = some slot ∧ slot.phase = .queued ∧
      slot.prepared = some prepared ∧ queue.Lists items ∧ (slotIndex :: items).Nodup ∧
      ∀ i, i ∈ slotIndex :: items ↔ state.Queued i := by
  obtain ⟨items, hlists, hnodup, hmem⟩ := h.queue
  cases items with
  | nil =>
    rw [hlists.pop_nil] at hpop
    cases hpop
  | cons first items =>
    obtain ⟨rest, hrest, hlists⟩ := hlists.pop_cons
    rw [hrest] at hpop
    cases hpop
    obtain ⟨slot, hslot, hphase⟩ := (hmem slotIndex).mp List.mem_cons_self
    obtain ⟨prepared, hprepared, -⟩ := (h.sound slotIndex slot hslot).queued hphase
    exact ⟨slot, prepared, items, hslot, hphase, hprepared, hlists, hnodup, hmem⟩

theorem Balanced.takeNext {state : IngressState} (h : state.Balanced) :
    state.takeNext.2.Balanced := by
  unfold IngressState.takeNext
  split
  next slotIndex queue hpop =>
    obtain ⟨old, prepared, items, hold, hphase, hprepared, hlists, hnodup, hmem⟩ := h.pop hpop
    have hslot : ({ state with queue := queue } : IngressState).slot? slotIndex = some old := hold
    simp only [hslot, hphase, hprepared, ne_eq, not_true_eq_false, ↓reduceIte]
    have hsound := h.sound slotIndex old hold
    have hturns : state.Turns
        (({ state with queue := queue } : IngressState).setSlot slotIndex
          (some { old with prepared := none, phase := .inFlight })) slotIndex old.terminal
        (some { old with prepared := none, phase := .inFlight }) := by
      refine ⟨rfl, rfl, ?_, h.others hold, fun _ _ _ => id⟩
      intro slot hslot
      cases hslot
      refine ⟨rfl, hsound.receipt, ?_, ?_⟩
      · have hwaiting := hsound.waiting
        simp only [hphase, reduceCtorEq, iff_false] at hwaiting
        simpa using hwaiting
      · intro hqueued
        cases hqueued
    refine h.turn (lt_of_slot? hold) hturns ?_ h.bounded ?_
    · rw [hold]
      rfl
    · obtain ⟨houtside, hnodup⟩ := List.nodup_cons.mp hnodup
      refine ⟨items, hlists, hnodup, ?_⟩
      intro i
      unfold Queued
      rw [hturns.slot? (lt_of_slot? hold)]
      split
      next heq =>
        subst heq
        simpa using houtside
      next hne =>
        have hi := hmem i
        rw [List.mem_cons] at hi
        simpa [Queued, Ne.symm hne] using hi
  next queue hpop =>
    obtain ⟨items, hlists, hnodup, hmem⟩ := h.queue
    cases items with
    | cons first items =>
      obtain ⟨rest, hrest, -⟩ := hlists.pop_cons
      rw [hrest] at hpop
      cases hpop
    | nil =>
      rw [hlists.pop_nil] at hpop
      cases hpop
      dsimp only
      split
      next => exact h.unchanged rfl rfl rfl rfl ⟨[], by simp⟩
      next =>
        split
        next => exact h.unchanged rfl rfl rfl rfl ⟨[], by simp⟩
        next => exact h

theorem Balanced.preparePublication {state : IngressState} (h : state.Balanced) (slotIndex : Nat)
    (admission : CanonicalAdmission) :
    (state.preparePublication slotIndex admission).2.Balanced := by
  unfold IngressState.preparePublication
  split
  next =>
    split
    next =>
      split
      next => exact h.unchanged rfl rfl rfl rfl ⟨[], by simp⟩
      next => exact h
    next => exact h
  next => exact h

theorem Balanced.receipt {state : IngressState} (h : state.Balanced) {slotIndex : Nat} {slot : Slot}
    (hslot : state.slot? slotIndex = some slot) :
    state.receipt slot.terminal = ⟨slot.append.map .writerHandled, none⟩ := by
  unfold IngressState.receipt
  rw [List.getD_eq_getElem?_getD, (h.sound slotIndex slot hslot).receipt]
  rfl

theorem Balanced.completeHandled {state : IngressState} (h : state.Balanced) {slotIndex : Nat}
    {admission : CanonicalAdmission} {append : AppendIdentity}
    {preparation : PreparedPublication} :
    (state.completeHandled slotIndex admission append preparation).2.Balanced := by
  unfold IngressState.completeHandled
  split
  next => exact Balanced.stopAll h.size
  next old hold =>
    split
    next => exact Balanced.stopAll h.size
    next hvalid =>
      simp only [not_or, not_not] at hvalid
      have hsound := h.sound slotIndex old hold
      have happend : old.append = none := hsound.no_append (by simp [hvalid.1])
      have hreceipt := h.receipt hold
      have hknown := (List.getElem?_eq_some_iff.mp hsound.receipt).1
      simp only [hreceipt, happend, Option.map_none, ReceiptState.resolveHandled, ne_eq,
        not_true_eq_false, ↓reduceIte]
      generalize hslot : ({ old with
        retainedAdmission := some admission
        append := some append
        phase := .awaitingDurability } : Slot) = slot
      generalize hnext : IngressState.setReceipt _ _ _ = next
      have hturns : state.Turns next slotIndex old.terminal (some slot) := by
        subst hnext hslot
        refine ⟨rfl, rfl, ?_, h.others hold, ?_⟩
        · intro slot hslot
          cases hslot
          refine ⟨rfl, ?_, by simp, ?_⟩
          · simp only [setReceipt, IngressState.setSlot, List.getElem?_set_self hknown,
              Option.map_some]
          · intro hqueued
            cases hqueued
        · intro other receipt hne hother
          simp only [setReceipt, IngressState.setSlot]
          rw [List.getElem?_set_ne (Ne.symm hne)]
          exact hother
      refine h.turn (lt_of_slot? hold) hturns ?_ ?_ ?_
      · subst hnext hslot
        rw [hold]
        rfl
      · subst hnext
        exact h.bounded
      · refine h.queue_outside (lt_of_slot? hold) hturns (by subst hnext; rfl) ?_ ?_
        · intro slot hslot
          rw [hold] at hslot
          cases hslot
          simp [hvalid.1]
        · intro other hother
          cases hother
          simp [← hslot]

/-- A slot is given up and its receipt is written once more. -/
theorem Balanced.release {state : IngressState} (h : state.Balanced) {slotIndex : Nat} {old : Slot}
    (hold : state.slot? slotIndex = some old) (hphase : old.phase ≠ .queued) {next : IngressState}
    (slots : next.slots = state.slots.set slotIndex none) (queue : next.queue = state.queue)
    (limits : next.byteLimits = state.byteLimits)
    (reserved : next.reservedBytes = state.reservedBytes - old.reservation)
    (receipts : ∀ other, other ≠ old.terminal → next.receipts[other]? = state.receipts[other]?) :
    next.Balanced := by
  have hturns : state.Turns next slotIndex old.terminal none := by
    refine ⟨slots, limits, by simp, h.others hold, ?_⟩
    intro other receipt hne hother
    rw [receipts other hne]
    exact hother
  have hle := slot_bytes_le h hold
  have hbounded := h.bounded
  refine h.turn (lt_of_slot? hold) hturns ?_ (by omega) ?_
  · rw [hold]
    simp only [Slot.bytes, Option.elim_some, Option.elim_none]
    omega
  · refine h.queue_outside (lt_of_slot? hold) hturns queue ?_ (by simp)
    intro slot hslot
    rw [hold] at hslot
    cases hslot
    exact hphase

theorem Balanced.rollbackPreparation {state : IngressState} (h : state.Balanced) {slotIndex : Nat}
    (hphase : ∀ slot, state.slot? slotIndex = some slot → slot.phase = .preparing) :
    (state.rollbackPreparation slotIndex).Balanced := by
  unfold IngressState.rollbackPreparation
  split
  next => exact h
  next old hold =>
    refine h.release hold (by simp [hphase old hold]) rfl rfl rfl rfl ?_
    intro other hne
    rw [List.getElem?_modify]
    simp [Ne.symm hne]

/-- The slots that are left in a batch still wait after one of them is given up. -/
theorem waiting_rest {state : IngressState} {entry : DurableBatchEntry}
    {rest : List DurableBatchEntry} {old : Slot} (hold : state.slot? entry.slot = some old)
    (hwaiting : ∀ other ∈ entry :: rest, ∀ slot, state.slot? other.slot = some slot →
      slot.phase = .awaitingDurability) {other : DurableBatchEntry} (hother : other ∈ rest)
    {slot : Slot} (hslot : (state.setSlot entry.slot none).slot? other.slot = some slot) :
    slot.phase = .awaitingDurability := by
  rw [slot?_setSlot hold] at hslot
  split at hslot
  next => cases hslot
  next => exact hwaiting other (List.mem_cons_of_mem _ hother) slot hslot

/-- The checks of a batch leave only slots that wait. -/
theorem waiting_of_valid {state : IngressState} {entries : List DurableBatchEntry}
    {cutoff : DurableCutoff} (hvalid : entries.all (state.batchEntryValid cutoff) = true)
    {entry : DurableBatchEntry} (hentry : entry ∈ entries) {slot : Slot}
    (hslot : state.slot? entry.slot = some slot) : slot.phase = .awaitingDurability := by
  obtain ⟨own, hown, hphase, -⟩ :=
    batchEntryValid_ok (List.all_eq_true.mp hvalid entry hentry)
  rw [hown] at hslot
  cases hslot
  exact hphase

/-- One entry after the other is released; an entry that names a slot twice would stop
everything. -/
theorem Balanced.finishBatch {committed : ManifestCommit} {entries : List DurableBatchEntry}
    {state : IngressState} (h : state.Balanced)
    (hwaiting : ∀ entry ∈ entries, ∀ slot, state.slot? entry.slot = some slot →
      slot.phase = .awaitingDurability) :
    (finishBatch committed state entries).2.Balanced := by
  induction entries generalizing state with
  | nil => exact h
  | cons entry rest ih =>
    simp only [IngressState.finishBatch]
    split
    next => exact Balanced.stopAll h.size
    next old hold =>
      have hphase := hwaiting entry List.mem_cons_self old hold
      split
      next =>
        refine ih (h.release hold (by simp [hphase]) rfl rfl rfl rfl ?_) ?_
        · intro other hne
          exact List.getElem?_set_ne (Ne.symm hne)
        · intro other hother slot hslot
          exact waiting_rest hold hwaiting hother hslot
      next =>
        refine Balanced.stopAll ?_
        simpa [IngressState.setSlot] using h.size

theorem Balanced.completeDurableBatch {state : IngressState} (h : state.Balanced)
    {entries : List DurableBatchEntry} {committed : ManifestCommit} {retry : RetryStateSnapshot} :
    (state.completeDurableBatch entries committed retry).2.Balanced := by
  unfold IngressState.completeDurableBatch
  split
  next => exact Balanced.stopAll h.size
  next =>
    split
    next => exact Balanced.stopAll h.size
    next =>
      split
      next => exact Balanced.stopAll h.size
      next hvalid =>
        refine Balanced.finishBatch (h.unchanged rfl rfl rfl rfl ⟨[], by simp⟩) ?_
        intro entry hentry slot hslot
        exact waiting_of_valid (not_not.mp hvalid) hentry hslot

end IngressState

end Historian
