import Historian.Ingress

namespace Historian

open Checks

namespace IngressState

/-- Nothing is outstanding and nothing can be admitted any more. -/
def Stopped (state : IngressState) : Prop :=
  state.closed = true ∧ ∀ slotIndex, state.slot? slotIndex = none

/-- A step leaves a stopped state stopped, and every slot it does not touch as it was. -/
structure Frame (state next : IngressState) (touched : Nat → Prop) : Prop where
  stopped : state.Stopped → next.Stopped
  others : next.Stopped ∨
    ∀ slotIndex, ¬touched slotIndex → next.slot? slotIndex = state.slot? slotIndex

/-- The slot that a thread works on: it is in the thread's phase, unless everything stopped. -/
def Owned (state : IngressState) (slotIndex : Nat) (qualification : RetryQualification)
    (phase : SlotPhase) : Prop :=
  state.Stopped ∨ ∃ slot, state.slot? slotIndex = some slot ∧ slot.phase = phase ∧
    slot.qualification = qualification

/-- The slots and both tiers hold pairwise distinct keys. -/
structure KeysDistinct (state : IngressState) : Prop where
  slots : ∀ i j a b, state.slot? i = some a → state.slot? j = some b → i ≠ j →
    a.qualification.scopeKey ≠ b.qualification.scopeKey
  retained : ∀ i a, state.slot? i = some a → ∀ q ∈ state.retry.retained,
    q.scopeKey ≠ a.qualification.scopeKey
  tiers : PairwiseDistinct state.retry.retained

/-- An encoded command in a slot is the command that the slot was reserved for. -/
def PreparedMatches (state : IngressState) : Prop :=
  ∀ slotIndex slot prepared, state.slot? slotIndex = some slot → slot.prepared = some prepared →
    prepared.admission.retry = slot.qualification

theorem slot?_of_set {slots : List (Option Slot)} {i j : Nat} {slot : Option Slot} :
    ((slots.set i slot)[j]?).join =
      if i = j ∧ i < slots.length then slot else (slots[j]?).join := by
  rw [List.getElem?_set]
  by_cases hij : i = j
  · subst hij
    by_cases hi : i < slots.length <;> simp [hi]
  · simp [hij]

theorem lt_of_slot? {state : IngressState} {i : Nat} {slot : Slot}
    (h : state.slot? i = some slot) : i < state.slots.length := by
  unfold slot? at h
  by_contra hlt
  rw [List.getElem?_eq_none (by omega)] at h
  cases h

/-- Setting an occupied slot. -/
theorem slot?_setSlot {state : IngressState} {i j : Nat} {old : Slot} {slot : Option Slot}
    (h : state.slot? i = some old) :
    (state.setSlot i slot).slot? j = if i = j then slot else state.slot? j := by
  have hi := lt_of_slot? h
  unfold setSlot slot?
  rw [slot?_of_set]
  simp [hi]

theorem slot?_stopAll (state : IngressState) (i : Nat) : state.stopAll.slot? i = none := by
  unfold stopAll slot?
  rw [List.getElem?_map]
  cases state.slots[i]? <;> rfl

theorem stopped_stopAll (state : IngressState) : state.stopAll.Stopped :=
  ⟨rfl, slot?_stopAll state⟩

theorem frame_stopAll (state : IngressState) {touched : Nat → Prop} :
    Frame state state.stopAll touched :=
  ⟨fun _ => stopped_stopAll state, Or.inl (stopped_stopAll state)⟩

/-- A step that writes no slot and reopens nothing. -/
theorem frame_of_slots {state next : IngressState} {touched : Nat → Prop}
    (hslots : next.slots = state.slots) (hclosed : state.closed = true → next.closed = true) :
    Frame state next touched := by
  have h : ∀ i, next.slot? i = state.slot? i := by
    intro i
    unfold slot?
    rw [hslots]
  refine ⟨?_, Or.inr fun i _ => h i⟩
  rintro ⟨hc, hs⟩
  exact ⟨hclosed hc, fun i => (h i).trans (hs i)⟩

theorem Frame.mono {state next : IngressState} {touched more : Nat → Prop}
    (h : Frame state next touched) (hle : ∀ i, touched i → more i) : Frame state next more :=
  ⟨h.stopped, h.others.imp_right fun hsame i hi => hsame i fun ht => hi (hle i ht)⟩

theorem Owned.frame {state next : IngressState} {touched : Nat → Prop} {slotIndex : Nat}
    {qualification : RetryQualification} {phase : SlotPhase}
    (h : state.Owned slotIndex qualification phase) (hframe : Frame state next touched)
    (hfree : ¬state.Stopped → ¬touched slotIndex) : next.Owned slotIndex qualification phase := by
  obtain hstopped | ⟨slot, hslot, hphase, hq⟩ := h
  · exact Or.inl (hframe.stopped hstopped)
  · have hlive : ¬state.Stopped := by
      rintro ⟨-, hnone⟩
      rw [hnone slotIndex] at hslot
      cases hslot
    obtain hstopped | hsame := hframe.others
    · exact Or.inl hstopped
    · exact Or.inr ⟨slot, (hsame slotIndex (hfree hlive)).trans hslot, hphase, hq⟩

/-- Two threads in different phases own different slots. -/
theorem Owned.ne {state : IngressState} {i j : Nat} {q r : RetryQualification}
    {phase other : SlotPhase} (hi : state.Owned i q phase) (hj : state.Owned j r other)
    (hphase : phase ≠ other) (hlive : ¬state.Stopped) : i ≠ j := by
  rintro rfl
  obtain hstopped | ⟨a, ha, rfl, -⟩ := hi
  · exact hlive hstopped
  obtain hstopped | ⟨b, hb, rfl, -⟩ := hj
  · exact hlive hstopped
  rw [ha] at hb
  cases hb
  exact hphase rfl

/-- A step that only changes or gives up slots, and keeps the retry projection. -/
theorem KeysDistinct.shrink {state next : IngressState} (h : state.KeysDistinct)
    (hretry : next.retry = state.retry)
    (hslots : ∀ i b, next.slot? i = some b →
      ∃ a, state.slot? i = some a ∧ a.qualification = b.qualification) : next.KeysDistinct := by
  constructor
  · intro i j a b ha hb hij
    obtain ⟨a', ha', hqa⟩ := hslots i a ha
    obtain ⟨b', hb', hqb⟩ := hslots j b hb
    rw [← hqa, ← hqb]
    exact h.slots i j a' b' ha' hb' hij
  · intro i a ha q hq
    obtain ⟨a', ha', hqa⟩ := hslots i a ha
    rw [hretry] at hq
    rw [← hqa]
    exact h.retained i a' ha' q hq
  · rw [hretry]
    exact h.tiers

theorem KeysDistinct.stopAll {state : IngressState} (h : state.KeysDistinct) :
    state.stopAll.KeysDistinct := by
  refine KeysDistinct.shrink h (show state.stopAll.retry = state.retry from rfl) ?_
  intro i b hb
  rw [slot?_stopAll] at hb
  cases hb

end IngressState

end Historian
