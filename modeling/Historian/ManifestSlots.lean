import Historian.StoreOpen
import Historian.FileRules

namespace Historian

open Wire Checks Files

theorem encodeManifest_ne_nil (record : ManifestRecord) : encodeManifest record ≠ [] := by
  intro h
  have hlen := length_encodeManifest record
  rw [h] at hlen
  simp [manifestLen] at hlen

theorem readManifestSlot_some {d : StoreDirectory} {storeId : StoreId} {slot : Fin 2}
    {record : ManifestRecord} : readManifestSlot d storeId slot = .ok (some record) ↔
      record.Valid storeId ∧ d.lookup (.manifest slot) = some (encodeManifest record) := by
  unfold readManifestSlot
  rw [bind_ok]
  constructor
  · intro h
    obtain ⟨found, hfound, h⟩ := h
    cases found with
    | none => simp at h
    | some bytes =>
      simp only [bind_ok, pure_ok, Option.some.injEq] at h
      obtain ⟨_, hdecode, rfl⟩ := h
      obtain ⟨hvalid, rfl⟩ := decodeManifest_ok.mp hdecode
      exact ⟨hvalid, (readOptionalBounded_some.mp hfound).1⟩
  · intro h
    obtain ⟨hvalid, hlookup⟩ := h
    refine ⟨some (encodeManifest record), readOptionalBounded_some.mpr
      ⟨hlookup, encodeManifest_ne_nil record, Nat.le_of_eq (length_encodeManifest record)⟩, ?_⟩
    simp only [bind_ok, pure_ok, Option.some.injEq]
    exact ⟨record, decodeManifest_ok.mpr ⟨hvalid, rfl⟩, rfl⟩

theorem readManifestSlot_none {d : StoreDirectory} {storeId : StoreId} {slot : Fin 2} :
    readManifestSlot d storeId slot = .ok none ↔ d.lookup (.manifest slot) = none := by
  unfold readManifestSlot
  rw [bind_ok, ← readOptionalBounded_none]
  constructor
  · intro h
    obtain ⟨found, hfound, h⟩ := h
    cases found with
    | none => exact hfound
    | some bytes =>
      simp only [bind_ok, pure_ok, reduceCtorEq, and_false, exists_false] at h
  · intro h
    exact ⟨none, h, rfl⟩

/-- The manifest files of a directory are exactly those in the slots. -/
structure ManifestSlots.On (slots : ManifestSlots) (storeId : StoreId) (d : StoreDirectory) :
    Prop where
  present : ∀ slot record, slots.get slot = some record →
    record.Valid storeId ∧ d.lookup (.manifest slot) = some (encodeManifest record)
  absent : ∀ slot, slots.get slot = none → d.lookup (.manifest slot) = none

theorem ManifestSlots.get_zero (slots : ManifestSlots) : slots.get 0 = slots.first := rfl

theorem ManifestSlots.get_one (slots : ManifestSlots) : slots.get 1 = slots.second := rfl

theorem ManifestSlots.get_set (slots : ManifestSlots) (slot other : Fin 2)
    (record : ManifestRecord) :
    (slots.set slot record).get other = if other = slot then some record else slots.get other := by
  fin_cases slot <;> fin_cases other <;> rfl

theorem ManifestSlots.ext_get {a b : ManifestSlots} (h : ∀ slot, a.get slot = b.get slot) :
    a = b := by
  obtain ⟨first, second⟩ := a
  obtain ⟨first', second'⟩ := b
  have h0 : first = first' := h 0
  have h1 : second = second' := h 1
  rw [h0, h1]

theorem readManifestSlots_ok {d : StoreDirectory} {storeId : StoreId} {slots : ManifestSlots} :
    readManifestSlots d storeId = .ok slots ↔ slots.On storeId d := by
  have hslot : ∀ slot found, readManifestSlot d storeId slot = .ok found ↔
      (∀ record, found = some record →
        record.Valid storeId ∧ d.lookup (.manifest slot) = some (encodeManifest record)) ∧
      (found = none → d.lookup (.manifest slot) = none) := by
    intro slot found
    cases found with
    | none => simp [readManifestSlot_none]
    | some record => simp [readManifestSlot_some]
  obtain ⟨first, second⟩ := slots
  unfold readManifestSlots
  simp only [bind_ok, hslot, pure_ok, ManifestSlots.mk.injEq]
  constructor
  · intro h
    obtain ⟨_, h0, _, h1, rfl, rfl⟩ := h
    refine ⟨?_, ?_⟩
    · intro slot record
      fin_cases slot
      · exact h0.1 record
      · exact h1.1 record
    · intro slot
      fin_cases slot
      · exact h0.2
      · exact h1.2
  · intro h
    exact ⟨first, ⟨h.present 0, h.absent 0⟩, second, ⟨h.present 1, h.absent 1⟩, rfl, rfl⟩

/-- The newer of two manifests goes on from the older one. -/
structure RootProgresses (older newer : ManifestRecord) : Prop where
  generation : older.generation.val + 1 = newer.generation.val
  retry : retryReferenceProgresses older.retry newer.retry = true
  catalog : catalogReferenceProgresses older.catalog newer.catalog = true
  recovery : recoveryReferenceProgresses older.recovery newer.recovery = true

/-- The root that a store selects: the newer of two manifests, or the first one alone. -/
structure ManifestSlots.Selects (slots : ManifestSlots) (slot : Fin 2)
    (current : ManifestRecord) : Prop where
  chosen : slots.get slot = some current
  other : ∀ older ∈ slots.get (1 - slot), RootProgresses older current
  alone : slots.get (1 - slot) = none → current.generation = 1

theorem progresses_iff {older newer : ManifestRecord} :
    ¬(older.generation.val + 1 ≠ newer.generation.val ∨
      retryReferenceProgresses older.retry newer.retry = false ∨
      catalogReferenceProgresses older.catalog newer.catalog = false ∨
      recoveryReferenceProgresses older.recovery newer.recovery = false) ↔
      RootProgresses older newer := by
  simp only [not_or, not_not, Bool.not_eq_false]
  exact ⟨fun ⟨h1, h2, h3, h4⟩ => ⟨h1, h2, h3, h4⟩,
    fun h => ⟨h.generation, h.retry, h.catalog, h.recovery⟩⟩

theorem selectCurrentManifest_some {slots : ManifestSlots} {slot : Fin 2}
    {current : ManifestRecord} :
    selectCurrentManifest slots = .ok (some (slot, current)) ↔ slots.Selects slot current := by
  obtain ⟨first, second⟩ := slots
  have hselects : ∀ slot current, ManifestSlots.Selects ⟨first, second⟩ slot current ↔
      (slot = 0 ∧ first = some current ∧ (∀ older ∈ second, RootProgresses older current) ∧
        (second = none → current.generation = 1)) ∨
      (slot = 1 ∧ second = some current ∧ (∀ older ∈ first, RootProgresses older current) ∧
        (first = none → current.generation = 1)) := by
    intro slot current
    fin_cases slot
    · exact ⟨fun h => Or.inl ⟨rfl, h.chosen, h.other, h.alone⟩,
        fun h => by
          rcases h with ⟨-, h1, h2, h3⟩ | ⟨h0, -⟩
          · exact ⟨h1, h2, h3⟩
          · cases h0⟩
    · exact ⟨fun h => Or.inr ⟨rfl, h.chosen, h.other, h.alone⟩,
        fun h => by
          rcases h with ⟨h0, -⟩ | ⟨-, h1, h2, h3⟩
          · cases h0
          · exact ⟨h1, h2, h3⟩⟩
  rw [hselects]
  unfold selectCurrentManifest
  cases first with
  | none =>
    cases second with
    | none => simp
    | some record =>
      simp only [then_ok, refuse_ok, pure_ok, not_not]
      constructor
      · intro h
        obtain ⟨hone, h⟩ := h
        cases h
        exact Or.inr ⟨rfl, rfl, by simp, fun _ => hone⟩
      · intro h
        obtain ⟨-, hfirst, -⟩ | ⟨rfl, hsecond, -, hone⟩ := h
        · cases hfirst
        · cases hsecond
          exact ⟨hone trivial, rfl⟩
  | some a =>
    cases second with
    | none =>
      simp only [then_ok, refuse_ok, pure_ok, not_not]
      constructor
      · intro h
        obtain ⟨hone, h⟩ := h
        cases h
        exact Or.inl ⟨rfl, rfl, by simp, fun _ => hone⟩
      · intro h
        obtain ⟨rfl, hfirst, -, hone⟩ | ⟨-, hsecond, -⟩ := h
        · cases hfirst
          exact ⟨hone trivial, rfl⟩
        · cases hsecond
    | some b =>
      simp only [Option.mem_some_iff, forall_eq', Option.some.injEq, reduceCtorEq,
        false_implies, and_true]
      by_cases hlt : a.generation < b.generation
      · simp only [hlt, if_true, then_ok, refuse_ok, pure_ok, progresses_iff]
        constructor
        · intro h
          obtain ⟨hprogress, h⟩ := h
          cases h
          exact Or.inr ⟨rfl, rfl, hprogress⟩
        · intro h
          obtain ⟨rfl, rfl, hprogress⟩ | ⟨rfl, rfl, hprogress⟩ := h
          · have hgeneration := hprogress.generation
            rw [Fin.lt_def] at hlt
            omega
          · exact ⟨hprogress, rfl⟩
      · simp only [hlt, if_false, then_ok, refuse_ok, pure_ok, progresses_iff]
        constructor
        · intro h
          obtain ⟨hprogress, h⟩ := h
          cases h
          exact Or.inl ⟨rfl, rfl, hprogress⟩
        · intro h
          obtain ⟨rfl, rfl, hprogress⟩ | ⟨rfl, rfl, hprogress⟩ := h
          · exact ⟨hprogress, rfl⟩
          · have hgeneration := hprogress.generation
            rw [Fin.lt_def] at hlt
            omega

theorem selectCurrentManifest_none {slots : ManifestSlots} :
    selectCurrentManifest slots = .ok none ↔ slots = ⟨none, none⟩ := by
  obtain ⟨first, second⟩ := slots
  unfold selectCurrentManifest
  cases first with
  | none =>
    cases second with
    | none => simp
    | some record => simp only [then_ok, pure_ok, reduceCtorEq, and_false, ManifestSlots.mk.injEq]
  | some first =>
    cases second with
    | none =>
      simp only [then_ok, pure_ok, reduceCtorEq, and_false, ManifestSlots.mk.injEq, false_and]
    | some second => simp only [then_ok, pure_ok, reduceCtorEq, and_false, ManifestSlots.mk.injEq]

/-- The next root of a store: published over the other slot, it is the one that is selected. -/
theorem ManifestSlots.Selects.publish {slots : ManifestSlots} {slot : Fin 2}
    {current next : ManifestRecord} (h : slots.Selects slot current)
    (hnext : RootProgresses current next) :
    (slots.set (1 - slot) next).Selects (1 - slot) next := by
  have hne : ¬(1 - (1 - slot) = 1 - slot) := by fin_cases slot <;> decide
  have hback : 1 - (1 - slot) = slot := by fin_cases slot <;> decide
  refine ⟨by rw [get_set, if_pos rfl], ?_, ?_⟩
  · intro older holder
    rw [get_set, if_neg hne, hback, h.chosen, Option.mem_some_iff] at holder
    subst holder
    exact hnext
  · intro hnone
    rw [get_set, if_neg hne, hback, h.chosen] at hnone
    cases hnone

end Historian
