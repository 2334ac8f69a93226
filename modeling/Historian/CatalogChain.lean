import Historian.GenerationCatalog

namespace Historian

open Wire Checks SealedGeneration

/-- The journal generations from one on, with ranges that follow one another from zero. -/
structure CatalogLaw (entries : List SealedGeneration) : Prop where
  length_le : entries.length ≤ maxSealedGenerations
  numbered : ∀ i entry, entries[i]? = some entry → entry.journalGeneration.val = i + 1
  first : ∀ entry, entries[0]? = some entry → entry.sequenceFloor = 0
  contiguous : ∀ i before entry, entries[i]? = some before → entries[i + 1]? = some entry →
    entry.sequenceFloor = before.sequenceCutoff
  nonempty : ∀ entry ∈ entries, entry.sequenceFloor < entry.sequenceCutoff

section Chained

variable {prior : Option SealedGeneration} {entries : List SealedGeneration}

theorem chained_numbered (h : Chained prior entries) {i : Nat} {entry : SealedGeneration}
    (hentry : entries[i]? = some entry) :
    entry.journalGeneration.val = (prior.map (·.journalGeneration.val)).getD 0 + i + 1 := by
  induction entries generalizing prior i with
  | nil => simp at hentry
  | cons first rest ih =>
    obtain ⟨⟨hbehind, hfirst, -⟩, hrest⟩ := h
    have hnumber : first.journalGeneration.val =
        (prior.map (·.journalGeneration.val)).getD 0 + 1 := by
      cases prior with
      | none =>
        rw [(hfirst rfl).1]
        rfl
      | some before => exact ((hbehind before rfl).1).symm
    cases i with
    | zero =>
      rw [List.getElem?_cons_zero, Option.some.injEq] at hentry
      rw [← hentry, hnumber]
    | succ i =>
      have hlater := ih hrest hentry
      rw [hlater, Option.map_some, Option.getD_some, hnumber]
      omega

theorem chained_follows (h : Chained prior entries) {i : Nat} {before entry : SealedGeneration}
    (hbefore : entries[i]? = some before) (hentry : entries[i + 1]? = some entry) :
    entry.Follows (some before) := by
  induction entries generalizing prior i with
  | nil => simp at hbefore
  | cons first rest ih =>
    obtain ⟨-, hrest⟩ := h
    cases i with
    | zero =>
      cases rest with
      | nil => simp at hentry
      | cons second rest =>
        rw [List.getElem?_cons_zero, Option.some.injEq] at hbefore
        rw [List.getElem?_cons_succ, List.getElem?_cons_zero, Option.some.injEq] at hentry
        rw [← hbefore, ← hentry]
        exact hrest.1
    | succ i =>
      rw [List.getElem?_cons_succ] at hbefore hentry
      exact ih hrest hbefore hentry

theorem chained_nonempty (h : Chained prior entries) :
    ∀ entry ∈ entries, entry.sequenceFloor < entry.sequenceCutoff := by
  induction entries generalizing prior with
  | nil => simp
  | cons first rest ih =>
    obtain ⟨hfollows, hrest⟩ := h
    exact List.forall_mem_cons.mpr ⟨hfollows.2.2.1, ih hrest⟩

/-- Everything behind a generation starts at its cutoff or later. -/
theorem chained_floor {before : SealedGeneration} (h : Chained (some before) entries) :
    ∀ entry ∈ entries, before.sequenceCutoff ≤ entry.sequenceFloor := by
  induction entries generalizing before with
  | nil => simp
  | cons first rest ih =>
    obtain ⟨⟨hbehind, -, hrange, -⟩, hrest⟩ := h
    have hfloor := (hbehind before rfl).2
    refine List.forall_mem_cons.mpr ⟨Fin.le_of_eq hfloor, ?_⟩
    intro entry hentry
    have hlater := ih hrest entry hentry
    rw [hfloor]
    exact Fin.le_trans (Fin.le_of_lt hrange) hlater

theorem chained_pairwise (h : Chained prior entries) :
    entries.Pairwise fun before entry => before.sequenceCutoff ≤ entry.sequenceFloor := by
  induction entries generalizing prior with
  | nil => exact List.Pairwise.nil
  | cons first rest ih => exact List.pairwise_cons.mpr ⟨chained_floor h.2, ih h.2⟩

theorem chained_snoc (h : Chained prior entries) {entry : SealedGeneration}
    (hentry : entry.Follows (entries.getLast?.or prior)) : Chained prior (entries ++ [entry]) := by
  induction entries generalizing prior with
  | nil => exact ⟨hentry, trivial⟩
  | cons first rest ih =>
    obtain ⟨hfirst, hrest⟩ := h
    refine ⟨hfirst, ih hrest ?_⟩
    cases rest with
    | nil => exact hentry
    | cons second rest =>
      rw [List.getLast?_cons_cons] at hentry
      cases hlast : (second :: rest).getLast? with
      | none => simp at hlast
      | some last =>
        rw [hlast] at hentry
        exact hentry

theorem chained_law (h : Chained none entries) (hlength : entries.length ≤ maxSealedGenerations) :
    CatalogLaw entries where
  length_le := hlength
  numbered := by
    intro i entry hentry
    have hnumber := chained_numbered h hentry
    rw [Option.map_none, Option.getD_none, Nat.zero_add] at hnumber
    exact hnumber
  first := by
    intro entry hentry
    cases entries with
    | nil => simp at hentry
    | cons first rest =>
      rw [List.getElem?_cons_zero, Option.some.injEq] at hentry
      rw [← hentry]
      exact (h.1.2.1 rfl).2
  contiguous := by
    intro i before entry hbefore hentry
    exact (((chained_follows h hbefore hentry).1 before rfl).2).symm
  nonempty := chained_nonempty h

end Chained

namespace GenerationCatalogSnapshot

/-- The number of a catalog, which is zero before the first rotation. -/
def generation (catalog : GenerationCatalogSnapshot) : Nat :=
  (catalog.reference.map (·.generation.val)).getD 0

/-- A call of `advance`: one that is refused leaves the catalog as it was. -/
def call (catalog : GenerationCatalogSnapshot)
    (next : GenerationCatalogReference × SealedGeneration) : GenerationCatalogSnapshot :=
  match catalog.advance next.1 next.2 with
  | .ok after => after
  | .error _ => catalog

def after (catalog : GenerationCatalogSnapshot)
    (calls : List (GenerationCatalogReference × SealedGeneration)) : GenerationCatalogSnapshot :=
  calls.foldl call catalog

/-- What every sequence of calls keeps. -/
structure Sound (storeId : StoreId) (catalog : GenerationCatalogSnapshot) : Prop where
  store : catalog.storeId = storeId
  chained : Chained none catalog.entries
  length_le : catalog.entries.length ≤ maxSealedGenerations
  counted : catalog.generation = catalog.entries.length
  slot : ∀ reference ∈ catalog.reference, reference.slot < 3
  nonempty : ∀ reference ∈ catalog.reference, catalog.entries ≠ []

variable {storeId : StoreId} {catalog next : GenerationCatalogSnapshot}

theorem sound_empty (storeId : StoreId) : (empty storeId).Sound storeId where
  store := rfl
  chained := trivial
  length_le := Nat.zero_le _
  counted := rfl
  slot := by simp [empty]
  nonempty := by simp [empty]

theorem advance_ok {reference : GenerationCatalogReference} {entry : SealedGeneration} :
    catalog.advance reference entry = .ok next ↔
      catalog.entries.length < maxSealedGenerations ∧ reference.slot < 3 ∧
      reference.generation.val = catalog.generation + 1 ∧
      (∀ prior ∈ catalog.reference, prior.slot ≠ reference.slot) ∧
      entry.Follows catalog.entries.getLast? ∧
      next = ⟨catalog.storeId, some reference, catalog.entries ++ [entry]⟩ := by
  unfold advance generation
  simp only [then_ok, refuse_ok, pure_ok, not_or, not_not, Nat.not_le, UInt8.not_le]
  cases catalog.reference with
  | none =>
    have hone : reference.generation ≠ 1 ↔ reference.generation.val ≠ 1 := Fin.ext_iff.not
    have hzero : reference.generation = 0 ↔ reference.generation.val = 0 := Fin.ext_iff
    simp only [Option.not_mem_none, false_and, exists_false, not_false_eq_true, true_and,
      Option.map_none, Option.getD_none, hone, not_not, hzero, Nat.zero_add, IsEmpty.forall_iff,
      implies_true]
    constructor
    · intro h
      obtain ⟨⟨hlength, hslot, -, hgeneration, hfollows⟩, rfl⟩ := h
      exact ⟨hlength, hslot, hgeneration, hfollows, rfl⟩
    · intro h
      obtain ⟨hlength, hslot, hgeneration, hfollows, rfl⟩ := h
      exact ⟨⟨hlength, hslot, by omega, hgeneration, hfollows⟩, rfl⟩
  | some prior =>
    have hzero : reference.generation = 0 ↔ reference.generation.val = 0 := Fin.ext_iff
    simp only [Option.mem_some_iff, exists_eq_left', reduceCtorEq, false_and, not_false_eq_true,
      true_and, Option.map_some, Option.getD_some, hzero, not_not, forall_eq']
    constructor
    · intro h
      obtain ⟨⟨hlength, hslot, -, hgeneration, hother, hfollows⟩, rfl⟩ := h
      exact ⟨hlength, hslot, hgeneration.symm, hother, hfollows, rfl⟩
    · intro h
      obtain ⟨hlength, hslot, hgeneration, hother, hfollows, rfl⟩ := h
      exact ⟨⟨hlength, hslot, by omega, hgeneration.symm, hother, hfollows⟩, rfl⟩

/-- A call is refused, or it appends one entry. -/
theorem call_cases (catalog : GenerationCatalogSnapshot)
    (next : GenerationCatalogReference × SealedGeneration) :
    catalog.call next = catalog ∨ catalog.advance next.1 next.2 = .ok (catalog.call next) := by
  unfold call
  cases catalog.advance next.1 next.2 with
  | error error => exact .inl rfl
  | ok after => exact .inr rfl

theorem Sound.call (h : catalog.Sound storeId)
    (next : GenerationCatalogReference × SealedGeneration) : (catalog.call next).Sound storeId := by
  rcases call_cases catalog next with hsame | hadvance
  · rw [hsame]
    exact h
  · obtain ⟨hlength, hslot, hgeneration, -, hfollows, hnext⟩ := advance_ok.mp hadvance
    rw [hnext]
    refine ⟨h.store, chained_snoc h.chained ?_, ?_, ?_, ?_, by simp⟩
    · rw [Option.or_none]
      exact hfollows
    · rw [List.length_append, List.length_singleton]
      omega
    · have hcounted := h.counted
      change next.1.generation.val = _
      rw [List.length_append, List.length_singleton]
      omega
    · intro reference hreference
      rw [Option.mem_some_iff] at hreference
      rw [← hreference]
      exact hslot

theorem Sound.after (h : catalog.Sound storeId)
    (calls : List (GenerationCatalogReference × SealedGeneration)) :
    (catalog.after calls).Sound storeId := by
  induction calls generalizing catalog with
  | nil => exact h
  | cons next rest ih => exact ih (h.call next)

theorem entries_after (catalog : GenerationCatalogSnapshot)
    (calls : List (GenerationCatalogReference × SealedGeneration)) :
    catalog.entries <+: (catalog.after calls).entries := by
  induction calls generalizing catalog with
  | nil => exact List.prefix_refl _
  | cons next rest ih =>
    have hstep : catalog.entries <+: (catalog.call next).entries := by
      rcases call_cases catalog next with hsame | hadvance
      · simp [hsame]
      · obtain ⟨-, -, -, -, -, hnext⟩ := advance_ok.mp hadvance
        rw [hnext]
        exact List.prefix_append _ _
    exact hstep.trans (ih (catalog.call next))

/-- The catalog under the reference of its own bytes is read back from them. -/
theorem Sound.decodes (h : catalog.Sound storeId) {reference : GenerationCatalogReference}
    (hreference : catalog.reference = some reference) :
    ∃ bytes final, encodeCatalog catalog = .ok bytes ∧
      catalog.withReference ⟨reference.slot, reference.generation, Fin.ofNat _ bytes.length,
        crc32c bytes⟩ = .ok final ∧ final.entries = catalog.entries ∧
      encodeCatalog final = .ok bytes ∧ decodeCatalog bytes reference.slot storeId = .ok final := by
  have hslot := h.slot reference hreference
  have hentries := h.nonempty reference hreference
  have hcounted := h.counted
  have hmax := h.length_le
  have hlength : 0 < catalog.entries.length := List.length_pos_iff.mpr hentries
  simp only [generation, hreference, Option.map_some, Option.getD_some] at hcounted
  have hpositive : reference.generation ≠ 0 := by
    intro hzero
    rw [hzero] at hcounted
    exact absurd hcounted.symm (Nat.ne_of_gt hlength)
  have hnumber : reference.generation = Fin.ofNat _ catalog.entries.length := by
    rw [← hcounted]
    exact (Fin.ofNat_val_eq_self _).symm
  obtain ⟨bytes, hbytes⟩ : ∃ bytes, bytes = withChecksum
    (catalogBody catalog.storeId reference.generation catalog.entries) := ⟨_, rfl⟩
  have hfinal : encodeCatalog ⟨catalog.storeId, some ⟨reference.slot, reference.generation,
      Fin.ofNat _ bytes.length, crc32c bytes⟩, catalog.entries⟩ = .ok bytes :=
    encodeCatalog_ok.mpr ⟨_, rfl, hslot, hpositive, hentries, hmax, hbytes⟩
  have hencode := encodeCatalog_ok.mpr
    ⟨reference, hreference, hslot, hpositive, hentries, hmax, hbytes⟩
  refine ⟨bytes, ⟨catalog.storeId, some ⟨reference.slot, reference.generation,
    Fin.ofNat _ bytes.length, crc32c bytes⟩, catalog.entries⟩, hencode, ?_, rfl, hfinal, ?_⟩
  · have hsize : (Fin.ofNat (2 ^ 64) bytes.length) ≠ 0 := by
      rw [hbytes, length_withChecksum, length_catalogBody, ne_eq, Fin.ext_iff]
      simp only [maxSealedGenerations] at hmax
      change ¬_ % 2 ^ 64 = 0
      simp only [catalogHeaderLen, catalogEntryLen]
      omega
    unfold withReference
    rw [hreference]
    simp only [then_ok, refuse_ok, pure_ok, not_or, UInt8.not_le, Option.mem_some_iff, forall_eq',
      ne_eq, not_true_eq_false, or_false, not_false_eq_true, true_and]
    exact ⟨⟨hslot, hpositive, hsize⟩, trivial⟩
  · rw [decodeCatalog_ok]
    refine ⟨h.store, h.chained, ?_, hfinal⟩
    rw [← hnumber]

/-- A sequence lies in the range of one generation only. -/
theorem covers_unique (h : Chained none catalog.entries) {sequence g g' e e' : U64}
    (hcovers : catalog.coversCommit g sequence e = true)
    (hcovers' : catalog.coversCommit g' sequence e' = true) : g = g' := by
  simp only [coversCommit, List.any_eq_true, Bool.and_eq_true, beq_iff_eq, decide_eq_true_eq]
    at hcovers hcovers'
  obtain ⟨entry, hentry, ⟨⟨⟨hg, hfloor⟩, hcutoff⟩, -⟩, -⟩ := hcovers
  obtain ⟨other, hother, ⟨⟨⟨hg', hfloor'⟩, hcutoff'⟩, -⟩, -⟩ := hcovers'
  obtain ⟨i, hi, rfl⟩ := List.mem_iff_getElem.mp hentry
  obtain ⟨j, hj, rfl⟩ := List.mem_iff_getElem.mp hother
  have hpairs := List.pairwise_iff_getElem.mp (chained_pairwise h)
  rcases Nat.lt_trichotomy i j with hlt | heq | hlt
  · have hle := Fin.le_trans hcutoff (hpairs i j hi hj hlt)
    exact absurd hfloor' (Fin.not_lt.mpr hle)
  · subst heq
    rw [← hg, ← hg']
  · have hle := Fin.le_trans hcutoff' (hpairs j i hj hi hlt)
    exact absurd hfloor (Fin.not_lt.mpr hle)

end GenerationCatalogSnapshot

/-- Every sequence of `advance` calls leaves a chain of sealed generations that its codec reads
back, and what the codec accepts is such a chain in its only encoding. -/
theorem generation_catalog_chain (storeId : StoreId) :
    (∀ calls,
      ((GenerationCatalogSnapshot.empty storeId).after calls).generation =
          ((GenerationCatalogSnapshot.empty storeId).after calls).entries.length ∧
        CatalogLaw ((GenerationCatalogSnapshot.empty storeId).after calls).entries ∧
        (∀ later, ((GenerationCatalogSnapshot.empty storeId).after calls).entries <+:
          ((GenerationCatalogSnapshot.empty storeId).after (calls ++ later)).entries) ∧
        ∀ reference ∈ ((GenerationCatalogSnapshot.empty storeId).after calls).reference,
          ∃ bytes final,
            encodeCatalog ((GenerationCatalogSnapshot.empty storeId).after calls) = .ok bytes ∧
            ((GenerationCatalogSnapshot.empty storeId).after calls).withReference
              ⟨reference.slot, reference.generation, Fin.ofNat _ bytes.length, crc32c bytes⟩ =
                .ok final ∧
            final.entries = ((GenerationCatalogSnapshot.empty storeId).after calls).entries ∧
            encodeCatalog final = .ok bytes ∧
            decodeCatalog bytes reference.slot storeId = .ok final) ∧
    ∀ bytes slot catalog, decodeCatalog bytes slot storeId = .ok catalog →
      encodeCatalog catalog = .ok bytes ∧ catalog.generation = catalog.entries.length ∧
        CatalogLaw catalog.entries ∧
        ∀ sequence g g' e e', catalog.coversCommit g sequence e = true →
          catalog.coversCommit g' sequence e' = true → g = g' := by
  constructor
  · intro calls
    have hsound := (GenerationCatalogSnapshot.sound_empty storeId).after calls
    refine ⟨hsound.counted, chained_law hsound.chained hsound.length_le, ?_, ?_⟩
    · intro later
      have hlater := GenerationCatalogSnapshot.entries_after
        ((GenerationCatalogSnapshot.empty storeId).after calls) later
      rw [GenerationCatalogSnapshot.after, GenerationCatalogSnapshot.after, List.foldl_append]
      exact hlater
    · intro reference hreference
      exact hsound.decodes hreference
  · intro bytes slot catalog h
    obtain ⟨-, hchained, hreference, hencode⟩ := decodeCatalog_ok.mp h
    obtain ⟨-, -, -, -, -, hmax, -⟩ := encodeCatalog_ok.mp hencode
    refine ⟨hencode, ?_, chained_law hchained hmax, ?_⟩
    · rw [GenerationCatalogSnapshot.generation, hreference]
      simp only [maxSealedGenerations] at hmax
      exact Nat.mod_eq_of_lt (by omega)
    · intro sequence g g' e e' hcovers hcovers'
      exact GenerationCatalogSnapshot.covers_unique hchained hcovers hcovers'

end Historian
