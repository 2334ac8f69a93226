import Historian.CanonicalText
import Historian.StoreFormat

namespace Historian

open Wire Numeral

def storeLockFileName : Text := "store-v1.lock".toList
def storeFormatFileName : Text := "store-format-v1.och".toList
def storeFormatStagingFileName : Text := "store-format-v1.staging".toList
def manifestSlotNames : List Text :=
  ["manifest-v1-slot-0.och".toList, "manifest-v1-slot-1.och".toList]
def registrySlotNames : List Text :=
  ["series-registry-v1-slot-0.och".toList, "series-registry-v1-slot-1.och".toList,
    "series-registry-v1-slot-2.och".toList]
def retrySlotNames : List Text :=
  ["retry-state-v1-slot-0.och".toList, "retry-state-v1-slot-1.och".toList,
    "retry-state-v1-slot-2.och".toList]
def catalogSlotNames : List Text :=
  ["generation-catalog-v1-slot-0.och".toList, "generation-catalog-v1-slot-1.och".toList,
    "generation-catalog-v1-slot-2.och".toList]
def recoverySlotNames : List Text :=
  ["recovery-state-v1-slot-0.och".toList, "recovery-state-v1-slot-1.och".toList,
    "recovery-state-v1-slot-2.och".toList]
def manifestStagingFileName : Text := "manifest-v1.staging".toList
def registryStagingFileName : Text := "series-registry-v1.staging".toList
def retryStagingFileName : Text := "retry-state-v1.staging".toList
def recoveryStagingFileName : Text := "recovery-state-v1.staging".toList
def generationCatalogStagingFileName : Text := "generation-catalog-v1.staging".toList
def sealedJournalStagingFileName : Text := "sealed-journal-v1.staging".toList
def rotationIntentFileName : Text := "journal-rotation-v1.intent".toList
def activeJournalFileNameV1 : Text := "active-journal-v1.och".toList
def activeCheckpointFileNameV1 : Text := "active-journal-v1.checkpoint".toList

/-- The number of a generation between the two parts of its file name. -/
def generationName (start stop : Text) (generation : U64) : Text :=
  start ++ (padded 10 20 generation.val ++ stop)

def activeStart : Text := "active-journal-v1-g".toList
def sealedStart : Text := "sealed-journal-v1-g".toList
def journalStop : Text := ".och".toList
def checkpointStop : Text := ".checkpoint".toList

def sealedJournalFileName (generation : U64) : Text :=
  generationName sealedStart journalStop generation

def activeJournalFileName (generation : U64) : Text :=
  if generation.val = activeJournalGeneration then activeJournalFileNameV1
  else generationName activeStart journalStop generation

def activeCheckpointFileName (generation : U64) : Text :=
  if generation.val = activeJournalGeneration then activeCheckpointFileNameV1
  else generationName activeStart checkpointStop generation

def stripPrefix (start name : Text) : Option Text :=
  if start.isPrefixOf name then some (name.drop start.length) else none

def stripSuffix (stop name : Text) : Option Text :=
  if stop.isSuffixOf name then some (name.take (name.length - stop.length)) else none

def parseGenerationName (name start stop : Text) (minimum : Nat) : Option U64 := do
  let rest ← stripPrefix start name
  let digits ← stripSuffix stop rest
  if digits.len ≠ 20 ∨ (utf8Encode digits).all isAsciiDigit = false then none
  else
    let generation ← fromStrRadix 10 digits
    if minimum ≤ generation.val ∧ padded 10 20 generation.val = digits then some generation
    else none

def parseActiveJournalGenerationName (name : Text) : Option U64 :=
  parseGenerationName name activeStart journalStop 2

def parseActiveCheckpointGenerationName (name : Text) : Option U64 :=
  parseGenerationName name activeStart checkpointStop 2

def parseSealedGenerationName (name : Text) : Option U64 :=
  parseGenerationName name sealedStart journalStop 1

/-- The name that the store writes for an artifact that it recognizes. -/
def Artifact.fileName : Artifact → Text
  | .storeLock => storeLockFileName
  | .storeFormat => storeFormatFileName
  | .storeFormatStaging => storeFormatStagingFileName
  | .manifest slot => manifestSlotNames.getD slot.val []
  | .manifestStaging => manifestStagingFileName
  | .registry slot => registrySlotNames.getD slot.toNat []
  | .registryStaging => registryStagingFileName
  | .retry slot => retrySlotNames.getD slot.toNat []
  | .retryStaging => retryStagingFileName
  | .recovery slot => recoverySlotNames.getD slot.toNat []
  | .recoveryStaging => recoveryStagingFileName
  | .catalog slot => catalogSlotNames.getD slot.toNat []
  | .catalogStaging => generationCatalogStagingFileName
  | .rotationIntent => rotationIntentFileName
  | .sealedJournal generation => sealedJournalFileName generation
  | .sealedJournalStaging => sealedJournalStagingFileName
  | .activeJournal generation => activeJournalFileName generation
  | .activeCheckpoint generation => activeCheckpointFileName generation
  | .foreign name => name.toList

/-- A test for one name. -/
def exactly (fixed : Text) (artifact : Artifact) (name : Text) : Option Artifact :=
  if name = fixed then some artifact else none

/-- A test for the names of the slots of a family. -/
def anySlot (names : List Text) (slot : Nat → Artifact) (name : Text) : Option Artifact :=
  (names.idxOf? name).map slot

/-- The tests of the inventory, in the order in which a name is put to them. -/
def inventoryTests : List (Text → Option Artifact) := [
  exactly storeFormatFileName .storeFormat,
  exactly storeFormatStagingFileName .storeFormatStaging,
  exactly storeLockFileName .storeLock,
  exactly manifestStagingFileName .manifestStaging,
  exactly registryStagingFileName .registryStaging,
  exactly retryStagingFileName .retryStaging,
  exactly recoveryStagingFileName .recoveryStaging,
  fun name => (exactly generationCatalogStagingFileName .catalogStaging name).or
    (exactly sealedJournalStagingFileName .sealedJournalStaging name),
  anySlot registrySlotNames fun slot => .registry (UInt8.ofNat slot),
  anySlot retrySlotNames fun slot => .retry (UInt8.ofNat slot),
  anySlot catalogSlotNames fun slot => .catalog (UInt8.ofNat slot),
  anySlot recoverySlotNames fun slot => .recovery (UInt8.ofNat slot),
  exactly rotationIntentFileName .rotationIntent,
  fun name => (parseSealedGenerationName name).map .sealedJournal,
  fun name => (parseActiveJournalGenerationName name).map .activeJournal,
  fun name => (parseActiveCheckpointGenerationName name).map .activeCheckpoint,
  exactly activeJournalFileNameV1 (.activeJournal 1),
  exactly activeCheckpointFileNameV1 (.activeCheckpoint 1),
  anySlot manifestSlotNames fun slot => .manifest (Fin.ofNat 2 slot)]

/-- The first test that knows a name says what it is. -/
def classifyName (name : Text) : Artifact :=
  (inventoryTests.findSome? fun test => test name).getD (.foreign (String.ofList name))

theorem stripPrefix_eq_some {start name rest : Text} :
    stripPrefix start name = some rest ↔ name = start ++ rest := by
  unfold stripPrefix
  split
  next h =>
    obtain ⟨behind, rfl⟩ := List.isPrefixOf_iff_prefix.mp h
    rw [List.drop_left, Option.some.injEq, List.append_cancel_left_eq]
  next h =>
    constructor
    · exact fun h => nomatch h
    · rintro rfl
      exact absurd (List.isPrefixOf_iff_prefix.mpr (List.prefix_append _ _)) h

theorem stripSuffix_eq_some {stop name rest : Text} :
    stripSuffix stop name = some rest ↔ name = rest ++ stop := by
  unfold stripSuffix
  split
  next h =>
    obtain ⟨before, rfl⟩ := List.isSuffixOf_iff_suffix.mp h
    rw [List.length_append, Nat.add_sub_cancel, List.take_left, Option.some.injEq,
      List.append_cancel_right_eq]
  next h =>
    constructor
    · exact fun h => nomatch h
    · rintro rfl
      exact absurd (List.isSuffixOf_iff_suffix.mpr (List.suffix_append _ _)) h

/-- The number of a generation is twenty digits, and reads as that generation. -/
theorem padded_generation (generation : U64) :
    Text.len (padded 10 20 generation.val) = 20 ∧
      (utf8Encode (padded 10 20 generation.val)).all isAsciiDigit = true := by
  obtain ⟨ds, -, hds, htext, -⟩ := @padded_digits 10 (by decide) 20 generation.val
  have hbytes : utf8Encode (padded 10 20 generation.val) = ds.map digitByte := by
    rw [htext]
    exact utf8Encode_digits (by decide) hds
  have hlength : (padded 10 20 generation.val).length = 20 :=
    length_padded (by decide) (by decide) (Nat.lt_of_lt_of_le generation.isLt (by decide))
  rw [htext, List.length_map] at hlength
  unfold Text.len
  rw [hbytes, List.length_map]
  exact ⟨hlength, ascii_of_digits hds⟩

/-- A parser returns exactly the generations whose names it is given. -/
theorem parseGenerationName_eq_some {name start stop : Text} {minimum : Nat} {generation : U64} :
    parseGenerationName name start stop minimum = some generation ↔
      minimum ≤ generation.val ∧ name = generationName start stop generation := by
  unfold parseGenerationName generationName
  constructor
  · intro h
    obtain ⟨rest, hrest, h⟩ := Option.bind_eq_some_iff.mp h
    obtain ⟨digits, hdigits, h⟩ := Option.bind_eq_some_iff.mp h
    rw [stripPrefix_eq_some] at hrest
    rw [stripSuffix_eq_some] at hdigits
    split at h
    next => exact nomatch h
    next =>
      obtain ⟨found, -, h⟩ := Option.bind_eq_some_iff.mp h
      split at h
      next hboth =>
        obtain rfl := Option.some.inj h
        rw [hboth.2, ← hdigits, ← hrest]
        exact ⟨hboth.1, rfl⟩
      next => exact nomatch h
  · rintro ⟨hminimum, rfl⟩
    obtain ⟨hlen, hascii⟩ := padded_generation generation
    rw [stripPrefix_eq_some.mpr rfl, Option.bind_eq_bind, Option.bind_some,
      stripSuffix_eq_some.mpr rfl, Option.bind_some, if_neg, fromStrRadix_padded (by decide)
      (by decide), Option.bind_eq_bind, Option.bind_some, if_pos ⟨hminimum, rfl⟩]
    rw [hlen, hascii]
    decide

theorem numerals_inj {g g' : U64} (h : padded 10 20 g.val = padded 10 20 g'.val) : g = g' := by
  have hread := congrArg (@fromStrRadix (2 ^ 64) _ 10) h
  rw [fromStrRadix_padded (by decide) (by decide),
    fromStrRadix_padded (by decide) (by decide)] at hread
  exact Option.some.inj hread

theorem generationName_inj {start stop : Text} {g g' : U64}
    (h : generationName start stop g = generationName start stop g') : g = g' :=
  numerals_inj (List.append_cancel_right (List.append_cancel_left h))

/-- A name that one of the parsers knows is no fixed name, as no fixed name is known to them. -/
def Artifact.isNumbered : Artifact → Bool
  | .sealedJournal _ => true
  | .activeJournal generation => generation.val ≠ activeJournalGeneration
  | .activeCheckpoint generation => generation.val ≠ activeJournalGeneration
  | _ => false

def fixedArtifacts : List Artifact :=
  [.storeLock, .storeFormat, .storeFormatStaging, .manifest 0, .manifest 1, .manifestStaging,
    .registry 0, .registry 1, .registry 2, .registryStaging, .retry 0, .retry 1, .retry 2,
    .retryStaging, .recovery 0, .recovery 1, .recovery 2, .recoveryStaging, .catalog 0,
    .catalog 1, .catalog 2, .catalogStaging, .rotationIntent, .sealedJournalStaging,
    .activeJournal 1, .activeCheckpoint 1]

theorem fixed_names_nodup : (fixedArtifacts.map Artifact.fileName).Nodup := by
  decide +kernel

theorem fixed_not_parsed : ∀ a ∈ fixedArtifacts, parseSealedGenerationName a.fileName = none ∧
    parseActiveJournalGenerationName a.fileName = none ∧
    parseActiveCheckpointGenerationName a.fileName = none := by
  decide +kernel

theorem slot_cases {slot : UInt8} (h : slot < 3) : slot = 0 ∨ slot = 1 ∨ slot = 2 := by
  have hall : ∀ n : Fin 256, UInt8.ofNat n.val < 3 →
      UInt8.ofNat n.val = 0 ∨ UInt8.ofNat n.val = 1 ∨ UInt8.ofNat n.val = 2 := by
    decide +kernel
  have hslot := hall ⟨slot.toNat, slot.toNat_lt⟩
  rw [UInt8.ofNat_toNat] at hslot
  exact hslot h

/-- What the inventory recognizes has a fixed name, or the name of a generation. -/
theorem mem_fixedArtifacts {a : Artifact} (h : a.recognized = true) :
    a ∈ fixedArtifacts ∨ a.isNumbered = true := by
  have hslot {family : UInt8 → Artifact} (h0 : family 0 ∈ fixedArtifacts)
      (h1 : family 1 ∈ fixedArtifacts) (h2 : family 2 ∈ fixedArtifacts) {slot : UInt8}
      (h : decide (slot < 3) = true) :
      family slot ∈ fixedArtifacts := by
    rcases slot_cases (of_decide_eq_true h) with rfl | rfl | rfl
    · exact h0
    · exact h1
    · exact h2
  cases a with
  | foreign name => exact nomatch h
  | registry slot => exact Or.inl (hslot (by decide) (by decide) (by decide) h)
  | retry slot => exact Or.inl (hslot (by decide) (by decide) (by decide) h)
  | recovery slot => exact Or.inl (hslot (by decide) (by decide) (by decide) h)
  | catalog slot => exact Or.inl (hslot (by decide) (by decide) (by decide) h)
  | manifest slot =>
    have hall : ∀ slot : Fin 2, Artifact.manifest slot ∈ fixedArtifacts := by decide
    exact Or.inl (hall slot)
  | sealedJournal generation => exact Or.inr rfl
  | activeJournal generation =>
    by_cases hone : generation = 1
    · subst hone
      exact Or.inl (by decide)
    · exact Or.inr (decide_eq_true fun hval => hone (Fin.ext hval))
  | activeCheckpoint generation =>
    by_cases hone : generation = 1
    · subst hone
      exact Or.inl (by decide)
    · exact Or.inr (decide_eq_true fun hval => hone (Fin.ext hval))
  | _ => exact Or.inl (by decide)

/-- What the inventory recognizes under a number is parsed. -/
theorem numbered_parsed {a : Artifact} (h : a.recognized = true) (hnumbered : a.isNumbered = true) :
    (∃ g, a = .sealedJournal g ∧ parseSealedGenerationName a.fileName = some g) ∨
    (∃ g, a = .activeJournal g ∧ parseActiveJournalGenerationName a.fileName = some g) ∨
    ∃ g, a = .activeCheckpoint g ∧ parseActiveCheckpointGenerationName a.fileName = some g := by
  have hpositive {g : U64} (h : decide (g ≠ 0) = true) : 1 ≤ g.val := by
    have hne : g.val ≠ 0 := fun hzero => of_decide_eq_true h (Fin.ext hzero)
    omega
  cases a with
  | sealedJournal g =>
    exact Or.inl ⟨g, rfl, parseGenerationName_eq_some.mpr ⟨hpositive h, rfl⟩⟩
  | activeJournal g =>
    have hne : g.val ≠ activeJournalGeneration := of_decide_eq_true hnumbered
    have htwo : 2 ≤ g.val := by
      have hone := hpositive h
      unfold activeJournalGeneration at hne
      omega
    exact Or.inr (Or.inl ⟨g, rfl, parseGenerationName_eq_some.mpr ⟨htwo, if_neg hne⟩⟩)
  | activeCheckpoint g =>
    have hne : g.val ≠ activeJournalGeneration := of_decide_eq_true hnumbered
    have htwo : 2 ≤ g.val := by
      have hone := hpositive h
      unfold activeJournalGeneration at hne
      omega
    exact Or.inr (Or.inr ⟨g, rfl, parseGenerationName_eq_some.mpr ⟨htwo, if_neg hne⟩⟩)
  | _ => exact nomatch hnumbered

/-- The three families have no name in common. -/
theorem generationNames_disjoint (g g' : U64) :
    generationName sealedStart journalStop g ≠ generationName activeStart journalStop g' ∧
    generationName sealedStart journalStop g ≠ generationName activeStart checkpointStop g' ∧
    generationName activeStart journalStop g ≠ generationName activeStart checkpointStop g' := by
  have hstart : sealedStart.length = activeStart.length := by decide +kernel
  have hne : sealedStart ≠ activeStart := by decide +kernel
  have hstop : journalStop.length ≠ checkpointStop.length := by decide +kernel
  have hlength (g : U64) : (padded 10 20 g.val).length = 20 :=
    length_padded (by decide) (by decide) (Nat.lt_of_lt_of_le g.isLt (by decide))
  refine ⟨fun h => hne (List.append_inj_left h hstart),
    fun h => hne (List.append_inj_left h hstart),
    ?_⟩
  intro h
  have hlengths := congrArg List.length h
  unfold generationName at hlengths
  rw [List.length_append, List.length_append, List.length_append, List.length_append, hlength,
    hlength] at hlengths
  omega

/-- An artifact that the inventory recognizes is told from its name. -/
theorem Artifact.fileName_inj {a b : Artifact} (ha : a.recognized = true)
    (hb : b.recognized = true) (h : a.fileName = b.fileName) : a = b := by
  have hfixed {a b : Artifact} (ha : a ∈ fixedArtifacts) (hb : b.recognized = true)
      (hnumbered : b.isNumbered = true) (h : a.fileName = b.fileName) : False := by
    obtain ⟨hsealed, hjournal, hcheckpoint⟩ := fixed_not_parsed a ha
    rw [h] at hsealed hjournal hcheckpoint
    rcases numbered_parsed hb hnumbered with ⟨g, -, hparse⟩ | ⟨g, -, hparse⟩ | ⟨g, -, hparse⟩
    · exact absurd (hsealed.symm.trans hparse) (Option.some_ne_none g).symm
    · exact absurd (hjournal.symm.trans hparse) (Option.some_ne_none g).symm
    · exact absurd (hcheckpoint.symm.trans hparse) (Option.some_ne_none g).symm
  rcases mem_fixedArtifacts ha with hafixed | hanumbered
  · rcases mem_fixedArtifacts hb with hbfixed | hbnumbered
    · exact List.inj_on_of_nodup_map fixed_names_nodup hafixed hbfixed h
    · exact absurd h (hfixed hafixed hb hbnumbered)
  · rcases mem_fixedArtifacts hb with hbfixed | hbnumbered
    · exact absurd h.symm (hfixed hbfixed ha hanumbered)
    · have hname {start stop : Text} {minimum : Nat} {g : U64} {name : Text}
          (h : parseGenerationName name start stop minimum = some g) :
          name = generationName start stop g := (parseGenerationName_eq_some.mp h).2
      rcases numbered_parsed ha hanumbered with
        ⟨g, rfl, hparse⟩ | ⟨g, rfl, hparse⟩ | ⟨g, rfl, hparse⟩
      all_goals rcases numbered_parsed hb hbnumbered with
        ⟨g', rfl, hparse'⟩ | ⟨g', rfl, hparse'⟩ | ⟨g', rfl, hparse'⟩
      all_goals have heq := (hname hparse).symm.trans (h.trans (hname hparse'))
      · rw [generationName_inj heq]
      · exact absurd heq (generationNames_disjoint g g').1
      · exact absurd heq (generationNames_disjoint g g').2.1
      · exact absurd heq.symm (generationNames_disjoint g' g).1
      · rw [generationName_inj heq]
      · exact absurd heq (generationNames_disjoint g g').2.2
      · exact absurd heq.symm (generationNames_disjoint g' g).2.1
      · exact absurd heq.symm (generationNames_disjoint g' g).2.2
      · rw [generationName_inj heq]

theorem exactly_answers {fixed name : Text} {artifact a : Artifact}
    (hfixed : artifact.recognized = true ∧ artifact.fileName = fixed)
    (h : exactly fixed artifact name = some a) : a.recognized = true ∧ a.fileName = name := by
  unfold exactly at h
  split at h
  next heq =>
    obtain rfl := Option.some.inj h
    rw [heq]
    exact hfixed
  next => exact nomatch h

theorem anySlot_answers {names : List Text} {slot : Nat → Artifact} {name : Text} {a : Artifact}
    (hslots : ∀ i < names.length, (slot i).recognized = true ∧
      names[i]? = some (slot i).fileName)
    (h : anySlot names slot name = some a) : a.recognized = true ∧ a.fileName = name := by
  obtain ⟨i, hi, rfl⟩ := Option.map_eq_some_iff.mp h
  obtain ⟨hlt, hat, -⟩ := List.findIdx?_eq_some_iff_getElem.mp hi
  obtain ⟨hrecognized, hname⟩ := hslots i hlt
  rw [List.getElem?_eq_getElem hlt, Option.some.injEq] at hname
  exact ⟨hrecognized, hname.symm.trans (eq_of_beq hat)⟩

theorem generation_answers {start stop : Text} {minimum : Nat} {family : U64 → Artifact}
    {name : Text} {a : Artifact}
    (hfamily : ∀ g : U64, minimum ≤ g.val → (family g).recognized = true ∧
      (family g).fileName = generationName start stop g)
    (h : (parseGenerationName name start stop minimum).map family = some a) :
    a.recognized = true ∧ a.fileName = name := by
  obtain ⟨g, hg, rfl⟩ := Option.map_eq_some_iff.mp h
  obtain ⟨hminimum, rfl⟩ := parseGenerationName_eq_some.mp hg
  exact hfamily g hminimum

/-- What a test answers is recognized, and has the name that was put to the test. -/
theorem inventoryTests_answer {name : Text} {a : Artifact} :
    ∀ test ∈ inventoryTests, test name = some a → a.recognized = true ∧ a.fileName = name := by
  have hpositive {minimum : Nat} (hminimum : 1 ≤ minimum) {g : U64} (h : minimum ≤ g.val) :
      decide (g ≠ 0) = true := by
    refine decide_eq_true fun hzero => ?_
    rw [hzero] at h
    change minimum ≤ 0 at h
    omega
  have hlater {g : U64} (h : 2 ≤ g.val) : g.val ≠ activeJournalGeneration := by
    unfold activeJournalGeneration
    omega
  unfold inventoryTests
  simp only [List.forall_mem_cons, List.not_mem_nil, false_imp_iff, implies_true, and_true]
  refine ⟨exactly_answers ⟨rfl, rfl⟩, exactly_answers ⟨rfl, rfl⟩, exactly_answers ⟨rfl, rfl⟩,
    exactly_answers ⟨rfl, rfl⟩, exactly_answers ⟨rfl, rfl⟩, exactly_answers ⟨rfl, rfl⟩,
    exactly_answers ⟨rfl, rfl⟩, ?_, anySlot_answers (by decide +kernel),
    anySlot_answers (by decide +kernel), anySlot_answers (by decide +kernel),
    anySlot_answers (by decide +kernel), exactly_answers ⟨rfl, rfl⟩, ?_, ?_, ?_,
    exactly_answers ⟨rfl, rfl⟩, exactly_answers ⟨rfl, rfl⟩, anySlot_answers (by decide +kernel)⟩
  · intro h
    rcases Option.or_eq_some_iff.mp h with h | ⟨-, h⟩
    · exact @exactly_answers _ _ .catalogStaging _ ⟨rfl, rfl⟩ h
    · exact @exactly_answers _ _ .sealedJournalStaging _ ⟨rfl, rfl⟩ h
  · refine generation_answers fun g hminimum => ⟨?_, rfl⟩
    exact hpositive (Nat.le_refl 1) hminimum
  · refine generation_answers fun g hminimum => ⟨?_, if_neg (hlater hminimum)⟩
    exact hpositive (by decide) hminimum
  · refine generation_answers fun g hminimum => ⟨?_, if_neg (hlater hminimum)⟩
    exact hpositive (by decide) hminimum

theorem exists_answer {a : Artifact} (h : a.recognized = true) :
    ∃ test ∈ inventoryTests, (test a.fileName).isSome = true := by
  have hfixed : ∀ a ∈ fixedArtifacts,
      ∃ test ∈ inventoryTests, (test a.fileName).isSome = true := by
    decide +kernel
  rcases mem_fixedArtifacts h with hmem | hnumbered
  · exact hfixed a hmem
  · unfold inventoryTests
    simp only [List.exists_mem_cons_iff]
    rcases numbered_parsed h hnumbered with ⟨g, -, hparse⟩ | ⟨g, -, hparse⟩ | ⟨g, -, hparse⟩
    · rw [hparse]
      simp
    · rw [hparse]
      simp
    · rw [hparse]
      simp

/-- The inventory knows exactly the names that the store writes. -/
theorem classifyName_iff {name : Text} {a : Artifact} (h : a.recognized = true) :
    classifyName name = a ↔ name = a.fileName := by
  unfold classifyName
  cases hfound : inventoryTests.findSome? fun test => test name with
  | none =>
    rw [Option.getD_none]
    constructor
    · rintro rfl
      exact nomatch h
    · rintro rfl
      obtain ⟨test, hmem, hanswer⟩ := exists_answer h
      rw [List.findSome?_eq_none_iff.mp hfound test hmem] at hanswer
      exact nomatch hanswer
  | some found =>
    rw [Option.getD_some]
    obtain ⟨test, hmem, hanswer⟩ := List.exists_of_findSome?_eq_some hfound
    obtain ⟨hrecognized, hname⟩ := inventoryTests_answer test hmem hanswer
    constructor
    · rintro rfl
      exact hname.symm
    · intro heq
      exact Artifact.fileName_inj hrecognized h (hname.trans heq)

/-- The file names of the generations. What the store writes for a generation is parsed as that
generation, with the names of the first active generation known by their fixed spelling; what a
parser takes for a generation is what the store writes for it; and no two artifacts that the
inventory recognizes have one name, so that all the tests that know a name say the same. -/
theorem generation_names :
    (∀ g : U64, 1 ≤ g.val → parseSealedGenerationName (sealedJournalFileName g) = some g) ∧
    (∀ g : U64, 2 ≤ g.val →
      parseActiveJournalGenerationName (activeJournalFileName g) = some g ∧
      parseActiveCheckpointGenerationName (activeCheckpointFileName g) = some g) ∧
    (∀ g : U64, 1 ≤ g.val → classifyName (sealedJournalFileName g) = .sealedJournal g ∧
      classifyName (activeJournalFileName g) = .activeJournal g ∧
      classifyName (activeCheckpointFileName g) = .activeCheckpoint g) ∧
    (∀ name g, parseSealedGenerationName name = some g →
      1 ≤ g.val ∧ name = sealedJournalFileName g) ∧
    (∀ name g, parseActiveJournalGenerationName name = some g →
      2 ≤ g.val ∧ name = activeJournalFileName g) ∧
    (∀ name g, parseActiveCheckpointGenerationName name = some g →
      2 ≤ g.val ∧ name = activeCheckpointFileName g) ∧
    (∀ a b : Artifact, a.recognized = true → b.recognized = true → a.fileName = b.fileName →
      a = b) ∧
    (∀ name, ∀ test ∈ inventoryTests, ∀ test' ∈ inventoryTests, ∀ a b,
      test name = some a → test' name = some b → a = b) ∧
    ∀ name (a : Artifact), a.recognized = true → (classifyName name = a ↔ name = a.fileName) := by
  have hlater {g : U64} (h : 2 ≤ g.val) : g.val ≠ activeJournalGeneration := by
    unfold activeJournalGeneration
    omega
  have hrecognized {g : U64} (h : 1 ≤ g.val) : decide (g ≠ 0) = true := by
    refine decide_eq_true fun hzero => ?_
    rw [hzero] at h
    exact absurd h (by decide)
  refine ⟨?sealed, ?active, ?known, ?sealedOnly, ?journalOnly, ?checkpointOnly,
    fun a b => Artifact.fileName_inj, ?once, fun name a => classifyName_iff⟩
  case sealed =>
    intro g h
    exact parseGenerationName_eq_some.mpr ⟨h, rfl⟩
  case active =>
    intro g h
    exact ⟨parseGenerationName_eq_some.mpr ⟨h, if_neg (hlater h)⟩,
      parseGenerationName_eq_some.mpr ⟨h, if_neg (hlater h)⟩⟩
  case known =>
    intro g h
    have hgeneration := hrecognized h
    exact ⟨(classifyName_iff (a := .sealedJournal g) hgeneration).mpr rfl,
      (classifyName_iff (a := .activeJournal g) hgeneration).mpr rfl,
      (classifyName_iff (a := .activeCheckpoint g) hgeneration).mpr rfl⟩
  case sealedOnly =>
    intro name g h
    exact parseGenerationName_eq_some.mp h
  case journalOnly =>
    intro name g h
    obtain ⟨hminimum, hname⟩ := parseGenerationName_eq_some.mp h
    exact ⟨hminimum, hname.trans (if_neg (hlater hminimum)).symm⟩
  case checkpointOnly =>
    intro name g h
    obtain ⟨hminimum, hname⟩ := parseGenerationName_eq_some.mp h
    exact ⟨hminimum, hname.trans (if_neg (hlater hminimum)).symm⟩
  case once =>
    intro name test hmem test' hmem' a b ha hb
    obtain ⟨hrecognizedA, hnameA⟩ := inventoryTests_answer test hmem ha
    obtain ⟨hrecognizedB, hnameB⟩ := inventoryTests_answer test' hmem' hb
    exact Artifact.fileName_inj hrecognizedA hrecognizedB (hnameA.trans hnameB.symm)

end Historian
