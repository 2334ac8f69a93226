import Historian.Inventory
import Historian.SortedMap

namespace Historian

open Wire Checks SortedMap

def dataFiles : List Text := [
  "fault-registry.tsv".toList, "fault-results.tsv".toList, "matrix.tsv".toList,
  "resource-ledger.tsv".toList, "run.kv".toList, "timing-samples.tsv".toList,
  "timing-summary.tsv".toList]

def allFiles : List Text := "SHA256SUMS".toList :: dataFiles

def maxBundleBytes : Nat := 64 * 1024 * 1024
def maxFileBytes : Nat := 16 * 1024 * 1024
def maxLineBytes : Nat := 4096
def maxScalarBytes : Nat := 1024

/-- The pieces of a list that end with a separator each, and what is left behind the last one. -/
def splitInclusive {α : Type} [DecidableEq α] (stop : α) : List α → List (List α)
  | [] => []
  | x :: rest =>
    if x = stop then [x] :: splitInclusive stop rest
    else match splitInclusive stop rest with
      | [] => [[x]]
      | piece :: pieces => (x :: piece) :: pieces

/-- What stands in front of the first occurrence of a pattern, and behind it. -/
def splitOnce (pattern : Text) : Text → Option (Text × Text)
  | [] => if pattern = [] then some ([], []) else none
  | c :: rest =>
    if pattern.isPrefixOf (c :: rest) then some ([], (c :: rest).drop pattern.length)
    else (splitOnce pattern rest).map fun (before, behind) => (c :: before, behind)

def containsText (pattern text : Text) : Bool := (splitOnce pattern text).isSome

/-- The lines of a text, without their line feeds and the carriage returns in front of these. -/
def textLines (text : Text) : List Text :=
  (splitInclusive '\n' text).map fun physical =>
    if physical.getLast? = some '\n' then
      let line := physical.dropLast
      if line.getLast? = some '\r' then line.dropLast else line
    else physical

def toAsciiLowercase (value : Text) : Text := value.map Char.toLower

def forbiddenWords : List Text := [
  "username".toList, "hostname".toList, "cloud_project".toList, "instance_id".toList,
  "credential".toList, "password".toList, "secret_key".toList, "environment_dump".toList,
  "canonical_payload".toList, "raw_journal_bytes".toList, "segment_bytes".toList,
  "core_dump".toList]

def scalarByte (byte : UInt8) : Bool :=
  (0x30 ≤ byte ∧ byte ≤ 0x39) ∨ (0x41 ≤ byte ∧ byte ≤ 0x5a) ∨ (0x61 ≤ byte ∧ byte ≤ 0x7a) ∨
    byte ∈ utf8Encode ['-', '_', '.', ':', ',', '+', '=']

def validateScalar (value : Text) : Except EvidenceError Unit :=
  let lowercase := toAsciiLowercase value
  refuse (value = [] ∨ maxScalarBytes < value.len ∨ value.head? = some '/' ∨ '\\' ∈ value ∨
    containsText ['.', '.'] value ∨ (utf8Encode value)[1]? = some 0x3a ∨
    ¬(utf8Encode value).all scalarByte ∨
    forbiddenWords.any fun word => containsText word lowercase) .invalidHarness

def validateReportIdentity (name : Text) : Except EvidenceError Unit :=
  refuse (name ∉ allFiles ∨ name.head? = some '/' ∨ '\\' ∈ name ∨ containsText ['.', '.'] name)
    .unsafeInventory

def validateLine (physical : Bytes) : Except EvidenceError Unit := do
  refuse (maxLineBytes < physical.length) .bounds
  refuse (physical.getLast? ≠ some 0x0a) .invalidHarness
  let text ← (utf8Decode physical.dropLast).elim (throw .invalidHarness) pure
  refuse (text = []) .invalidHarness
  if '\t' ∈ text then
    (text.splitOn '\t').forM validateScalar
  else
    match splitOnce ['='] text with
    | some (key, value) => do
      validateScalar key
      validateScalar value
    | none =>
      match splitOnce [' ', ' '] text with
      | some (hash, name) => do
        validateScalar hash
        validateReportIdentity name
      | none => validateScalar text

def validateFileBytes (bytes : Bytes) : Except EvidenceError Unit := do
  refuse (bytes = [] ∨ bytes.getLast? ≠ some 0x0a ∨ utf8Decode bytes = none) .invalidHarness
  (splitInclusive 0x0a bytes).forM validateLine

/-- A sum of sizes, with the error of a sum that is too large. -/
def checkedSum (error : EvidenceError) (lengths : List Nat) : Except EvidenceError Nat :=
  lengths.foldlM (fun (total length : Nat) => do
    refuse (2 ^ 64 ≤ total + length) error
    pure (total + length)) 0

def checkedBundleTotal (lengths : List Nat) : Except EvidenceError Nat := do
  let total ← checkedSum .replan lengths
  refuse (maxBundleBytes < total) .replan
  pure total

/-- Strings are ordered by their bytes. -/
def textLt (a b : Text) : Bool := decide (utf8Encode a < utf8Encode b)

/-- The files of a bundle in the order of their names. -/
abbrev BundleFiles := List (Text × Bytes)

def checksumLine (bundle : BundleFiles) (name : Text) : Except EvidenceError Bytes := do
  let bytes ← (get? name bundle).elim (throw .invalidHarness) pure
  let digest ← digest bytes
  pure (utf8Encode (hex digest ++ [' ', ' '] ++ name ++ ['\n']))

def checksumFile (bundle : BundleFiles) : Except EvidenceError Bytes := do
  refuse (bundle.length ≠ dataFiles.length ∨ dataFiles.any fun name => (get? name bundle).isNone)
    .invalidHarness
  let lines ← dataFiles.mapM (checksumLine bundle)
  pure lines.flatten

def preflightFile (file : Text × Bytes) : Except EvidenceError Unit := do
  validateReportIdentity file.1
  validateFileBytes file.2
  refuse (maxFileBytes < file.2.length) .replan

def preflightBundle (bundle : BundleFiles) : Except EvidenceError Unit := do
  refuse (bundle.length ≠ allFiles.length ∨ allFiles.any fun name => (get? name bundle).isNone)
    .invalidHarness
  bundle.forM preflightFile
  let _ ← checkedBundleTotal (bundle.map fun file => file.2.length)

/-- The name on a line of checksums, which has to be the digest of the file of that name. -/
def validateChecksum (bundle : BundleFiles) (line : Text) : Except EvidenceError Text :=
  match splitOnce [' ', ' '] line with
  | none => throw .invalidHarness
  | some (hash, name) => do
    refuse (hash ≠ toAsciiLowercase hash ∨ (parseHex hash).toOption = none ∨ name ∉ dataFiles)
      .invalidHarness
    let bytes ← (get? name bundle).elim (throw .invalidHarness) pure
    let digest ← digest bytes
    refuse (hex digest ≠ hash) .invalidHarness
    pure name

def validateChecksums (bundle : BundleFiles) : Except EvidenceError Unit := do
  let bytes ← (get? "SHA256SUMS".toList bundle).elim (throw .invalidHarness) pure
  let checksums ← (utf8Decode bytes).elim (throw .invalidHarness) pure
  let names ← (textLines checksums).mapM (validateChecksum bundle)
  refuse (names ≠ dataFiles) .invalidHarness

/-- What the context and the witnesses of a report are rendered to: the bundle that is published,
and the one that a published bundle is compared with. -/
structure Rendering where
  bundle : Except EvidenceError BundleFiles
  expected : Except EvidenceError BundleFiles
  ordered : ∀ files, bundle = .ok files → Ordered textLt files

def validateBundleBytes (rendering : Rendering) (actual : BundleFiles) :
    Except EvidenceError Unit := do
  preflightBundle actual
  validateChecksums actual
  let expected ← rendering.expected
  refuse (actual ≠ expected) .invalidHarness

/-- An entry of the directory of a bundle. -/
inductive BundleEntry where
  | file (bytes : Bytes)
  | other
  deriving DecidableEq

/-- A directory in the order in which it is read. -/
abbrev Directory := List (Text × BundleEntry)

def readBundle : BundleFiles → Directory → Except EvidenceError BundleFiles
  | bundle, [] => pure bundle
  | _, (_, .other) :: _ => throw .unsafeInventory
  | bundle, (name, .file bytes) :: rest => do
    validateReportIdentity name
    refuse (get? name bundle ≠ none) .invalidHarness
    refuse (maxFileBytes < bytes.length) .bounds
    readBundle (SortedMap.insert textLt name bytes bundle) rest

def validateDirectory (rendering : Rendering) (directory : Directory) :
    Except EvidenceError Unit := do
  let bundle ← readBundle [] directory
  validateBundleBytes rendering bundle

structure ReportSummary where
  bundleFiles : Nat
  bundleBytes : Nat
  timingRows : Nat
  timingSummaryRows : Nat
  resourceRows : Nat
  registryRows : Nat
  faultResultRows : Nat
  matrixRows : Nat
  deriving DecidableEq

def summaryRows (bundle : BundleFiles) (name : Text) : Except EvidenceError Nat := do
  let bytes ← (get? name bundle).elim (throw .invalidHarness) pure
  pure (bytes.count 0x0a + 1 - 2)

def summary (bundle : BundleFiles) : Except EvidenceError ReportSummary := do
  let bundleBytes ← checkedSum .bounds (bundle.map fun file => file.2.length)
  let timingRows ← summaryRows bundle "timing-samples.tsv".toList
  let timingSummaryRows ← summaryRows bundle "timing-summary.tsv".toList
  let resourceRows ← summaryRows bundle "resource-ledger.tsv".toList
  let registryRows ← summaryRows bundle "fault-registry.tsv".toList
  let faultResultRows ← summaryRows bundle "fault-results.tsv".toList
  let matrixRows ← summaryRows bundle "matrix.tsv".toList
  pure ⟨bundle.length, bundleBytes, timingRows, timingSummaryRows, resourceRows, registryRows,
    faultResultRows, matrixRows⟩

variable {rendering : Rendering} {bundle : BundleFiles}

theorem textLt_trans {a b c : Text} (hab : textLt a b = true) (hbc : textLt b c = true) :
    textLt a c = true := by
  unfold textLt at *
  rw [decide_eq_true_eq] at *
  exact List.lt_trans hab hbc

theorem textLt_irrefl (a : Text) : textLt a a = false := by
  unfold textLt
  rw [decide_eq_false_iff_not]
  exact List.lt_irrefl _

theorem checkedSum_ok {error : EvidenceError} {lengths : List Nat} {total : Nat} :
    checkedSum error lengths = .ok total ↔ lengths.sum = total ∧ lengths.sum < 2 ^ 64 := by
  have hfold : ∀ start : Nat, start < 2 ^ 64 →
      (lengths.foldlM (fun (total length : Nat) => do
        refuse (2 ^ 64 ≤ total + length) error
        pure (total + length)) start = .ok total ↔
          start + lengths.sum = total ∧ start + lengths.sum < 2 ^ 64) := by
    intro start hstart
    induction lengths generalizing start with
    | nil =>
      rw [List.foldlM_nil, pure_ok, List.sum_nil, Nat.add_zero]
      exact (and_iff_left hstart).symm
    | cons length rest ih =>
      rw [List.foldlM_cons, List.sum_cons, ← Nat.add_assoc]
      simp only [bind_ok, exists_unit, refuse_ok, pure_ok, Nat.not_le]
      constructor
      · intro h
        obtain ⟨next, ⟨hlt, rfl⟩, hrest⟩ := h
        exact (ih _ hlt).mp hrest
      · intro h
        have hlt : start + length < 2 ^ 64 := by omega
        exact ⟨_, ⟨hlt, rfl⟩, (ih _ hlt).mpr h⟩
  have hzero := hfold 0 (by omega)
  rw [Nat.zero_add] at hzero
  exact hzero

theorem preflightBundle_ok : preflightBundle bundle = .ok () ↔
    bundle.length = allFiles.length ∧ (∀ name ∈ allFiles, ∃ bytes, get? name bundle = some bytes) ∧
      (∀ file ∈ bundle, preflightFile file = .ok ()) ∧
      (bundle.map fun file => file.2.length).sum ≤ maxBundleBytes := by
  have hmax : maxBundleBytes < 2 ^ 64 := by decide
  unfold preflightBundle checkedBundleTotal
  simp only [bind_ok, exists_unit, refuse_ok, pure_ok, forM_ok, checkedSum_ok, not_or, not_not,
    Nat.not_lt, List.any_eq_true, not_exists, not_and, Bool.not_eq_true, Option.isNone_eq_false_iff,
    Option.isSome_iff_exists, and_true]
  constructor
  · intro h
    obtain ⟨⟨hlength, hnames⟩, hfiles, _, _, ⟨hsum, -⟩, hle, -⟩ := h
    exact ⟨hlength, hnames, hfiles, hsum ▸ hle⟩
  · intro h
    obtain ⟨hlength, hnames, hfiles, hle⟩ := h
    exact ⟨⟨hlength, hnames⟩, hfiles, _, _, ⟨rfl, by omega⟩, hle, rfl⟩

theorem preflightFile_ok {file : Text × Bytes} (h : preflightFile file = .ok ()) :
    validateReportIdentity file.1 = .ok () ∧ file.2.length ≤ maxFileBytes := by
  unfold preflightFile at h
  simp only [then_ok, refuse_ok, Nat.not_lt] at h
  exact ⟨h.1, h.2.2⟩

/-- The entry that a file of a bundle gets. -/
def stagedEntry (file : Text × Bytes) : Text × BundleEntry := (file.1, .file file.2)

/-- The files of a bundle are read back in their order. -/
theorem readBundle_staged {front : BundleFiles} (hordered : Ordered textLt (front ++ bundle))
    (hfiles : ∀ file ∈ bundle, preflightFile file = .ok ()) :
    readBundle front (bundle.map stagedEntry) = .ok (front ++ bundle) := by
  induction bundle generalizing front with
  | nil => rw [List.append_nil]; rfl
  | cons file rest ih =>
    obtain ⟨name, bytes⟩ := file
    obtain ⟨hfile, hrest⟩ := List.forall_mem_cons.mp hfiles
    obtain ⟨hidentity, hlength⟩ := preflightFile_ok hfile
    have hbehind : ∀ entry ∈ front, textLt entry.1 name = true := by
      intro entry hentry
      exact (List.pairwise_append.mp hordered).2.2 entry hentry (name, bytes) List.mem_cons_self
    have hnone : get? name front = none := by
      apply get?_eq_none
      intro entry hentry heq
      have hlt := hbehind entry hentry
      rw [heq, textLt_irrefl] at hlt
      cases hlt
    have hinsert : SortedMap.insert textLt name bytes front = front ++ [(name, bytes)] :=
      @insert_last _ _ _ textLt textLt_trans textLt_irrefl _ _ _ hbehind
    have hrest' : Ordered textLt ((front ++ [(name, bytes)]) ++ rest) := by
      rw [List.append_assoc]
      exact hordered
    have hread := ih hrest' hrest
    rw [List.map_cons, stagedEntry, readBundle, hinsert]
    simp only [then_ok, refuse_ok]
    refine ⟨hidentity, fun hsome => hsome hnone, Nat.not_lt.mpr hlength, ?_⟩
    rw [hread, List.append_assoc]
    rfl

/-- A report that has a bundle, which is valid. -/
structure Rendering.Accepts (rendering : Rendering) (bundle : BundleFiles) : Prop where
  built : rendering.bundle = .ok bundle
  valid : validateBundleBytes rendering bundle = .ok ()

namespace Rendering.Accepts

theorem preflight (h : rendering.Accepts bundle) : preflightBundle bundle = .ok () := by
  have hvalid := h.valid
  unfold validateBundleBytes at hvalid
  exact (then_ok.mp hvalid).1

/-- What has been staged completely is valid. -/
theorem validateDirectory (h : rendering.Accepts bundle) :
    validateDirectory rendering (bundle.map stagedEntry) = .ok () := by
  obtain ⟨-, -, hfiles, -⟩ := preflightBundle_ok.mp h.preflight
  have hread := @readBundle_staged bundle [] (rendering.ordered bundle h.built) hfiles
  unfold Historian.validateDirectory
  rw [hread]
  exact h.valid

theorem summary (h : rendering.Accepts bundle) : ∃ result, summary bundle = .ok result := by
  obtain ⟨-, hnames, -, hsum⟩ := preflightBundle_ok.mp h.preflight
  have hmax : maxBundleBytes < 2 ^ 64 := by decide
  have htotal : checkedSum .bounds (bundle.map fun file => file.2.length) =
      .ok (bundle.map fun file => file.2.length).sum := checkedSum_ok.mpr ⟨rfl, by omega⟩
  have hrows : ∀ name ∈ allFiles, ∃ rows, summaryRows bundle name = .ok rows := by
    intro name hname
    obtain ⟨bytes, hget⟩ := hnames name hname
    unfold summaryRows
    rw [hget]
    exact ⟨_, rfl⟩
  obtain ⟨timing, htiming⟩ := hrows "timing-samples.tsv".toList (by decide)
  obtain ⟨timings, htimings⟩ := hrows "timing-summary.tsv".toList (by decide)
  obtain ⟨resource, hresource⟩ := hrows "resource-ledger.tsv".toList (by decide)
  obtain ⟨registry, hregistry⟩ := hrows "fault-registry.tsv".toList (by decide)
  obtain ⟨fault, hfault⟩ := hrows "fault-results.tsv".toList (by decide)
  obtain ⟨matrix, hmatrix⟩ := hrows "matrix.tsv".toList (by decide)
  unfold Historian.summary
  rw [htotal, htiming, htimings, hresource, hregistry, hfault, hmatrix]
  exact ⟨_, rfl⟩

end Rendering.Accepts

end Historian
