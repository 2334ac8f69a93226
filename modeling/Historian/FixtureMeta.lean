import Historian.FixtureFields
import Historian.RecoveryState

namespace Historian

open Wire Checks Machine Numeral

def fixtureSchema : Text := "och-v2-evidence-fixture-v1".toList
def identitySchema : Text := "och-v2-evidence-segment-identity-v1".toList

def Ledger.maxFrames : Nat := 4096
def Ledger.maxSeries : Nat := 4096
def Ledger.maxObservations : Nat := 1048576

structure FixtureMeta where
  caseName : Text
  seed : U64
  storeId : StoreId
  journalGeneration : U64
  sequenceFloor : U64
  sequenceCutoff : U64
  registryGeneration : U64
  sourceLength : U64
  sourceChecksum : U32
  frameCount : U64
  seriesCount : U64
  observationCount : U64
  deriving DecidableEq

def caseByte (byte : UInt8) : Bool :=
  (0x61 ≤ byte && byte ≤ 0x7A) || (0x30 ≤ byte && byte ≤ 0x39) || byte == 0x2D

def validCaseName (value : Text) : Bool :=
  !value.isEmpty && value.len ≤ 64 && (utf8Encode value).all caseByte

def FixtureMeta.validate (fixture : FixtureMeta) : Except EvidenceError Unit := do
  refuse (fixture.sequenceCutoff < fixture.sequenceFloor) .invalidFixture
  let expectedFrames := fixture.sequenceCutoff.val - fixture.sequenceFloor.val
  refuse (validCaseName fixture.caseName = false ∨ fixture.journalGeneration = 0 ∨
    fixture.registryGeneration = 0 ∨ fixture.frameCount = 0 ∨
    Ledger.maxFrames < fixture.frameCount.val ∨
    fixture.seriesCount = 0 ∨ Ledger.maxSeries < fixture.seriesCount.val ∨
    fixture.frameCount < fixture.seriesCount ∨
    Ledger.maxObservations < fixture.observationCount.val ∨
    fixture.frameCount.val ≠ expectedFrames ∨ fixture.sourceLength.val ≤ journalV1HeaderLen ∨
    maxActiveJournalBytes < fixture.sourceLength.val) .invalidFixture

def FixtureMeta.fields (fixture : FixtureMeta) : Fields := [
  ("schema".toList, fixtureSchema),
  ("case".toList, fixture.caseName),
  ("seed".toList, Nat.toDigits 10 fixture.seed.val),
  ("store_id".toList, encodeHex fixture.storeId.bytes),
  ("journal_generation".toList, Nat.toDigits 10 fixture.journalGeneration.val),
  ("sequence_floor".toList, Nat.toDigits 10 fixture.sequenceFloor.val),
  ("sequence_cutoff".toList, Nat.toDigits 10 fixture.sequenceCutoff.val),
  ("registry_generation".toList, Nat.toDigits 10 fixture.registryGeneration.val),
  ("source_length".toList, Nat.toDigits 10 fixture.sourceLength.val),
  ("source_crc32c".toList, padded 16 8 fixture.sourceChecksum.val),
  ("frames".toList, Nat.toDigits 10 fixture.frameCount.val),
  ("series".toList, Nat.toDigits 10 fixture.seriesCount.val),
  ("observations".toList, Nat.toDigits 10 fixture.observationCount.val)]

def FixtureMeta.encode (fixture : FixtureMeta) : Text := encodeFields fixture.fields

def takeU64 (fields : Fields) (key : Text) : Except EvidenceError (U64 × Fields) := do
  let (value, fields) ← takeField fields key
  let number ← parseU64 value
  pure (number, fields)

def takeHexU32 (fields : Fields) (key : Text) : Except EvidenceError (U32 × Fields) := do
  let (value, fields) ← takeField fields key
  let number ← parseHexU32 value
  pure (number, fields)

/-- The reader behind the bytes of the store's identity. -/
def FixtureMeta.readBehind (caseName : Text) (seed : U64) (bytes : Bytes) (fields : Fields) :
    Except EvidenceError FixtureMeta := do
  let storeId ← (Identity.fromBytes bytes).mapError fun _ => EvidenceError.invalidFixture
  let (journalGeneration, fields) ← takeU64 fields "journal_generation".toList
  let (sequenceFloor, fields) ← takeU64 fields "sequence_floor".toList
  let (sequenceCutoff, fields) ← takeU64 fields "sequence_cutoff".toList
  let (registryGeneration, fields) ← takeU64 fields "registry_generation".toList
  let (sourceLength, fields) ← takeU64 fields "source_length".toList
  let (sourceChecksum, fields) ← takeHexU32 fields "source_crc32c".toList
  let (frameCount, fields) ← takeU64 fields "frames".toList
  let (seriesCount, fields) ← takeU64 fields "series".toList
  let (observationCount, fields) ← takeU64 fields "observations".toList
  fields.finish
  let fixture : FixtureMeta := ⟨caseName, seed, storeId, journalGeneration, sequenceFloor,
    sequenceCutoff, registryGeneration, sourceLength, sourceChecksum, frameCount, seriesCount,
    observationCount⟩
  fixture.validate
  pure fixture

def FixtureMeta.read (file : File) : Run EvidenceError FixtureMeta := do
  let text ← readBoundedText file 2048 .invalidFixture
  let fields ← lift (Fields.new text)
  let (schema, fields) ← lift (takeField fields "schema".toList)
  refuseIf (schema ≠ fixtureSchema) .invalidFixture
  let (caseName, fields) ← lift (takeField fields "case".toList)
  let (seed, fields) ← lift (takeU64 fields "seed".toList)
  let (value, fields) ← lift (takeField fields "store_id".toList)
  let bytes ← decodeHex16 value
  lift (FixtureMeta.readBehind caseName seed bytes fields)

structure SegmentIdentity where
  artifactLength : U64
  artifactChecksum : U32
  sourceLength : U64
  sourceChecksum : U32
  deriving DecidableEq

def SegmentIdentity.fields (identity : SegmentIdentity) : Fields := [
  ("schema".toList, identitySchema),
  ("artifact_length".toList, Nat.toDigits 10 identity.artifactLength.val),
  ("artifact_crc32c".toList, padded 16 8 identity.artifactChecksum.val),
  ("source_length".toList, Nat.toDigits 10 identity.sourceLength.val),
  ("source_crc32c".toList, padded 16 8 identity.sourceChecksum.val)]

def SegmentIdentity.encode (identity : SegmentIdentity) : Text := encodeFields identity.fields

def SegmentIdentity.read (file : File) : Run EvidenceError SegmentIdentity := do
  let text ← readBoundedText file 512 .invalidFixture
  let fields ← lift (Fields.new text)
  let (schema, fields) ← lift (takeField fields "schema".toList)
  refuseIf (schema ≠ identitySchema) .invalidFixture
  let (artifactLength, fields) ← lift (takeU64 fields "artifact_length".toList)
  let (artifactChecksum, fields) ← lift (takeHexU32 fields "artifact_crc32c".toList)
  let (sourceLength, fields) ← lift (takeU64 fields "source_length".toList)
  let (sourceChecksum, fields) ← lift (takeHexU32 fields "source_crc32c".toList)
  lift fields.finish
  pure ⟨artifactLength, artifactChecksum, sourceLength, sourceChecksum⟩

theorem takeU64_head (key : Text) (number : U64) (fields : Fields) :
    takeU64 ((key, Nat.toDigits 10 number.val) :: fields) key = .ok (number, fields) := by
  unfold takeU64
  rw [takeField_head, ok_then]
  simp only [parseU64_toDigits, ok_then]
  rfl

theorem takeHexU32_head (key : Text) (number : U32) (fields : Fields) :
    takeHexU32 ((key, padded 16 8 number.val) :: fields) key = .ok (number, fields) := by
  unfold takeHexU32
  rw [takeField_head, ok_then]
  simp only [parseHexU32_padded, ok_then]
  rfl

theorem keys_written {keys : List Text} {fields : Fields} (hkeys : fields.map Prod.fst = keys)
    (hplain : ∀ key ∈ keys, key ≠ [] ∧ '=' ∉ key ∧ '\n' ∉ key)
    (hvalues : ∀ value ∈ fields.map Prod.snd, '\n' ∉ value ∧ '\r' ∉ value) :
    ∀ field ∈ fields, Written field := by
  intro field hmem
  subst hkeys
  obtain ⟨hne, hequals, hline⟩ := hplain _ (List.mem_map_of_mem hmem)
  obtain ⟨hvalue, hreturn⟩ := hvalues _ (List.mem_map_of_mem hmem)
  exact ⟨⟨hne, hequals⟩, hline, hvalue, hreturn⟩

/-- The name of a case is one line. -/
theorem caseName_lineless {value : Text} (h : validCaseName value = true) :
    '\n' ∉ value ∧ '\r' ∉ value := by
  unfold validCaseName at h
  rw [Bool.and_eq_true] at h
  have hall := List.all_eq_true.mp h.2
  constructor
  · intro hmem
    have hbyte : (0x0A : UInt8) ∈ utf8Encode value :=
      List.mem_flatMap.mpr ⟨'\n', hmem, by decide⟩
    exact absurd (hall _ hbyte) (by decide)
  · intro hmem
    have hbyte : (0x0D : UInt8) ∈ utf8Encode value :=
      List.mem_flatMap.mpr ⟨'\r', hmem, by decide⟩
    exact absurd (hall _ hbyte) (by decide)

theorem fixture_keys (fixture : FixtureMeta) : fixture.fields.map Prod.fst =
    ["schema".toList, "case".toList, "seed".toList, "store_id".toList,
      "journal_generation".toList, "sequence_floor".toList, "sequence_cutoff".toList,
      "registry_generation".toList, "source_length".toList, "source_crc32c".toList,
      "frames".toList, "series".toList, "observations".toList] := rfl

theorem FixtureMeta.new_encode {fixture : FixtureMeta} (h : fixture.validate = .ok ()) :
    Fields.new fixture.encode = .ok fixture.fields := by
  have hcase : validCaseName fixture.caseName = true := by
    unfold FixtureMeta.validate at h
    simp only [then_ok, refuse_ok, not_or, Bool.not_eq_false] at h
    exact h.2.1
  apply new_encodeFields
  · apply keys_written (fixture_keys fixture)
    · decide +kernel
    · unfold FixtureMeta.fields
      simp only [List.map_cons, List.map_nil, List.forall_mem_cons]
      refine ⟨by decide +kernel, caseName_lineless hcase, toDigits_lineless _,
        encodeHex_lineless _, toDigits_lineless _, toDigits_lineless _, toDigits_lineless _,
        toDigits_lineless _, toDigits_lineless _, padded_lineless 8 _, toDigits_lineless _,
        toDigits_lineless _, toDigits_lineless _, List.forall_mem_nil _⟩
  · rw [fixture_keys]
    decide +kernel

theorem FixtureMeta.len_encode {fixture : FixtureMeta} (h : fixture.validate = .ok ()) :
    Text.len fixture.encode ≤ 2048 := by
  have hcase : Text.len fixture.caseName ≤ 64 := by
    unfold FixtureMeta.validate at h
    simp only [then_ok, refuse_ok, not_or, Bool.not_eq_false] at h
    have hvalid := h.2.1
    unfold validCaseName at hvalid
    simp only [Bool.and_eq_true, decide_eq_true_eq] at hvalid
    exact hvalid.1.2
  have hstore : Text.len (encodeHex fixture.storeId.bytes) ≤ 64 := by
    rw [len_encodeHex, fixture.storeId.length_eq]
    decide
  have hcrc : Text.len (padded 16 8 fixture.sourceChecksum.val) ≤ 64 := by
    rw [len_paddedHex]
    decide
  have hdigits (n : U64) : Text.len (Nat.toDigits 10 n.val) ≤ 64 :=
    (len_toDigits n).trans (by decide)
  have hkeys : ∀ key ∈ fixture.fields.map Prod.fst, Text.len key ≤ 32 := by
    rw [fixture_keys]
    decide +kernel
  have hvalues : ∀ value ∈ fixture.fields.map Prod.snd, Text.len value ≤ 64 := by
    unfold FixtureMeta.fields
    simp only [List.map_cons, List.map_nil, List.forall_mem_cons]
    exact ⟨by decide +kernel, hcase, hdigits _, hstore, hdigits _, hdigits _, hdigits _,
      hdigits _, hdigits _, hcrc, hdigits _, hdigits _, hdigits _, List.forall_mem_nil _⟩
  have hcount : fixture.fields.length * (32 + 64 + 2) ≤ 2048 := by
    change 13 * (32 + 64 + 2) ≤ 2048
    decide
  exact (len_encodeFields_le hkeys hvalues).trans hcount

/-- The reader returns what has been written. -/
theorem FixtureMeta.read_encode {fixture : FixtureMeta} (h : fixture.validate = .ok ())
    {file : File} (hfile : file.contents = utf8Encode fixture.encode) :
    FixtureMeta.read file = .ok fixture := by
  have hlen : ¬2048 < file.contents.length := by
    rw [hfile]
    exact Nat.not_lt.mpr (FixtureMeta.len_encode h)
  have htext : readBoundedText file 2048 .invalidFixture = .ok fixture.encode := by
    rw [readBoundedText_eq _ (by decide), if_neg hlen, hfile, utf8Decode_eq_some.mpr rfl]
    rfl
  have hschema : refuseIf (fixtureSchema ≠ fixtureSchema) EvidenceError.invalidFixture = .ok () :=
    refuseIf_pass (not_not_intro rfl)
  have hid : Identity.fromBytes fixture.storeId.bytes = .ok fixture.storeId :=
    Identity.fromBytes_ok.mpr rfl
  have hfinish : Fields.finish [] = .ok () := rfl
  have hbehind : FixtureMeta.readBehind fixture.caseName fixture.seed fixture.storeId.bytes
      (fixture.fields.drop 4) = .ok fixture := by
    unfold FixtureMeta.readBehind FixtureMeta.fields
    simp only [List.drop_succ_cons, List.drop_zero, hid, Except.mapError, ok_then, takeU64_head,
      takeHexU32_head, hfinish]
    exact congrArg (· >>= fun _ => .ok fixture) h
  unfold FixtureMeta.read
  simp only [htext, ok_then, FixtureMeta.new_encode h, lift_ok]
  unfold FixtureMeta.fields at hbehind ⊢
  simp only [takeField_head, takeU64_head, lift_ok, ok_then, hschema,
    decodeHex16_encodeHex fixture.storeId.length_eq]
  exact congrArg lift hbehind

/-- A run that returns or refuses. -/
def Orderly {α : Type} (run : Run EvidenceError α) : Prop :=
  (∃ error, run = .error (.refused error)) ∨ ∃ x, run = .ok x

section Orderly

variable {α β : Type}

theorem Orderly.lift (result : Except EvidenceError α) : Orderly (lift result) := by
  cases result with
  | error error => exact Or.inl ⟨error, rfl⟩
  | ok x => exact Or.inr ⟨x, rfl⟩

theorem Orderly.refuseIf (c : Prop) [Decidable c] (error : EvidenceError) :
    Orderly (refuseIf c error) := by
  by_cases h : c
  · exact Or.inl ⟨error, refuseIf_stop h⟩
  · exact Or.inr ⟨(), refuseIf_pass h⟩

theorem Orderly.bind {run : Run EvidenceError α} {next : α → Run EvidenceError β}
    (h : Orderly run) (h' : ∀ x, run = .ok x → Orderly (next x)) : Orderly (run >>= next) := by
  rcases h with ⟨error, rfl⟩ | ⟨x, rfl⟩
  · exact Or.inl ⟨error, rfl⟩
  · exact h' x rfl

theorem lift_eq_ok {result : Except EvidenceError α} {x : α} :
    Machine.lift result = .ok x ↔ result = .ok x := mapError_ok

end Orderly

theorem readBoundedText_orderly (file : File) {limit : Nat} (hword : limit + 1 < wordSize) :
    Orderly (readBoundedText file limit .invalidFixture) := by
  rw [readBoundedText_eq _ hword]
  split
  · exact Or.inl ⟨_, rfl⟩
  · exact Orderly.lift _

theorem readBoundedText_ok {file : File} {limit : Nat} {text : Text}
    (hword : limit + 1 < wordSize) :
    readBoundedText file limit .invalidFixture = .ok text ↔
      file.contents.length ≤ limit ∧ file.contents = utf8Encode text := by
  rw [readBoundedText_eq _ hword]
  split
  next hlong =>
    constructor
    · exact fun h => nomatch h
    · rintro ⟨hshort, -⟩
      omega
  next hshort =>
    rw [lift_eq_ok, ← utf8Decode_eq_some]
    cases utf8Decode file.contents with
    | none =>
      constructor
      · exact fun h => nomatch h
      · exact fun h => nomatch h.2
    | some found =>
      constructor
      · intro h
        exact ⟨by omega, congrArg some (Except.ok.inj h)⟩
      · intro h
        exact congrArg Except.ok (Option.some.inj h.2)

/-- A file whose store identity is cut inside a character: a text within the limit, of lines that
all have an equals sign and different keys in front of it, with the schema, a case and a seed, and
with thirty-two bytes for the identity that are pairs of digits up to a pair that ends inside a
character. -/
def SplitsCharacter (contents : Bytes) : Prop :=
  ∃ (text : Text) (fields : Fields) (value : Text), contents = utf8Encode text ∧
    contents.length ≤ 2048 ∧ textLines text = fields.map joined ∧ IsFields fields ∧
    ("schema".toList, fixtureSchema) ∈ fields ∧
    (∃ caseName, ("case".toList, caseName) ∈ fields) ∧
    (∃ seed number, ("seed".toList, seed) ∈ fields ∧ parseU64 seed = .ok number) ∧
    ("store_id".toList, value) ∈ fields ∧ value.len = 32 ∧ cutsCharacter value = true

theorem takeU64_ok {fields rest : Fields} {key : Text} {number : U64}
    (hnodup : (fields.map Prod.fst).Nodup) : takeU64 fields key = .ok (number, rest) ↔
      (∃ value, (key, value) ∈ fields ∧ parseU64 value = .ok number) ∧
        rest = fields.eraseP (·.1 = key) := by
  unfold takeU64
  rw [bind_ok]
  constructor
  · rintro ⟨⟨value, rest'⟩, htake, h⟩
    obtain ⟨number', hparse, heq⟩ := bind_ok.mp h
    obtain ⟨rfl, rfl⟩ := Prod.mk.inj (Except.ok.inj heq)
    obtain ⟨hmem, hrest⟩ := (takeField_ok hnodup).mp htake
    exact ⟨⟨value, hmem, hparse⟩, hrest⟩
  · rintro ⟨⟨value, hmem, hparse⟩, hrest⟩
    exact ⟨(value, rest), (takeField_ok hnodup).mpr ⟨hmem, hrest⟩,
      bind_ok.mpr ⟨number, hparse, rfl⟩⟩

theorem keys_differ : ("case".toList : Text) ≠ "schema".toList ∧
    ("seed".toList : Text) ≠ "schema".toList ∧ ("seed".toList : Text) ≠ "case".toList ∧
    ("store_id".toList : Text) ≠ "schema".toList ∧ ("store_id".toList : Text) ≠ "case".toList ∧
    ("store_id".toList : Text) ≠ "seed".toList := by
  decide +kernel

/-- Where no character is cut, every step of the reader returns or refuses. -/
theorem FixtureMeta.read_orderly {file : File} (h : ¬SplitsCharacter file.contents) :
    Orderly (FixtureMeta.read file) := by
  obtain ⟨hcase, hseed, hseed', hstore, hstore', hstore''⟩ := keys_differ
  unfold FixtureMeta.read
  apply (readBoundedText_orderly file (by decide)).bind
  intro text htext
  obtain ⟨hlimit, hcontents⟩ := (readBoundedText_ok (by decide)).mp htext
  apply (Orderly.lift _).bind
  intro fields hfields
  obtain ⟨hlines, his⟩ := Fields.new_ok.mp (lift_eq_ok.mp hfields)
  apply (Orderly.lift _).bind
  rintro ⟨schema, afterSchema⟩ htake
  obtain ⟨hschema, rfl⟩ := (takeField_ok his.nodup).mp (lift_eq_ok.mp htake)
  have hnodup := nodup_rest "schema".toList his.nodup
  apply (Orderly.refuseIf _ _).bind
  intro _ hpass
  apply (Orderly.lift _).bind
  rintro ⟨caseName, afterCase⟩ htakeCase
  obtain ⟨hcaseName, rfl⟩ := (takeField_ok hnodup).mp (lift_eq_ok.mp htakeCase)
  have hnodup' := nodup_rest "case".toList hnodup
  apply (Orderly.lift _).bind
  rintro ⟨seed, afterSeed⟩ htakeSeed
  obtain ⟨⟨seedText, hseedText, hparse⟩, rfl⟩ := (takeU64_ok hnodup').mp (lift_eq_ok.mp htakeSeed)
  have hnodup'' := nodup_rest "seed".toList hnodup'
  apply (Orderly.lift _).bind
  rintro ⟨value, afterStore⟩ htakeStore
  obtain ⟨hvalue, rfl⟩ := (takeField_ok hnodup'').mp (lift_eq_ok.mp htakeStore)
  have hschema' : schema = fixtureSchema := not_not.mp (refuse_ok.mp hpass)
  rw [hschema'] at hschema
  rw [mem_rest hcase] at hcaseName
  rw [mem_rest hseed', mem_rest hseed] at hseedText
  rw [mem_rest hstore'', mem_rest hstore', mem_rest hstore] at hvalue
  rcases decodeHex16_cases value with ⟨hlen, hcut, -⟩ | ⟨-, hresult⟩
  · exact absurd ⟨text, fields, value, hcontents, hlimit, hlines, his, hschema,
      ⟨caseName, hcaseName⟩, ⟨seedText, seed, hseedText, hparse⟩, hvalue, hlen, hcut⟩ h
  · apply Orderly.bind
    · rcases hresult with hrefused | ⟨bytes, hok, -⟩
      · exact Or.inl ⟨_, hrefused⟩
      · exact Or.inr ⟨bytes, hok⟩
    · intro bytes _
      exact Orderly.lift _

/-- Where a character is cut, the reader stops at the slice. -/
theorem FixtureMeta.read_cut {file : File} (h : SplitsCharacter file.contents) :
    FixtureMeta.read file = .error .outOfRange := by
  obtain ⟨hcase, hseed, hseed', hstore, hstore', hstore''⟩ := keys_differ
  obtain ⟨text, fields, value, hcontents, hlimit, hlines, his, hschema, ⟨caseName, hcaseName⟩,
    ⟨seedText, seed, hseedText, hparse⟩, hvalue, hlen, hcut⟩ := h
  have htext := (@readBoundedText_ok file 2048 text (by decide)).mpr ⟨hlimit, hcontents⟩
  have hfields := Fields.new_ok.mpr ⟨hlines, his⟩
  have hnodup := nodup_rest "schema".toList his.nodup
  have hnodup' := nodup_rest "case".toList hnodup
  have hnodup'' := nodup_rest "seed".toList hnodup'
  have htakeSchema := (takeField_ok his.nodup).mpr ⟨hschema, rfl⟩
  have htakeCase := (takeField_ok hnodup).mpr ⟨(mem_rest hcase).mpr hcaseName, rfl⟩
  have htakeSeed := (takeU64_ok hnodup').mpr
    ⟨⟨seedText, (mem_rest hseed').mpr ((mem_rest hseed).mpr hseedText), hparse⟩, rfl⟩
  have htakeStore := (takeField_ok hnodup'').mpr ⟨(mem_rest hstore'').mpr
    ((mem_rest hstore').mpr ((mem_rest hstore).mpr hvalue)), rfl⟩
  have hpass : refuseIf (fixtureSchema ≠ fixtureSchema) EvidenceError.invalidFixture = .ok () :=
    refuseIf_pass (not_not_intro rfl)
  have hfault : decodeHex16 value = .error .outOfRange := by
    rcases decodeHex16_cases value with ⟨-, -, hfault⟩ | ⟨hwhole, -⟩
    · exact hfault
    · exact absurd ⟨hlen, hcut⟩ hwhole
  unfold FixtureMeta.read
  simp only [htext, ok_then, hfields, lift_ok, htakeSchema, hpass, htakeCase, htakeSeed,
    htakeStore, hfault, error_then]

/-- What the reader returns has been validated. -/
theorem FixtureMeta.validate_of_read {file : File} {fixture : FixtureMeta}
    (h : FixtureMeta.read file = .ok fixture) : fixture.validate = .ok () := by
  unfold FixtureMeta.read at h
  obtain ⟨text, -, h⟩ := bind_ok.mp h
  obtain ⟨fields, -, h⟩ := bind_ok.mp h
  obtain ⟨⟨schema, fields⟩, -, h⟩ := bind_ok.mp h
  obtain ⟨-, -, h⟩ := bind_ok.mp h
  obtain ⟨⟨caseName, fields⟩, -, h⟩ := bind_ok.mp h
  obtain ⟨⟨seed, fields⟩, -, h⟩ := bind_ok.mp h
  obtain ⟨⟨value, fields⟩, -, h⟩ := bind_ok.mp h
  obtain ⟨bytes, -, h⟩ := bind_ok.mp h
  have hbehind := lift_eq_ok.mp h
  unfold FixtureMeta.readBehind at hbehind
  simp only [bind_ok, pure_ok] at hbehind
  obtain ⟨_, -, _, -, _, -, _, -, _, -, _, -, _, -, _, -, _, -, _, -, _, -, _, hvalid, rfl⟩ :=
    hbehind
  exact hvalid

theorem identity_keys (identity : SegmentIdentity) : identity.fields.map Prod.fst =
    ["schema".toList, "artifact_length".toList, "artifact_crc32c".toList, "source_length".toList,
      "source_crc32c".toList] := rfl

theorem SegmentIdentity.new_encode (identity : SegmentIdentity) :
    Fields.new identity.encode = .ok identity.fields := by
  apply new_encodeFields
  · apply keys_written (identity_keys identity)
    · decide +kernel
    · unfold SegmentIdentity.fields
      simp only [List.map_cons, List.map_nil, List.forall_mem_cons]
      exact ⟨by decide +kernel, toDigits_lineless _, padded_lineless 8 _, toDigits_lineless _,
        padded_lineless 8 _, List.forall_mem_nil _⟩
  · rw [identity_keys]
    decide +kernel

theorem SegmentIdentity.len_encode (identity : SegmentIdentity) :
    Text.len identity.encode ≤ 512 := by
  have hdigits (n : U64) : Text.len (Nat.toDigits 10 n.val) ≤ 64 :=
    (len_toDigits n).trans (by decide)
  have hcrc (n : U32) : Text.len (padded 16 8 n.val) ≤ 64 := by
    rw [len_paddedHex]
    decide
  have hkeys : ∀ key ∈ identity.fields.map Prod.fst, Text.len key ≤ 32 := by
    rw [identity_keys]
    decide +kernel
  have hvalues : ∀ value ∈ identity.fields.map Prod.snd, Text.len value ≤ 64 := by
    unfold SegmentIdentity.fields
    simp only [List.map_cons, List.map_nil, List.forall_mem_cons]
    exact ⟨by decide +kernel, hdigits _, hcrc _, hdigits _, hcrc _, List.forall_mem_nil _⟩
  have hcount : identity.fields.length * (32 + 64 + 2) ≤ 512 := by
    change 5 * (32 + 64 + 2) ≤ 512
    decide
  exact (len_encodeFields_le hkeys hvalues).trans hcount

theorem SegmentIdentity.read_encode (identity : SegmentIdentity) {file : File}
    (hfile : file.contents = utf8Encode identity.encode) :
    SegmentIdentity.read file = .ok identity := by
  have htext : readBoundedText file 512 .invalidFixture = .ok identity.encode := by
    refine (readBoundedText_ok (by decide)).mpr ⟨?_, hfile⟩
    rw [hfile]
    exact identity.len_encode
  have hschema : refuseIf (identitySchema ≠ identitySchema) EvidenceError.invalidFixture =
      .ok () := refuseIf_pass (not_not_intro rfl)
  have hfinish : Fields.finish [] = .ok () := rfl
  unfold SegmentIdentity.read
  simp only [htext, ok_then, identity.new_encode, lift_ok]
  unfold SegmentIdentity.fields
  simp only [takeField_head, takeU64_head, takeHexU32_head, lift_ok, ok_then, hschema, hfinish]
  rfl

theorem SegmentIdentity.read_orderly (file : File) : Orderly (SegmentIdentity.read file) := by
  unfold SegmentIdentity.read
  apply (readBoundedText_orderly file (by decide)).bind
  intro text _
  apply (Orderly.lift _).bind
  intro fields _
  apply (Orderly.lift _).bind
  rintro ⟨schema, fields⟩ _
  apply (Orderly.refuseIf _ _).bind
  intro _ _
  apply (Orderly.lift _).bind
  rintro ⟨artifactLength, fields⟩ _
  apply (Orderly.lift _).bind
  rintro ⟨artifactChecksum, fields⟩ _
  apply (Orderly.lift _).bind
  rintro ⟨sourceLength, fields⟩ _
  apply (Orderly.lift _).bind
  rintro ⟨sourceChecksum, fields⟩ _
  apply (Orderly.lift _).bind
  intro _ _
  exact Or.inr ⟨_, rfl⟩

/-- The metadata of the evidence. Both readers return what their writers write, however the file is
cut into reads; the reader of an identity returns or refuses on every file; and the reader of a
fixture returns a validated one or refuses exactly where the identity of the store is not cut
inside a character. -/
theorem fixture_metadata (file : File) :
    (∀ fixture : FixtureMeta, fixture.validate = .ok () →
      file.contents = utf8Encode fixture.encode → FixtureMeta.read file = .ok fixture) ∧
    (∀ identity : SegmentIdentity,
      file.contents = utf8Encode identity.encode → SegmentIdentity.read file = .ok identity) ∧
    ((∃ error, SegmentIdentity.read file = .error (.refused error)) ∨
      ∃ identity, SegmentIdentity.read file = .ok identity) ∧
    (((∃ error, FixtureMeta.read file = .error (.refused error)) ∨
      ∃ fixture, FixtureMeta.read file = .ok fixture ∧ fixture.validate = .ok ()) ↔
        ¬SplitsCharacter file.contents) := by
  refine ⟨fun fixture h hfile => FixtureMeta.read_encode h hfile,
    fun identity hfile => identity.read_encode hfile, SegmentIdentity.read_orderly file, ?_⟩
  constructor
  · intro h hsplits
    rw [FixtureMeta.read_cut hsplits] at h
    rcases h with ⟨error, h⟩ | ⟨fixture, h, -⟩
    · exact nomatch h
    · exact nomatch h
  · intro h
    rcases FixtureMeta.read_orderly h with hrefused | ⟨fixture, hread⟩
    · exact Or.inl hrefused
    · exact Or.inr ⟨fixture, hread, FixtureMeta.validate_of_read hread⟩

/-- Three frames of two series behind the sequence 4. -/
def sampleFixture : FixtureMeta :=
  ⟨"two-series".toList, 7, sampleIdentity 1, 2, 4, 7, 1, 3061, 0x1C6, 3, 2, 5⟩

def sampleSegmentIdentity : SegmentIdentity := ⟨4096, 0xC0FFEE, 3061, 0x1C6⟩

/-- Both files are read back, one byte at each read. -/
theorem fixture_metadata_sample : sampleFixture.validate = .ok () ∧
    FixtureMeta.read ⟨utf8Encode sampleFixture.encode, fun _ => 0⟩ = .ok sampleFixture ∧
    SegmentIdentity.read ⟨utf8Encode sampleSegmentIdentity.encode, fun _ => 0⟩ =
      .ok sampleSegmentIdentity ∧
    ¬SplitsCharacter (utf8Encode sampleFixture.encode) := by
  have hvalid : sampleFixture.validate = .ok () := by decide +kernel
  obtain ⟨hread, -, -, hsplits⟩ :=
    fixture_metadata ⟨utf8Encode sampleFixture.encode, fun _ => 0⟩
  have hfixture := hread sampleFixture hvalid rfl
  refine ⟨hvalid, hfixture, ?_, hsplits.mp (.inr ⟨sampleFixture, hfixture, hvalid⟩)⟩
  exact (fixture_metadata ⟨utf8Encode sampleSegmentIdentity.encode, fun _ => 0⟩).2.1
    sampleSegmentIdentity rfl

/-- Thirty-two bytes that begin with one digit and a character of two bytes. -/
def cutIdentity : Text := 'a' :: (List.replicate 15 'é' ++ ['a'])

def cutFields : Fields := [("schema".toList, fixtureSchema), ("case".toList, ['a']),
  ("seed".toList, ['1']), ("store_id".toList, cutIdentity)]

def cutFile : File := ⟨utf8Encode (encodeFields cutFields), fun _ => 0⟩

/-- On four lines whose identity begins with one digit and a character of two bytes, the reader of
a fixture neither returns nor refuses. -/
theorem cut_identity_leaves_slice :
    FixtureMeta.read cutFile = .error .outOfRange ∧
    ¬∀ file, (∃ error, FixtureMeta.read file = .error (.refused error)) ∨
      ∃ fixture, FixtureMeta.read file = .ok fixture ∧ fixture.validate = .ok () := by
  have hwritten : ∀ field ∈ cutFields, Written field := by
    have hkeys : cutFields.map Prod.fst =
        ["schema".toList, "case".toList, "seed".toList, "store_id".toList] := rfl
    apply keys_written hkeys
    · decide +kernel
    · decide +kernel
  have hkey : ∀ field ∈ cutFields, field.1 ≠ [] ∧ '=' ∉ field.1 := by decide +kernel
  have hnodup : (cutFields.map Prod.fst).Nodup := by decide +kernel
  have hlimit : (utf8Encode (encodeFields cutFields)).length ≤ 2048 := by decide +kernel
  have hlen : Text.len cutIdentity = 32 := by decide +kernel
  have hcut : cutsCharacter cutIdentity = true := by decide +kernel
  have hparse : parseU64 ['1'] = .ok 1 := rfl
  have hsplits : SplitsCharacter cutFile.contents :=
    ⟨_, cutFields, cutIdentity, rfl, hlimit, textLines_encodeFields hwritten, ⟨hkey, hnodup⟩,
      List.mem_cons_self, ⟨['a'], by decide +kernel⟩, ⟨['1'], 1, by decide +kernel, hparse⟩,
      by decide +kernel, hlen, hcut⟩
  have hread : FixtureMeta.read cutFile = .error .outOfRange := FixtureMeta.read_cut hsplits
  refine ⟨hread, ?_⟩
  intro hall
  have hfile := hall cutFile
  rw [hread] at hfile
  rcases hfile with ⟨error, h⟩ | ⟨fixture, h, -⟩
  · exact nomatch h
  · exact nomatch h

end Historian
