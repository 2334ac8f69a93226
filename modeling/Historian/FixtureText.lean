import Historian.ReportBundle
import Historian.CanonicalText

namespace Historian

open Wire Checks Machine Numeral

/-- A file as its reader sees it: a read behind any offset returns one byte and at most as many
more as the system has at hand there, up to the room that it is given and the end of the file. -/
structure File where
  contents : Bytes
  more : Nat → Nat

def File.read (file : File) (offset room : Nat) : Bytes :=
  (file.contents.drop offset).take (min room (file.more offset + 1))

/-- The loop over the reads; every read that finds something fills a byte, so a fuel of the limit
is enough. -/
def fill (file : File) (readLimit : Nat) : Nat → Bytes → Run EvidenceError Bytes
  | 0, filled => pure filled
  | fuel + 1, filled =>
    if filled.length < readLimit then
      let read := file.read filled.length (readLimit - filled.length)
      if read = [] then pure filled
      else do
        let _ ← addOr .bounds filled.length read.length
        fill file readLimit fuel (filled ++ read)
    else pure filled

def readBoundedText (file : File) (limit : Nat) (excessError : EvidenceError) :
    Run EvidenceError Text := do
  let readLimit ← addOr .bounds limit 1
  let bytes ← fill file readLimit readLimit []
  refuseIf (limit < bytes.length) excessError
  lift ((utf8Decode bytes).elim (.error .invalidFixture) .ok)

def parseU64 (value : Text) : Except EvidenceError U64 :=
  (fromStrRadix 10 value).elim (.error .invalidFixture) .ok

def parseHexU32 (value : Text) : Except EvidenceError U32 := do
  refuse (value.len ≠ 8) .invalidFixture
  (fromStrRadix 16 value).elim (.error .invalidFixture) .ok

def parseHexByte (pair : Text) : Option (Fin 256) := fromStrRadix 16 pair

def encodeHex (bytes : Bytes) : Text := bytes.flatMap fun byte => padded 16 2 byte.toNat

/-- A text cut at a byte, when no character of it is cut. -/
def splitAtByte : Text → Nat → Option (Text × Text)
  | rest, 0 => some ([], rest)
  | [], _ + 1 => none
  | c :: rest, n + 1 =>
    if c.utf8Size ≤ n + 1 then
      (splitAtByte rest (n + 1 - c.utf8Size)).map fun (before, behind) => (c :: before, behind)
    else none

/-- The bytes of a text from `start` up to `stop`, which have to be whole characters. -/
def strSlice (value : Text) (start stop : Nat) : Run EvidenceError Text :=
  match splitAtByte value start with
  | none => .error .outOfRange
  | some (_, rest) =>
    match splitAtByte rest (stop - start) with
    | none => .error .outOfRange
    | some (between, _) => pure between

/-- The loop over the bytes that are still to be decoded. -/
def decodeHexFrom (value : Text) : Nat → Nat → Run EvidenceError Bytes
  | 0, _ => pure []
  | count + 1, index => do
    let start ← mul index 2
    let stop ← add start 2
    let pair ← strSlice value start stop
    let byte ← lift ((parseHexByte pair).elim (.error .invalidFixture) .ok)
    let rest ← decodeHexFrom value count (index + 1)
    pure (UInt8.ofNat byte.val :: rest)

def decodeHex16 (value : Text) : Run EvidenceError Bytes := do
  refuseIf (value.len ≠ 32) .invalidFixture
  decodeHexFrom value 16 0

/-- The values by their keys. -/
abbrev Fields := List (Text × Text)

def addLine (fields : Fields) (line : Text) : Except EvidenceError Fields :=
  match splitOnce ['='] line with
  | none => .error .invalidFixture
  | some (key, value) => do
    refuse (key = [] ∨ key ∈ fields.map Prod.fst) .invalidFixture
    pure (fields ++ [(key, value)])

def Fields.new (text : Text) : Except EvidenceError Fields := (textLines text).foldlM addLine []

def takeField (fields : Fields) (key : Text) : Except EvidenceError (Text × Fields) :=
  match fields.find? (·.1 = key) with
  | none => .error .invalidFixture
  | some (_, value) => .ok (value, fields.eraseP (·.1 = key))

def Fields.finish (fields : Fields) : Except EvidenceError Unit :=
  refuse (fields ≠ []) .invalidFixture

/-- A line for each field. -/
def encodeFields (fields : Fields) : Text :=
  fields.flatMap fun (key, value) => key ++ '=' :: (value ++ ['\n'])

section Reading

variable {file : File} {limit : Nat}

theorem fill_eq {readLimit fuel : Nat} {filled : Bytes} (hword : readLimit < wordSize)
    (hfilled : filled = file.contents.take filled.length) (hlength : filled.length ≤ readLimit)
    (hfuel : readLimit - filled.length ≤ fuel) :
    fill file readLimit fuel filled = pure (file.contents.take readLimit) := by
  induction fuel generalizing filled with
  | zero =>
    have hfull : filled.length = readLimit := by omega
    rw [hfull] at hfilled
    unfold fill
    rw [hfilled]
  | succ fuel ih =>
    unfold fill
    split
    next hroom =>
      have hgot : file.read filled.length (readLimit - filled.length) =
          (file.contents.drop filled.length).take
            (min (readLimit - filled.length) (file.more filled.length + 1)) := rfl
      dsimp only
      split
      next hnothing =>
        -- a read finds nothing only behind the end of the file
        rw [hgot] at hnothing
        have hend : file.contents.length ≤ filled.length := by
          have hlen := congrArg List.length hnothing
          rw [List.length_take, List.length_drop, List.length_nil] at hlen
          omega
        rw [List.take_of_length_le (by omega)] at hfilled
        rw [List.take_of_length_le (by omega), ← hfilled]
      next hsome =>
        have htake : filled ++ file.read filled.length (readLimit - filled.length) =
            file.contents.take (filled.length +
              min (readLimit - filled.length) (file.more filled.length + 1)) := by
          rw [hgot, List.take_add, ← hfilled]
        have hread : (file.read filled.length (readLimit - filled.length)).length ≤
            readLimit - filled.length := by
          rw [hgot, List.length_take]
          omega
        have hpositive := List.length_pos_iff.mpr hsome
        rw [addOr_eq (by omega), pure_bind]
        apply ih
        · rw [htake, List.length_take, List.take_eq_take_iff]
          omega
        · rw [List.length_append]
          omega
        · rw [List.length_append]
          omega
    next hfull =>
      have hexact : filled.length = readLimit := by omega
      rw [hexact] at hfilled
      rw [hfilled]

/-- How the file is cut into reads does not matter. -/
theorem readBoundedText_eq (excessError : EvidenceError) (hword : limit + 1 < wordSize) :
    readBoundedText file limit excessError =
      if limit < file.contents.length then .error (.refused excessError)
      else lift ((utf8Decode file.contents).elim (.error .invalidFixture) .ok) := by
  unfold readBoundedText
  rw [addOr_eq hword, pure_bind, fill_eq hword rfl (Nat.zero_le _) (Nat.sub_le _ _), pure_bind]
  unfold refuseIf refuse
  split
  next hlong =>
    rw [List.length_take] at hlong
    rw [if_pos (by omega)]
    rfl
  next hshort =>
    rw [List.length_take] at hshort
    rw [if_neg (by omega), List.take_of_length_le (by omega)]
    rfl

end Reading

section Slices

variable {value before rest pair behind : Text}

theorem splitAtByte_cons (c : Char) (rest : Text) (n : Nat) :
    splitAtByte (c :: rest) (n + 1) =
      if c.utf8Size ≤ n + 1 then
        (splitAtByte rest (n + 1 - c.utf8Size)).map fun (before, behind) => (c :: before, behind)
      else none := rfl

theorem splitAtByte_add {a n : Nat} (h : splitAtByte value a = some (before, rest)) :
    splitAtByte value (a + n) =
      (splitAtByte rest n).map fun (between, behind) => (before ++ between, behind) := by
  induction value generalizing a before with
  | nil =>
    cases a with
    | zero =>
      obtain ⟨rfl, rfl⟩ := Prod.mk.inj (Option.some.inj h)
      rw [Nat.zero_add]
      cases splitAtByte [] n <;> rfl
    | succ a => exact nomatch h
  | cons c value ih =>
    cases a with
    | zero =>
      obtain ⟨rfl, rfl⟩ := Prod.mk.inj (Option.some.inj h)
      rw [Nat.zero_add]
      cases splitAtByte (c :: value) n <;> rfl
    | succ a =>
      rw [splitAtByte_cons] at h
      split at h
      next hsize =>
        obtain ⟨⟨before', rest'⟩, htail, heq⟩ := Option.map_eq_some_iff.mp h
        obtain ⟨rfl, rfl⟩ := Prod.mk.inj heq
        have hnext := ih htail
        have harith : a + 1 - c.utf8Size + n = a + n + 1 - c.utf8Size := by omega
        rw [harith] at hnext
        have hindex : a + 1 + n = (a + n) + 1 := by omega
        rw [hindex, splitAtByte_cons, if_pos (by omega), hnext]
        cases splitAtByte rest' n <;> rfl
      next => exact nomatch h

theorem strSlice_eq {start : Nat} (h : splitAtByte value start = some (before, rest))
    (h' : splitAtByte rest 2 = some (pair, behind)) :
    strSlice value start (start + 2) = pure pair := by
  unfold strSlice
  rw [h, Nat.add_sub_cancel_left]
  simp only [h']

theorem strSlice_cut {start : Nat} (h : splitAtByte value start = some (before, rest))
    (h' : splitAtByte rest 2 = none) :
    strSlice value start (start + 2) = .error .outOfRange := by
  unfold strSlice
  rw [h, Nat.add_sub_cancel_left]
  simp only [h']

/-- Whether the pairs of bytes at the front of a text are hexadecimal digits up to a pair that ends
inside a character. -/
def cutsCharacter : Text → Bool
  | a :: b :: rest =>
    if a.utf8Size = 1 ∧ b.utf8Size = 1 then
      (parseHexByte [a, b]).isSome && cutsCharacter rest
    else a.utf8Size = 1 || 2 < a.utf8Size
  | [a] => 2 < a.utf8Size
  | [] => false

theorem len_cons (c : Char) (rest : Text) : Text.len (c :: rest) = c.utf8Size + Text.len rest := by
  unfold Text.len
  change (String.utf8EncodeChar c ++ utf8Encode rest).length = _
  rw [List.length_append, String.length_utf8EncodeChar]

theorem digitValue_wide {c : Char} (h : c.utf8Size ≠ 1) : digitValue c = none := by
  have hwide : ¬c.toNat ≤ 0x7F := by
    intro hle
    exact h (Char.utf8Size_eq_one_iff.mpr ((@UInt32.le_iff_toNat_le c.val 0x7F).mpr hle))
  have hdigit : ¬c ≤ '9' := fun hle => hwide (Nat.le_trans (UInt32.le_iff_toNat_le.mp hle)
    (by decide))
  have hlower : ¬c ≤ 'z' := fun hle => hwide (Nat.le_trans (UInt32.le_iff_toNat_le.mp hle)
    (by decide))
  have hupper : ¬c ≤ 'Z' := fun hle => hwide (Nat.le_trans (UInt32.le_iff_toNat_le.mp hle)
    (by decide))
  unfold digitValue
  rw [if_neg (fun hboth => hdigit hboth.2), if_neg (fun hboth => hlower hboth.2),
    if_neg (fun hboth => hupper hboth.2)]

/-- The digits behind a boundary between characters are decoded or refused, unless a pair of bytes
ends inside a character. -/
theorem decodeHexFrom_cases {count index : Nat} (hindex : index + count ≤ 16)
    (h : splitAtByte value (index * 2) = some (before, rest)) (hlen : Text.len rest = count * 2) :
    (cutsCharacter rest = true ∧ decodeHexFrom value count index = .error .outOfRange) ∨
    (cutsCharacter rest = false ∧
      (decodeHexFrom value count index = .error (.refused .invalidFixture) ∨
        ∃ bytes, decodeHexFrom value count index = .ok bytes ∧ bytes.length = count)) := by
  induction count generalizing index before rest with
  | zero =>
    cases rest with
    | nil => exact Or.inr ⟨rfl, Or.inr ⟨[], rfl, rfl⟩⟩
    | cons c rest =>
      have hsize := c.utf8Size_pos
      rw [len_cons] at hlen
      omega
  | succ count ih =>
    unfold decodeHexFrom
    have hword : (2 : Nat) ^ 64 = wordSize := rfl
    rw [mul_eq (by omega), pure_bind, add_eq (by omega), pure_bind]
    cases rest with
    | nil =>
      rw [show Text.len [] = 0 from rfl] at hlen
      omega
    | cons a rest =>
      have ha := a.utf8Size_pos
      rw [len_cons] at hlen
      by_cases hone : a.utf8Size = 1
      · cases rest with
        | nil =>
          rw [show Text.len [] = 0 from rfl] at hlen
          omega
        | cons b rest =>
          have hb := b.utf8Size_pos
          rw [len_cons] at hlen
          by_cases hpair : b.utf8Size = 1
          · have hsplit : splitAtByte (a :: b :: rest) 2 = some ([a, b], rest) := by
              simp [splitAtByte, hone, hpair]
            rw [strSlice_eq h hsplit, pure_bind]
            have hnext := splitAtByte_add (n := 2) h
            rw [hsplit] at hnext
            have harith : index * 2 + 2 = (index + 1) * 2 := by omega
            rw [harith] at hnext
            unfold cutsCharacter
            rw [if_pos ⟨hone, hpair⟩]
            cases hbyte : parseHexByte [a, b] with
            | none => exact Or.inr ⟨rfl, Or.inl rfl⟩
            | some byte =>
              rcases ih (by omega) hnext (by omega) with ⟨hcut, hrun⟩ | ⟨hwhole, hrun⟩
              · refine Or.inl ⟨hcut, ?_⟩
                change (decodeHexFrom value count (index + 1) >>= _) = _
                rw [hrun]
                rfl
              · refine Or.inr ⟨hwhole, ?_⟩
                change (decodeHexFrom value count (index + 1) >>= _) = _ ∨
                  ∃ bytes, (decodeHexFrom value count (index + 1) >>= _) = _ ∧ _
                rcases hrun with hrun | ⟨bytes, hrun, hbytes⟩
                · rw [hrun]
                  exact Or.inl rfl
                · rw [hrun]
                  refine Or.inr ⟨_, rfl, ?_⟩
                  rw [List.length_cons, hbytes]
          · have hsplit : splitAtByte (a :: b :: rest) 2 = none := by
              have hlarge : ¬b.utf8Size ≤ 1 := by omega
              simp [splitAtByte, hone, hlarge]
            rw [strSlice_cut h hsplit]
            refine Or.inl ⟨?_, rfl⟩
            unfold cutsCharacter
            rw [if_neg (fun hboth => hpair hboth.2), hone]
            rfl
      · by_cases htwo : a.utf8Size = 2
        · have hsplit : splitAtByte (a :: rest) 2 = some ([a], rest) := by
            simp [splitAtByte, htwo]
          have hdigit : parseHexByte [a] = none := by
            have hnone := digitValue_wide hone
            simp [parseHexByte, fromStrRadix, readDigits, digit?, hnone]
          rw [strSlice_eq h hsplit, pure_bind, hdigit]
          refine Or.inr ⟨?_, Or.inl rfl⟩
          cases rest with
          | nil => simp [cutsCharacter, htwo]
          | cons b rest => simp [cutsCharacter, htwo]
        · have hsplit : splitAtByte (a :: rest) 2 = none := by
            have hlarge : ¬a.utf8Size ≤ 2 := by omega
            simp [splitAtByte, hlarge]
          rw [strSlice_cut h hsplit]
          refine Or.inl ⟨?_, rfl⟩
          have hlarge : 2 < a.utf8Size := by omega
          cases rest with
          | nil => simp [cutsCharacter, hlarge]
          | cons b rest => simp [cutsCharacter, hlarge, hone]

theorem decodeHex16_cases (value : Text) :
    (value.len = 32 ∧ cutsCharacter value = true ∧ decodeHex16 value = .error .outOfRange) ∨
    (¬(value.len = 32 ∧ cutsCharacter value = true) ∧
      (decodeHex16 value = .error (.refused .invalidFixture) ∨
        ∃ bytes, decodeHex16 value = .ok bytes ∧ bytes.length = 16)) := by
  by_cases hlen : value.len = 32
  · have hpass : refuseIf (value.len ≠ 32) EvidenceError.invalidFixture = .ok () :=
      if_neg (not_not_intro hlen)
    have hrun : decodeHex16 value = decodeHexFrom value 16 0 := by
      unfold decodeHex16
      rw [hpass]
      rfl
    have hstart : splitAtByte value (0 * 2) = some ([], value) := by
      cases value <;> rfl
    rw [hrun]
    rcases decodeHexFrom_cases (Nat.le_refl 16) hstart (hlen.trans (Nat.mul_comm 2 16)) with
      ⟨hcut, hfault⟩ | ⟨hwhole, hresult⟩
    · exact Or.inl ⟨hlen, hcut, hfault⟩
    · refine Or.inr ⟨?_, hresult⟩
      rw [hwhole]
      exact fun hboth => Bool.false_ne_true hboth.2
  · refine Or.inr ⟨fun hboth => hlen hboth.1, Or.inl ?_⟩
    exact congrArg (· >>= _) (if_pos hlen)

theorem utf8Size_digitChar {d : Nat} (h : d < 16) : (Nat.digitChar d).utf8Size = 1 := by
  have hall : ∀ d : Fin 16, (Nat.digitChar d.val).utf8Size = 1 := by decide +kernel
  exact hall ⟨d, h⟩

theorem decodeHexFrom_encodeHex {bytes : Bytes} {index : Nat} (hindex : index + bytes.length ≤ 16)
    (h : splitAtByte value (index * 2) = some (before, encodeHex bytes)) :
    decodeHexFrom value bytes.length index = .ok bytes := by
  induction bytes generalizing index before with
  | nil => rfl
  | cons byte bytes ih =>
    have hbyte := byte.toNat_lt
    have hhigh := utf8Size_digitChar (d := byte.toNat / 16) (by omega)
    have hlow := utf8Size_digitChar (d := byte.toNat % 16) (by omega)
    have htext : encodeHex (byte :: bytes) = Nat.digitChar (byte.toNat / 16) ::
        Nat.digitChar (byte.toNat % 16) :: encodeHex bytes := by
      change padded 16 2 byte.toNat ++ encodeHex bytes = _
      rw [padded_pair hbyte]
      rfl
    have hsplit : splitAtByte (encodeHex (byte :: bytes)) 2 =
        some (padded 16 2 byte.toNat, encodeHex bytes) := by
      rw [htext, padded_pair hbyte]
      simp [splitAtByte, hhigh, hlow]
    have hparse : parseHexByte (padded 16 2 byte.toNat) = some ⟨byte.toNat, hbyte⟩ :=
      fromStrRadix_padded (by decide) (by decide) 2 ⟨byte.toNat, hbyte⟩
    have hword : (2 : Nat) ^ 64 = wordSize := rfl
    rw [List.length_cons] at hindex ⊢
    have hnext := splitAtByte_add (n := 2) h
    rw [hsplit, show index * 2 + 2 = (index + 1) * 2 by omega] at hnext
    unfold decodeHexFrom
    rw [mul_eq (by omega), pure_bind, add_eq (by omega), pure_bind, strSlice_eq h hsplit,
      pure_bind, hparse]
    change (decodeHexFrom value bytes.length (index + 1) >>= _) = _
    rw [ih (by omega) hnext]
    change Except.ok (UInt8.ofNat byte.toNat :: bytes) = _
    rw [UInt8.ofNat_toNat]

theorem len_encodeHex (bytes : Bytes) : Text.len (encodeHex bytes) = bytes.length * 2 := by
  induction bytes with
  | nil => rfl
  | cons byte bytes ih =>
    unfold Text.len at ih ⊢
    change (utf8Encode (padded 16 2 byte.toNat ++ encodeHex bytes)).length = _
    rw [utf8Encode_append, utf8Encode_pair, List.length_append, ih, List.length_cons]
    change 2 + bytes.length * 2 = (bytes.length + 1) * 2
    omega

/-- What bytes are written as is decoded. -/
theorem decodeHex16_encodeHex {bytes : Bytes} (h : bytes.length = 16) :
    decodeHex16 (encodeHex bytes) = .ok bytes := by
  have hlen : Text.len (encodeHex bytes) = 32 := by
    rw [len_encodeHex, h]
  have hpass : refuseIf (Text.len (encodeHex bytes) ≠ 32) EvidenceError.invalidFixture = .ok () :=
    if_neg (not_not_intro hlen)
  have hstart : splitAtByte (encodeHex bytes) (0 * 2) = some ([], encodeHex bytes) := by
    cases encodeHex bytes <;> rfl
  have hrun := decodeHexFrom_encodeHex (by omega) hstart
  rw [h] at hrun
  unfold decodeHex16
  rw [hpass]
  exact hrun

end Slices

end Historian
