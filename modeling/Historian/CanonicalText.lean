import Historian.Numeral
import Historian.Identity
import Historian.Machine

namespace Historian

open Wire Checks Machine Numeral

/-- The byte of a digit of a number. -/
def digitByte (d : Nat) : UInt8 := UInt8.ofNat (Nat.digitChar d).toNat

def hyphen : UInt8 := 0x2D

/-- The loop over the hyphens in front of the next pair of digits. -/
def skipHyphens (sourceIndex : Nat) : Nat :=
  if sourceIndex = 8 ∨ sourceIndex = 13 ∨ sourceIndex = 18 ∨ sourceIndex = 23 then
    skipHyphens (sourceIndex + 1)
  else sourceIndex
termination_by 24 - sourceIndex

def decodeLowerHex (value : UInt8) : Except ModelError UInt8 :=
  if 0x30 ≤ value ∧ value ≤ 0x39 then .ok (value - 0x30)
  else if 0x61 ≤ value ∧ value ≤ 0x66 then .ok (value - 0x61 + 10)
  else .error .invalidIdentity

def checkHyphens (source : Bytes) : List Nat → Run ModelError Unit
  | [] => pure ()
  | place :: rest => do
    let found ← index source place
    refuseIf (found ≠ hyphen) .invalidIdentity
    checkHyphens source rest

/-- The loop over the bytes of the identity that are still to be read. -/
def readPairs (source : Bytes) : Nat → Nat → Run ModelError Bytes
  | 0, _ => pure []
  | count + 1, sourceIndex => do
    let sourceIndex := skipHyphens sourceIndex
    let first ← index source sourceIndex
    let high ← lift (decodeLowerHex first)
    let second ← index source (sourceIndex + 1)
    let low ← lift (decodeLowerHex second)
    let rest ← readPairs source count (sourceIndex + 2)
    pure ((high <<< 4 ||| low) :: rest)

def parseUuidV7 (text : Text) : Run ModelError Bytes := do
  let source := utf8Encode text
  refuseIf (source.length ≠ 36) .invalidIdentity
  checkHyphens source [8, 13, 18, 23]
  let bytes ← readPairs source 16 0
  refuseIf (validateUuidV7 bytes = false) .invalidIdentity
  pure bytes

/-- What stands in front of a byte. -/
def separator (index : Nat) : Text :=
  if index = 4 ∨ index = 6 ∨ index = 8 ∨ index = 10 then ['-'] else []

def displayFrom : Nat → Bytes → Text
  | _, [] => []
  | index, byte :: rest =>
    separator index ++ (padded 16 2 byte.toNat ++ displayFrom (index + 1) rest)

def displayUuid (bytes : Bytes) : Text := displayFrom 0 bytes

def u128CheckedMul (a : U128) (b : Nat) : Option U128 :=
  if h : a.val * b < 2 ^ 128 then some ⟨a.val * b, h⟩ else none

def u128CheckedAdd (a : U128) (b : Nat) : Option U128 :=
  if h : a.val + b < 2 ^ 128 then some ⟨a.val + b, h⟩ else none

/-- The loop over the digits. -/
def readDecimal : U128 → Bytes → Run ModelError U128
  | value, [] => pure value
  | value, digit :: rest => do
    let unit ← sub digit.toNat 0x30
    match (u128CheckedMul value 10).bind fun current => u128CheckedAdd current unit with
    | none => .error (.refused .invalidCanonicalDecimal)
    | some value => readDecimal value rest

def isAsciiDigit (byte : UInt8) : Bool := 0x30 ≤ byte && byte ≤ 0x39

def parseCanonicalU128 (text : Text) : Run ModelError U128 := do
  let bytes := utf8Encode text
  refuseIf (bytes = [] ∨ 39 < bytes.length ∨ (1 < bytes.length ∧ bytes.head? = some 0x30) ∨
    bytes.all isAsciiDigit = false) .invalidCanonicalDecimal
  readDecimal 0 bytes

/-- The sixteen bytes of a version 7 identity of the RFC variant. -/
structure IsUuidV7 (bytes : Bytes) : Prop where
  length_eq : bytes.length = 16
  version : (bytes.getD 6 0).toNat / 16 = 7
  variant : (bytes.getD 8 0).toNat / 64 = 2

theorem validateUuidV7_iff {bytes : Bytes} : validateUuidV7 bytes = true ↔
    (bytes.getD 6 0).toNat / 16 = 7 ∧ (bytes.getD 8 0).toNat / 64 = 2 := by
  have hversion : ∀ n : Fin 256, (UInt8.ofNat n.val >>> 4 == 7) = decide (n.val / 16 = 7) := by
    decide +kernel
  have hvariant : ∀ n : Fin 256,
      (UInt8.ofNat n.val &&& 0xC0 == 0x80) = decide (n.val / 64 = 2) := by
    decide +kernel
  have h6 := hversion ⟨(bytes.getD 6 0).toNat, (bytes.getD 6 0).toNat_lt⟩
  have h8 := hvariant ⟨(bytes.getD 8 0).toNat, (bytes.getD 8 0).toNat_lt⟩
  rw [UInt8.ofNat_toNat] at h6 h8
  unfold validateUuidV7
  rw [h6, h8, Bool.and_eq_true, decide_eq_true_iff, decide_eq_true_iff]

/-- A digit is either a lower-case digit of its value or refused. -/
theorem decodeLowerHex_cases (value : UInt8) :
    (∃ d : UInt8, d.toNat < 16 ∧ value = digitByte d.toNat ∧ decodeLowerHex value = .ok d) ∨
    (decodeLowerHex value = .error .invalidIdentity ∧ ∀ d < 16, value ≠ digitByte d) := by
  have hall : ∀ n : Fin 256,
      (∃ d : Fin 16, UInt8.ofNat n.val = digitByte d.val ∧
        (decodeLowerHex (UInt8.ofNat n.val)).toOption = some (UInt8.ofNat d.val)) ∨
      ((decodeLowerHex (UInt8.ofNat n.val)).toOption = none ∧
        ∀ d : Fin 16, UInt8.ofNat n.val ≠ digitByte d.val) := by
    decide +kernel
  have h := hall ⟨value.toNat, value.toNat_lt⟩
  rw [UInt8.ofNat_toNat] at h
  rcases h with ⟨d, hvalue, hdecode⟩ | ⟨hdecode, hno⟩
  · have hd : (UInt8.ofNat d.val).toNat = d.val := by
      rw [UInt8.toNat_ofNat']
      omega
    refine Or.inl ⟨UInt8.ofNat d.val, ?_, ?_, ?_⟩
    · rw [hd]
      exact d.isLt
    · rw [hd]
      exact hvalue
    · cases hresult : decodeLowerHex value with
      | error e => rw [hresult] at hdecode; exact absurd hdecode.symm (Option.some_ne_none _)
      | ok digit => rw [hresult] at hdecode; exact congrArg Except.ok (Option.some.inj hdecode)
  · refine Or.inr ⟨?_, fun d hd => hno ⟨d, hd⟩⟩
    unfold decodeLowerHex at hdecode ⊢
    split
    next h => rw [if_pos h] at hdecode; exact absurd hdecode (Option.some_ne_none _)
    next h =>
      split
      next h' =>
        rw [if_neg h, if_pos h'] at hdecode
        exact absurd hdecode (Option.some_ne_none _)
      next => rfl

theorem joined_nibbles {high low : UInt8} (hhigh : high.toNat < 16) (hlow : low.toNat < 16) :
    (high <<< 4 ||| low).toNat = high.toNat * 16 + low.toNat := by
  have hall : ∀ h l : Fin 16,
      (UInt8.ofNat h.val <<< 4 ||| UInt8.ofNat l.val).toNat = h.val * 16 + l.val := by
    decide +kernel
  have h := hall ⟨high.toNat, hhigh⟩ ⟨low.toNat, hlow⟩
  rwa [UInt8.ofNat_toNat, UInt8.ofNat_toNat] at h

theorem padded_pair {n : Nat} (h : n < 256) :
    padded 16 2 n = [Nat.digitChar (n / 16), Nat.digitChar (n % 16)] := by
  unfold padded
  rw [Nat.toDigits_eq_if (by decide)]
  split
  next hlow =>
    have hdiv : n / 16 = 0 := by omega
    have hmod : n % 16 = n := by omega
    rw [hdiv, hmod]
    rfl
  next hlow =>
    rw [Nat.toDigits_of_lt_base (by omega)]
    rfl

theorem digitChar_ascii {d : Nat} (h : d < 16) : (Nat.digitChar d).toNat < 128 := by
  have hall : ∀ d : Fin 16, (Nat.digitChar d.val).toNat < 128 := by decide
  exact hall ⟨d, h⟩

theorem utf8Encode_digits {radix : Nat} (hradix : radix ≤ 16) {ds : List Nat}
    (hds : IsDigits radix ds) : utf8Encode (ds.map Nat.digitChar) = ds.map digitByte := by
  rw [utf8Encode_ascii, List.map_map]
  · rfl
  · intro c hc
    obtain ⟨d, hd, rfl⟩ := List.mem_map.mp hc
    exact digitChar_ascii (Nat.lt_of_lt_of_le (hds d hd) hradix)

theorem utf8Encode_pair (byte : UInt8) : utf8Encode (padded 16 2 byte.toNat) =
    [digitByte (byte.toNat / 16), digitByte (byte.toNat % 16)] := by
  have hbyte := byte.toNat_lt
  have hds : IsDigits 16 [byte.toNat / 16, byte.toNat % 16] := by
    intro d hd
    simp only [List.mem_cons, List.not_mem_nil, or_false] at hd
    omega
  rw [padded_pair hbyte]
  exact utf8Encode_digits (Nat.le_refl _) hds

theorem utf8Encode_append (a b : Text) : utf8Encode (a ++ b) = utf8Encode a ++ utf8Encode b :=
  List.flatMap_append

/-- The display of an identity from one of its bytes on, as bytes. -/
theorem utf8Encode_displayFrom (index : Nat) (byte : UInt8) (rest : Bytes) :
    utf8Encode (displayFrom index (byte :: rest)) =
      utf8Encode (separator index) ++ digitByte (byte.toNat / 16) ::
        digitByte (byte.toNat % 16) :: utf8Encode (displayFrom (index + 1) rest) := by
  change utf8Encode (separator index ++ (padded 16 2 byte.toNat ++ displayFrom (index + 1) rest)) =
    _
  rw [utf8Encode_append, utf8Encode_append, utf8Encode_pair]
  rfl

theorem digitByte_inj {d e : Nat} (hd : d < 16) (he : e < 16) (h : digitByte d = digitByte e) :
    d = e := by
  have hall : ∀ d e : Fin 16, digitByte d.val = digitByte e.val → d = e := by decide +kernel
  exact congrArg Fin.val (hall ⟨d, hd⟩ ⟨e, he⟩ h)

theorem displayFrom_inj {k : Nat} {bytes other : Bytes} (hlength : bytes.length = other.length)
    (h : utf8Encode (displayFrom k bytes) = utf8Encode (displayFrom k other)) : bytes = other := by
  induction bytes generalizing k other with
  | nil => exact (List.eq_nil_of_length_eq_zero hlength.symm).symm
  | cons byte rest ih =>
    cases other with
    | nil => exact absurd hlength (Nat.succ_ne_zero _)
    | cons byte' rest' =>
      rw [utf8Encode_displayFrom, utf8Encode_displayFrom] at h
      have hdigits := List.append_cancel_left h
      rw [List.cons.injEq, List.cons.injEq] at hdigits
      obtain ⟨hhigh, hlow, hrest⟩ := hdigits
      have hbyte := byte.toNat_lt
      have hbyte' := byte'.toNat_lt
      have hdiv := digitByte_inj (by omega) (by omega) hhigh
      have hmod := digitByte_inj (by omega) (by omega) hlow
      have heq : byte = byte' := UInt8.toNat_inj.mp (by omega)
      rw [heq, ih (Nat.succ.inj hlength) hrest]

/-- Where the text of a byte begins, with the hyphen in front of it. -/
def place (k : Nat) : Nat :=
  2 * k + (if 4 < k then 1 else 0) + (if 6 < k then 1 else 0) + (if 8 < k then 1 else 0) +
    (if 10 < k then 1 else 0)

theorem skipHyphens_place {k : Nat} (h : k < 16) :
    skipHyphens (place k) = place k + (separator k).length ∧
      place (k + 1) = place k + (separator k).length + 2 ∧ place (k + 1) ≤ 36 := by
  have hnext : ∀ k : Fin 16, place (k.val + 1) = place k.val + (separator k.val).length + 2 ∧
      place (k.val + 1) ≤ 36 := by decide
  have hskip : ∀ k : Fin 16,
      (place k.val = 8 ∨ place k.val = 13 ∨ place k.val = 18 ∨ place k.val = 23) ∧
        (separator k.val).length = 1 ∧ ¬(place k.val + 1 = 8 ∨ place k.val + 1 = 13 ∨
          place k.val + 1 = 18 ∨ place k.val + 1 = 23) ∨
      ¬(place k.val = 8 ∨ place k.val = 13 ∨ place k.val = 18 ∨ place k.val = 23) ∧
        (separator k.val).length = 0 := by decide
  refine ⟨?_, hnext ⟨k, h⟩⟩
  unfold skipHyphens
  rcases hskip ⟨k, h⟩ with ⟨hat, hone, hbehind⟩ | ⟨hnot, hzero⟩
  · rw [if_pos hat]
    unfold skipHyphens
    rw [if_neg hbehind]
    exact congrArg (place k + ·) hone.symm
  · rw [if_neg hnot]
    exact congrArg (place k + ·) hzero.symm

theorem drop_place {source : Bytes}
    (hhyphens : ∀ i ∈ [8, 13, 18, 23], source[i]? = some hyphen) {k : Nat} (h : k < 16) :
    source.drop (place k) =
      utf8Encode (separator k) ++ source.drop (place k + (separator k).length) := by
  have hseparator : ∀ k : Fin 16, separator k.val = [] ∨
      (separator k.val = ['-'] ∧ place k.val ∈ [8, 13, 18, 23]) := by decide
  rcases hseparator ⟨k, h⟩ with hnone | ⟨hone, hplace⟩
  · change separator k = [] at hnone
    rw [hnone]
    rfl
  · change separator k = ['-'] at hone
    obtain ⟨hin, hat⟩ := List.getElem?_eq_some_iff.mp (hhyphens _ hplace)
    rw [hone, List.drop_eq_getElem_cons hin, hat]
    rfl

theorem drop_pair {source : Bytes} {i : Nat} (h : i + 2 ≤ source.length) :
    ∃ a b, source[i]? = some a ∧ source[i + 1]? = some b ∧
      source.drop i = a :: b :: source.drop (i + 2) := by
  refine ⟨source[i], source[i + 1], List.getElem?_eq_getElem (by omega),
    List.getElem?_eq_getElem (by omega), ?_⟩
  rw [List.drop_eq_getElem_cons (by omega), List.drop_eq_getElem_cons (by omega)]

/-- From any byte on, the loop either reads the bytes whose display stands there or refuses a text
that is no display. -/
theorem readPairs_cases {source : Bytes} (hlength : source.length = 36)
    (hhyphens : ∀ i ∈ [8, 13, 18, 23], source[i]? = some hyphen) {count k : Nat}
    (h : k + count = 16) :
    (∃ bytes, readPairs source count (place k) = .ok bytes ∧ bytes.length = count ∧
      source.drop (place k) = utf8Encode (displayFrom k bytes)) ∨
    (readPairs source count (place k) = .error (.refused .invalidIdentity) ∧
      ∀ bytes, bytes.length = count →
        source.drop (place k) ≠ utf8Encode (displayFrom k bytes)) := by
  induction count generalizing k with
  | zero =>
    have hk : k = 16 := by omega
    subst hk
    refine Or.inl ⟨[], rfl, rfl, ?_⟩
    exact List.drop_eq_nil_of_le (Nat.le_of_eq hlength)
  | succ count ih =>
    obtain ⟨hskip, hnext, hinside⟩ := skipHyphens_place (k := k) (by omega)
    have hdrop := drop_place hhyphens (k := k) (by omega)
    obtain ⟨first, second, hfirst, hsecond, hpair⟩ :=
      @drop_pair source (place k + (separator k).length) (by omega)
    rw [hpair, ← hnext] at hdrop
    unfold readPairs
    simp only [hskip, ← hnext, index_eq hfirst, index_eq hsecond, pure_bind]
    -- what a display of the remaining bytes says about the next two digits
    have hdisplay : ∀ bytes : Bytes, bytes.length = count + 1 →
        source.drop (place k) = utf8Encode (displayFrom k bytes) →
        ∃ byte rest, bytes = byte :: rest ∧ rest.length = count ∧
          first = digitByte (byte.toNat / 16) ∧ second = digitByte (byte.toNat % 16) ∧
          source.drop (place (k + 1)) = utf8Encode (displayFrom (k + 1) rest) := by
      intro bytes hbytes heq
      cases bytes with
      | nil => exact absurd hbytes.symm (Nat.succ_ne_zero _)
      | cons byte rest =>
        rw [hdrop, utf8Encode_displayFrom] at heq
        have hdigits := List.append_cancel_left heq
        rw [List.cons.injEq, List.cons.injEq] at hdigits
        exact ⟨byte, rest, rfl, Nat.succ.inj hbytes, hdigits⟩
    rcases decodeLowerHex_cases first with ⟨high, hhigh, hfirstDigit, hread⟩ | ⟨hread, hno⟩
    · rcases decodeLowerHex_cases second with ⟨low, hlow, hsecondDigit, hread'⟩ | ⟨hread', hno⟩
      · have hjoined := joined_nibbles hhigh hlow
        rcases ih (k := k + 1) (by omega) with ⟨bytes, hrest, hcount, hbehind⟩ | ⟨hrest, hnone⟩
        · refine Or.inl ⟨(high <<< 4 ||| low) :: bytes, ?_, ?_, ?_⟩
          · rw [hread, hread']
            change (readPairs source count (place (k + 1)) >>= _) = _
            rw [hrest]
            rfl
          · rw [List.length_cons, hcount]
          · have hdiv : (high <<< 4 ||| low).toNat / 16 = high.toNat := by omega
            have hmod : (high <<< 4 ||| low).toNat % 16 = low.toNat := by omega
            rw [hdrop, utf8Encode_displayFrom, hdiv, hmod, ← hfirstDigit, ← hsecondDigit, hbehind]
        · refine Or.inr ⟨?_, ?_⟩
          · rw [hread, hread']
            change (readPairs source count (place (k + 1)) >>= _) = _
            rw [hrest]
            rfl
          · intro bytes hbytes heq
            obtain ⟨byte, rest, -, hcount, -, -, hbehind⟩ := hdisplay bytes hbytes heq
            exact hnone rest hcount hbehind
      · refine Or.inr ⟨?_, ?_⟩
        · rw [hread, hread']
          rfl
        · intro bytes hbytes heq
          obtain ⟨byte, rest, -, -, -, hdigit, -⟩ := hdisplay bytes hbytes heq
          exact hno _ (by omega) hdigit
    · refine Or.inr ⟨?_, ?_⟩
      · rw [hread]
        rfl
      · intro bytes hbytes heq
        obtain ⟨byte, rest, -, -, hdigit, -⟩ := hdisplay bytes hbytes heq
        have hbyte := byte.toNat_lt
        exact hno _ (by omega) hdigit

theorem checkHyphens_cases {source : Bytes} {places : List Nat}
    (h : ∀ i ∈ places, i < source.length) :
    (checkHyphens source places = .ok () ∧ ∀ i ∈ places, source[i]? = some hyphen) ∨
    (checkHyphens source places = .error (.refused .invalidIdentity) ∧
      ¬∀ i ∈ places, source[i]? = some hyphen) := by
  induction places with
  | nil => exact Or.inl ⟨rfl, fun i hi => absurd hi List.not_mem_nil⟩
  | cons place rest ih =>
    obtain ⟨hplace, hrest⟩ := List.forall_mem_cons.mp h
    have hat := List.getElem?_eq_getElem hplace
    unfold checkHyphens
    rw [index_eq hat, List.forall_mem_cons, hat, Option.some.injEq]
    by_cases hhyphen : source[place] = hyphen
    · have hgo : refuseIf (source[place] ≠ hyphen) ModelError.invalidIdentity = .ok () :=
        if_neg (not_not_intro hhyphen)
      rcases ih hrest with ⟨hrun, hall⟩ | ⟨hrun, hnot⟩
      · exact Or.inl ⟨(congrArg (· >>= fun _ => checkHyphens source rest) hgo).trans hrun,
          hhyphen, hall⟩
      · exact Or.inr ⟨(congrArg (· >>= fun _ => checkHyphens source rest) hgo).trans hrun,
          fun hboth => hnot hboth.2⟩
    · have hstop : refuseIf (source[place] ≠ hyphen) ModelError.invalidIdentity =
          .error (.refused .invalidIdentity) := if_pos hhyphen
      exact Or.inr ⟨congrArg (· >>= fun _ => checkHyphens source rest) hstop,
        fun hboth => hhyphen hboth.1⟩

/-- The display of an identity has 36 bytes with hyphens at the four places. -/
theorem displayUuid_shape {bytes : Bytes} (h : bytes.length = 16) :
    (utf8Encode (displayUuid bytes)).length = 36 ∧
      ∀ i ∈ [8, 13, 18, 23], (utf8Encode (displayUuid bytes))[i]? = some hyphen := by
  match bytes, h with
  | [b0, b1, b2, b3, b4, b5, b6, b7, b8, b9, b10, b11, b12, b13, b14, b15], _ =>
    unfold displayUuid
    simp only [utf8Encode_displayFrom]
    refine ⟨rfl, ?_⟩
    intro i hi
    simp only [List.mem_cons, List.not_mem_nil, or_false] at hi
    rcases hi with rfl | rfl | rfl | rfl
    · rfl
    · rfl
    · rfl
    · rfl

theorem parseUuidV7_cases (text : Text) :
    (∃ bytes, parseUuidV7 text = .ok bytes ∧ IsUuidV7 bytes ∧ text = displayUuid bytes) ∨
    (parseUuidV7 text = .error (.refused .invalidIdentity) ∧
      ∀ bytes, IsUuidV7 bytes → text ≠ displayUuid bytes) := by
  by_cases hlength : (utf8Encode text).length = 36
  · have hgo : refuseIf ((utf8Encode text).length ≠ 36) ModelError.invalidIdentity = .ok () :=
      if_neg (not_not_intro hlength)
    have hplaces : ∀ i ∈ [8, 13, 18, 23], i < (utf8Encode text).length := by
      rw [hlength]
      decide
    unfold parseUuidV7
    simp only [hgo]
    rcases checkHyphens_cases hplaces with ⟨hcheck, hhyphens⟩ | ⟨hcheck, hnot⟩
    · rcases @readPairs_cases _ hlength hhyphens 16 0 rfl with
        ⟨bytes, hread, hcount, htext⟩ | ⟨hread, hnone⟩
      · change (utf8Encode text).drop 0 = utf8Encode (displayUuid bytes) at htext
        have hdisplay : text = displayUuid bytes := utf8Encode_inj htext
        change readPairs _ 16 0 = _ at hread
        by_cases hvalid : validateUuidV7 bytes = true
        · have hpass : refuseIf (validateUuidV7 bytes = false) ModelError.invalidIdentity =
              .ok () := if_neg (ne_false_of_eq_true hvalid)
          obtain ⟨hversion, hvariant⟩ := validateUuidV7_iff.mp hvalid
          refine Or.inl ⟨bytes, ?_, ⟨hcount, hversion, hvariant⟩, hdisplay⟩
          simp only [hcheck, hread, ok_then, hpass]
          rfl
        · have hstop : refuseIf (validateUuidV7 bytes = false) ModelError.invalidIdentity =
              .error (.refused .invalidIdentity) := if_pos (Bool.eq_false_iff.mpr hvalid)
          refine Or.inr ⟨?_, ?_⟩
          · simp only [hcheck, hread, ok_then, hstop]
            rfl
          · intro other hother heq
            rw [hdisplay] at heq
            have hsame : bytes = other := displayFrom_inj (hcount.trans hother.length_eq.symm)
              (congrArg utf8Encode heq)
            subst hsame
            exact hvalid (validateUuidV7_iff.mpr ⟨hother.version, hother.variant⟩)
      · refine Or.inr ⟨?_, ?_⟩
        · change readPairs _ 16 0 = _ at hread
          simp only [hcheck, hread, ok_then]
          rfl
        · intro bytes hbytes heq
          exact hnone bytes hbytes.length_eq (congrArg utf8Encode heq)
    · refine Or.inr ⟨?_, ?_⟩
      · simp only [hcheck, ok_then]
        rfl
      · intro bytes hbytes heq
        subst heq
        exact hnot (displayUuid_shape hbytes.length_eq).2
  · refine Or.inr ⟨?_, ?_⟩
    · exact congrArg (· >>= _) (if_pos hlength)
    · intro bytes hbytes heq
      subst heq
      exact hlength (displayUuid_shape hbytes.length_eq).1

/-- The digits of a number, as bytes, behind a value that has been read. -/
theorem readDecimal_digits {ds : List Nat} (hds : IsDigits 10 ds) (value : U128) :
    readDecimal value (ds.map digitByte) =
      if h : valueFrom 10 value.val ds < 2 ^ 128 then .ok ⟨valueFrom 10 value.val ds, h⟩
      else .error (.refused .invalidCanonicalDecimal) := by
  induction ds generalizing value with
  | nil =>
    have hfits : valueFrom 10 value.val [] < 2 ^ 128 := value.isLt
    rw [dif_pos hfits]
    rfl
  | cons d ds ih =>
    obtain ⟨hd, hrest⟩ := List.forall_mem_cons.mp hds
    have hunit : (digitByte d).toNat = 48 + d := by
      have hall : ∀ d : Fin 10, (digitByte d.val).toNat = 48 + d.val := by decide
      exact hall ⟨d, hd⟩
    have hsub : (sub (digitByte d).toNat 0x30 : Run ModelError Nat) = pure d := by
      rw [hunit, sub_eq (Nat.le_add_right 48 d), Nat.add_sub_cancel_left]
    have hgrows : value.val * 10 + d ≤ valueFrom 10 value.val (d :: ds) :=
      le_valueFrom (by decide) _ ds
    rw [List.map_cons]
    unfold readDecimal
    rw [hsub, pure_bind]
    by_cases hfits : value.val * 10 + d < 2 ^ 128
    · have hmul : u128CheckedMul value 10 = some ⟨value.val * 10, by omega⟩ := dif_pos (by omega)
      have hadd : u128CheckedAdd ⟨value.val * 10, by omega⟩ d = some ⟨value.val * 10 + d, hfits⟩ :=
        dif_pos hfits
      rw [hmul, Option.bind_some, hadd]
      exact ih hrest _
    · have hnone : ((u128CheckedMul value 10).bind fun current => u128CheckedAdd current d) =
          none := by
        unfold u128CheckedMul
        split
        next hmul => exact dif_neg hfits
        next => rfl
      rw [hnone, dif_neg (by omega)]

theorem digits_of_ascii {bytes : Bytes} (h : bytes.all isAsciiDigit = true) :
    ∃ ds, IsDigits 10 ds ∧ bytes = ds.map digitByte := by
  induction bytes with
  | nil => exact ⟨[], List.forall_mem_nil _, rfl⟩
  | cons byte rest ih =>
    rw [List.all_cons, Bool.and_eq_true] at h
    obtain ⟨ds, hds, rfl⟩ := ih h.2
    have hall : ∀ n : Fin 256, isAsciiDigit (UInt8.ofNat n.val) = true →
        n.val - 48 < 10 ∧ UInt8.ofNat n.val = digitByte (n.val - 48) := by
      decide +kernel
    have hbyte := hall ⟨byte.toNat, byte.toNat_lt⟩
    rw [UInt8.ofNat_toNat] at hbyte
    obtain ⟨hlt, heq⟩ := hbyte h.1
    refine ⟨(byte.toNat - 48) :: ds, List.forall_mem_cons.mpr ⟨hlt, hds⟩, ?_⟩
    rw [List.map_cons, ← heq]

theorem ascii_of_digits {ds : List Nat} (hds : IsDigits 10 ds) :
    (ds.map digitByte).all isAsciiDigit = true := by
  have hall : ∀ d : Fin 10, isAsciiDigit (digitByte d.val) = true := by decide
  rw [List.all_map, List.all_eq_true]
  intro d hd
  exact hall ⟨d, hds d hd⟩

theorem utf8Encode_toDigits (n : Nat) : ∃ d ds, IsDigits 10 (d :: ds) ∧ (d ≠ 0 ∨ ds = []) ∧
    valueFrom 10 0 (d :: ds) = n ∧
    utf8Encode (Nat.toDigits 10 n) = (d :: ds).map digitByte := by
  obtain ⟨d, ds, hds, hlead, hvalue⟩ := @exists_digits 10 (by decide) n
  refine ⟨d, ds, hds, hlead, hvalue, ?_⟩
  rw [← hvalue, toDigits_value (by decide) hds hlead]
  exact utf8Encode_digits (by decide) hds

/-- The decimal display of a value passes the checks in front of the loop. -/
theorem toDigits_passes (value : U128) :
    ¬(utf8Encode (Nat.toDigits 10 value.val) = [] ∨
      39 < (utf8Encode (Nat.toDigits 10 value.val)).length ∨
      (1 < (utf8Encode (Nat.toDigits 10 value.val)).length ∧
        (utf8Encode (Nat.toDigits 10 value.val)).head? = some 0x30) ∨
      (utf8Encode (Nat.toDigits 10 value.val)).all isAsciiDigit = false) := by
  obtain ⟨d, ds, hds, hlead, hvalue, hbytes⟩ := utf8Encode_toDigits value.val
  have hmax : (Nat.toDigits 10 value.val).length ≤ 39 := by
    rw [Nat.length_toDigits_le_iff (by decide) (by decide)]
    exact Nat.lt_of_lt_of_le value.isLt (by decide)
  have hlength : (d :: ds).length = (Nat.toDigits 10 value.val).length := by
    rw [← hvalue, toDigits_value (by decide) hds hlead, List.length_map]
  have hzero : ∀ d : Fin 10, digitByte d.val = 0x30 → d.val = 0 := by decide
  rw [hbytes, ascii_of_digits hds, List.length_map, hlength]
  rintro (hnil | hlong | ⟨hmany, hhead⟩ | hall)
  · exact absurd hnil (List.cons_ne_nil _ _)
  · omega
  · have hd := hzero ⟨d, hds d List.mem_cons_self⟩ (Option.some.inj hhead)
    rcases hlead with hlead | rfl
    · exact hlead hd
    · rw [← hlength, List.length_singleton] at hmany
      omega
  · exact absurd hall.symm Bool.false_ne_true

theorem parseCanonicalU128_cases (text : Text) :
    (∃ value : U128, parseCanonicalU128 text = .ok value ∧
      text = Nat.toDigits 10 value.val) ∨
    (parseCanonicalU128 text = .error (.refused .invalidCanonicalDecimal) ∧
      ∀ value : U128, text ≠ Nat.toDigits 10 value.val) := by
  have hrefuse {c : Prop} [Decidable c] (h : c) :
      refuseIf c ModelError.invalidCanonicalDecimal =
        .error (.refused .invalidCanonicalDecimal) := if_pos h
  have hpass {c : Prop} [Decidable c] (h : ¬c) :
      refuseIf c ModelError.invalidCanonicalDecimal = .ok () := if_neg h
  unfold parseCanonicalU128
  by_cases hcanonical : utf8Encode text = [] ∨ 39 < (utf8Encode text).length ∨
      (1 < (utf8Encode text).length ∧ (utf8Encode text).head? = some 0x30) ∨
      (utf8Encode text).all isAsciiDigit = false
  · simp only [hrefuse hcanonical]
    refine Or.inr ⟨rfl, ?_⟩
    intro value heq
    rw [heq] at hcanonical
    exact toDigits_passes value hcanonical
  · simp only [hpass hcanonical, ok_then]
    simp only [not_or, not_and, Bool.not_eq_false] at hcanonical
    obtain ⟨hne, -, hlead, hall⟩ := hcanonical
    obtain ⟨ds, hds, hbytes⟩ := digits_of_ascii hall
    have hrun := readDecimal_digits hds 0
    rw [← hbytes] at hrun
    by_cases hfits : valueFrom 10 (0 : U128).val ds < 2 ^ 128
    · rw [dif_pos hfits] at hrun
      refine Or.inl ⟨_, hrun, utf8Encode_inj ?_⟩
      cases ds with
      | nil => exact absurd hbytes hne
      | cons d ds =>
        have hfirst : d ≠ 0 ∨ ds = [] := by
          by_cases hone : ds = []
          · exact Or.inr hone
          · rw [hbytes] at hlead
            refine Or.inl ?_
            intro hzero
            subst hzero
            have hpositive := List.length_pos_iff.mpr hone
            refine hlead ?_ rfl
            rw [List.length_map, List.length_cons]
            omega
        have hspelling := @toDigits_value 10 (by decide) _ _ hds hfirst
        change utf8Encode text = utf8Encode (Nat.toDigits 10 (valueFrom 10 0 (d :: ds)))
        rw [hspelling, utf8Encode_digits (by decide) hds, hbytes]
    · rw [dif_neg hfits] at hrun
      refine Or.inr ⟨hrun, ?_⟩
      intro value heq
      obtain ⟨d', ds', hds', -, hvalue, hbytes'⟩ := utf8Encode_toDigits value.val
      have hfits' : valueFrom 10 (0 : U128).val (d' :: ds') < 2 ^ 128 := by
        change valueFrom 10 0 (d' :: ds') < 2 ^ 128
        rw [hvalue]
        exact value.isLt
      have hrun' := readDecimal_digits hds' 0
      rw [← hbytes', ← heq, dif_pos hfits', hrun] at hrun'
      exact absurd hrun' (fun h => nomatch h)

/-- One spelling for each value. The parser of the identities reads exactly the displays of the
version 7 identities of the RFC variant, each as the bytes displayed, and refuses every other
string. The parser of the numbers reads exactly the decimal displays of the values below `2 ^ 128`,
each as the value displayed, and refuses every other string. -/
theorem canonical_text :
    (∀ text bytes, parseUuidV7 text = .ok bytes ↔
      IsUuidV7 bytes ∧ text = displayUuid bytes) ∧
    (∀ text, (∀ bytes, IsUuidV7 bytes → text ≠ displayUuid bytes) →
      parseUuidV7 text = .error (.refused .invalidIdentity)) ∧
    (∀ text value, parseCanonicalU128 text = .ok value ↔ text = Nat.toDigits 10 value.val) ∧
    ∀ text, (∀ value : U128, text ≠ Nat.toDigits 10 value.val) →
      parseCanonicalU128 text = .error (.refused .invalidCanonicalDecimal) := by
  refine ⟨?identity, ?strange, ?number, ?malformed⟩
  case identity =>
    intro text bytes
    rcases parseUuidV7_cases text with ⟨found, hparse, hvalid, htext⟩ | ⟨hparse, hnone⟩
    · rw [hparse, Except.ok.injEq]
      constructor
      · rintro rfl
        exact ⟨hvalid, htext⟩
      · rintro ⟨hbytes, heq⟩
        rw [htext] at heq
        exact displayFrom_inj (hvalid.length_eq.trans hbytes.length_eq.symm)
          (congrArg utf8Encode heq)
    · rw [hparse]
      constructor
      · exact fun h => nomatch h
      · rintro ⟨hbytes, heq⟩
        exact absurd heq (hnone bytes hbytes)
  case strange =>
    intro text h
    rcases parseUuidV7_cases text with ⟨bytes, -, hvalid, htext⟩ | ⟨hparse, -⟩
    · exact absurd htext (h bytes hvalid)
    · exact hparse
  case number =>
    intro text value
    rcases parseCanonicalU128_cases text with ⟨found, hparse, htext⟩ | ⟨hparse, hnone⟩
    · rw [hparse, Except.ok.injEq]
      constructor
      · rintro rfl
        exact htext
      · intro heq
        rw [htext] at heq
        have hvalue := congrArg (@fromStrRadix (2 ^ 128) _ 10) heq
        rw [fromStrRadix_toDigits (by decide) (by decide),
          fromStrRadix_toDigits (by decide) (by decide)] at hvalue
        exact Option.some.inj hvalue
    · rw [hparse]
      constructor
      · exact fun h => nomatch h
      · exact fun heq => absurd heq (hnone value)
  case malformed =>
    intro text h
    rcases parseCanonicalU128_cases text with ⟨value, -, htext⟩ | ⟨hparse, -⟩
    · exact absurd htext (h value)
    · exact hparse

end Historian
