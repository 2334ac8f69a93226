import Historian.Utf8

namespace Numeral

open Wire

variable {radix bound : Nat}

/-- The value of digits behind a value that has been read, the most significant digit first. -/
def valueFrom (radix : Nat) : Nat → List Nat → Nat
  | value, [] => value
  | value, digit :: rest => valueFrom radix (value * radix + digit) rest

/-- The value of an ASCII digit or letter, of either case. -/
def digitValue (c : Char) : Option Nat :=
  if '0' ≤ c ∧ c ≤ '9' then some (c.toNat - 48)
  else if 'a' ≤ c ∧ c ≤ 'z' then some (c.toNat - 87)
  else if 'A' ≤ c ∧ c ≤ 'Z' then some (c.toNat - 55)
  else none

def digit? (radix : Nat) (c : Char) : Option Nat := (digitValue c).filter (· < radix)

/-- Digits behind a value that has been read; a value that leaves the machine's word is refused. -/
def readDigits (radix : Nat) : Fin bound → List Char → Option (Fin bound)
  | value, [] => some value
  | value, c :: rest => do
    let digit ← digit? radix c
    if h : value.val * radix + digit < bound then
      readDigits radix ⟨value.val * radix + digit, h⟩ rest
    else none

/-- A number with an optional sign in front of at least one digit. -/
def fromStrRadix [NeZero bound] (radix : Nat) (text : List Char) : Option (Fin bound) :=
  match text with
  | [] => none
  | c :: rest => if c = '+' ∧ rest ≠ [] then readDigits radix 0 rest else readDigits radix 0 text

/-- A number filled up with zeros to the width. -/
def padded (radix width n : Nat) : List Char := (Nat.toDigits radix n).leftpad width '0'

/-- The digits of numbers written without a sign. -/
def IsDigits (radix : Nat) (ds : List Nat) : Prop := ∀ d ∈ ds, d < radix

theorem valueFrom_append (value : Nat) (ds es : List Nat) :
    valueFrom radix value (ds ++ es) = valueFrom radix (valueFrom radix value ds) es := by
  induction ds generalizing value with
  | nil => rfl
  | cons d ds ih => exact ih _

theorem le_valueFrom (h : 1 < radix) (value : Nat) (ds : List Nat) :
    value ≤ valueFrom radix value ds := by
  induction ds generalizing value with
  | nil => exact Nat.le_refl _
  | cons d ds ih =>
    have hstep := ih (value * radix + d)
    have hmul : value ≤ value * radix := Nat.le_mul_of_pos_right value (by omega)
    unfold valueFrom
    omega

/-- A number behind a leading digit is written by its digits. -/
theorem toDigits_valueFrom (h : 1 < radix) {value : Nat} (hpos : 0 < value) {ds : List Nat}
    (hds : IsDigits radix ds) :
    Nat.toDigits radix (valueFrom radix value ds) =
      Nat.toDigits radix value ++ ds.map Nat.digitChar := by
  induction ds generalizing value with
  | nil => exact (List.append_nil _).symm
  | cons d ds ih =>
    obtain ⟨hd, hrest⟩ := List.forall_mem_cons.mp hds
    have hmul : value ≤ value * radix := Nat.le_mul_of_pos_right value (by omega)
    have hnext : Nat.toDigits radix (value * radix + d) =
        Nat.toDigits radix value ++ [Nat.digitChar d] := by
      rw [Nat.mul_comm, ← Nat.toDigits_append_toDigits h hpos hd, Nat.toDigits_of_lt_base hd]
    unfold valueFrom
    rw [ih (by omega) hrest, hnext, List.append_assoc]
    rfl

/-- Digits without a leading zero are the only spelling of their value. -/
theorem toDigits_value (h : 1 < radix) {d : Nat} {ds : List Nat} (hds : IsDigits radix (d :: ds))
    (hlead : d ≠ 0 ∨ ds = []) :
    Nat.toDigits radix (valueFrom radix 0 (d :: ds)) = (d :: ds).map Nat.digitChar := by
  obtain ⟨hd, hrest⟩ := List.forall_mem_cons.mp hds
  have hfirst : valueFrom radix 0 (d :: ds) = valueFrom radix d ds := by
    change valueFrom radix (0 * radix + d) ds = _
    rw [Nat.zero_mul, Nat.zero_add]
  rw [hfirst]
  rcases hlead with hlead | rfl
  · rw [toDigits_valueFrom h (by omega) hrest, Nat.toDigits_of_lt_base hd]
    rfl
  · exact Nat.toDigits_of_lt_base hd

/-- Every number has a spelling without a leading zero. -/
theorem exists_digits (h : 1 < radix) (n : Nat) : ∃ d ds, IsDigits radix (d :: ds) ∧
    (d ≠ 0 ∨ ds = []) ∧ valueFrom radix 0 (d :: ds) = n := by
  induction n using Nat.strongRecOn with
  | ind n ih =>
    by_cases hlt : n < radix
    · refine ⟨n, [], List.forall_mem_singleton.mpr hlt, Or.inr rfl, ?_⟩
      change 0 * radix + n = n
      omega
    · have hdiv : n / radix < n := Nat.div_lt_self (by omega) h
      have hpos : 0 < n / radix := Nat.div_pos (by omega) (by omega)
      obtain ⟨d, ds, hds, hlead, hvalue⟩ := ih (n / radix) hdiv
      have hmod : n % radix < radix := Nat.mod_lt n (by omega)
      refine ⟨d, ds ++ [n % radix], ?_, Or.inl ?_, ?_⟩
      · intro e he
        rw [← List.cons_append, List.mem_append, List.mem_singleton] at he
        rcases he with he | rfl
        · exact hds e he
        · exact hmod
      · rcases hlead with hlead | rfl
        · exact hlead
        · intro hzero
          subst hzero
          change 0 * radix + 0 = n / radix at hvalue
          omega
      · rw [← List.cons_append, valueFrom_append, hvalue]
        exact Nat.div_add_mod' n radix

theorem toDigits_digits (h : 1 < radix) (n : Nat) : ∃ ds, ds ≠ [] ∧ IsDigits radix ds ∧
    Nat.toDigits radix n = ds.map Nat.digitChar ∧ valueFrom radix 0 ds = n := by
  obtain ⟨d, ds, hds, hlead, hvalue⟩ := exists_digits h n
  refine ⟨d :: ds, List.cons_ne_nil _ _, hds, ?_, hvalue⟩
  rw [← hvalue, toDigits_value h hds hlead]

theorem valueFrom_zeros (count : Nat) (ds : List Nat) :
    valueFrom radix 0 (List.replicate count 0 ++ ds) = valueFrom radix 0 ds := by
  induction count with
  | zero => rfl
  | succ count ih =>
    change valueFrom radix (0 * radix + 0) _ = _
    rw [Nat.zero_mul]
    exact ih

/-- The zeros in front do not change the value. -/
theorem padded_digits (h : 1 < radix) (width n : Nat) : ∃ ds, ds ≠ [] ∧ IsDigits radix ds ∧
    padded radix width n = ds.map Nat.digitChar ∧ valueFrom radix 0 ds = n := by
  obtain ⟨ds, hne, hds, htext, hvalue⟩ := toDigits_digits h n
  refine ⟨List.replicate (width - ds.length) 0 ++ ds, ?_, ?_, ?_, ?_⟩
  · exact List.append_ne_nil_of_right_ne_nil _ hne
  · intro d hd
    rcases List.mem_append.mp hd with hd | hd
    · rw [List.eq_of_mem_replicate hd]
      omega
    · exact hds d hd
  · unfold padded List.leftpad
    rw [htext, List.map_append, List.map_replicate, List.length_map]
    rfl
  · rw [valueFrom_zeros, hvalue]

theorem length_padded (h : 1 < radix) {width n : Nat} (hwidth : 0 < width)
    (hn : n < radix ^ width) : (padded radix width n).length = width := by
  have hlength := (Nat.length_toDigits_le_iff h hwidth).mpr hn
  unfold padded
  rw [List.length_leftpad]
  omega

theorem digitValue_digitChar {d : Nat} (h : d < 16) : digitValue (Nat.digitChar d) = some d := by
  have hall : ∀ d : Fin 16, digitValue (Nat.digitChar d.val) = some d.val := by decide
  exact hall ⟨d, h⟩

theorem digit?_digitChar (hradix : radix ≤ 16) {d : Nat} (h : d < radix) :
    digit? radix (Nat.digitChar d) = some d := by
  unfold digit?
  rw [digitValue_digitChar (by omega)]
  exact Option.filter_some_pos (decide_eq_true h)

theorem digitChar_ne_plus {d : Nat} (h : d < 16) : Nat.digitChar d ≠ '+' := by
  have hall : ∀ d : Fin 16, Nat.digitChar d.val ≠ '+' := by decide
  exact hall ⟨d, h⟩

/-- Digits whose value fits are read. -/
theorem readDigits_map (h : 1 < radix) (hradix : radix ≤ 16) {ds : List Nat}
    (hds : IsDigits radix ds) {value : Fin bound} (hfits : valueFrom radix value.val ds < bound) :
    readDigits radix value (ds.map Nat.digitChar) = some ⟨valueFrom radix value.val ds, hfits⟩ := by
  induction ds generalizing value with
  | nil => rfl
  | cons d ds ih =>
    obtain ⟨hd, hrest⟩ := List.forall_mem_cons.mp hds
    have hstep : value.val * radix + d < bound :=
      Nat.lt_of_le_of_lt (le_valueFrom h _ ds) hfits
    rw [List.map_cons]
    unfold readDigits
    rw [digit?_digitChar hradix hd]
    change (if h : value.val * radix + d < bound then
      readDigits radix ⟨value.val * radix + d, h⟩ (ds.map Nat.digitChar) else none) = _
    rw [dif_pos hstep]
    exact ih hrest hfits

theorem fromStrRadix_map [NeZero bound] (h : 1 < radix) (hradix : radix ≤ 16) {ds : List Nat}
    (hne : ds ≠ []) (hds : IsDigits radix ds) {n : Fin bound} (hvalue : valueFrom radix 0 ds = n) :
    fromStrRadix radix (ds.map Nat.digitChar) = some n := by
  have hfits : valueFrom radix (0 : Fin bound).val ds < bound := by
    change valueFrom radix 0 ds < bound
    rw [hvalue]
    exact n.isLt
  have hread := readDigits_map h hradix hds hfits
  have hn : (⟨valueFrom radix (0 : Fin bound).val ds, hfits⟩ : Fin bound) = n := Fin.ext hvalue
  rw [hn] at hread
  cases ds with
  | nil => exact absurd rfl hne
  | cons d ds =>
    have hplus := digitChar_ne_plus (Nat.lt_of_lt_of_le (hds d List.mem_cons_self) hradix)
    rw [List.map_cons] at hread ⊢
    exact (if_neg fun hboth => hplus hboth.1).trans hread

/-- What a number is written as is read back. -/
theorem fromStrRadix_toDigits [NeZero bound] (h : 1 < radix) (hradix : radix ≤ 16)
    (n : Fin bound) : fromStrRadix radix (Nat.toDigits radix n.val) = some n := by
  obtain ⟨ds, hne, hds, htext, hvalue⟩ := toDigits_digits h n.val
  rw [htext]
  exact fromStrRadix_map h hradix hne hds hvalue

theorem fromStrRadix_padded [NeZero bound] (h : 1 < radix) (hradix : radix ≤ 16) (width : Nat)
    (n : Fin bound) : fromStrRadix radix (padded radix width n.val) = some n := by
  obtain ⟨ds, hne, hds, htext, hvalue⟩ := padded_digits h width n.val
  rw [htext]
  exact fromStrRadix_map h hradix hne hds hvalue

/-- The UTF-8 of a text without other than ASCII characters. -/
theorem utf8Encode_ascii {text : List Char} (h : ∀ c ∈ text, c.toNat < 128) :
    utf8Encode text = text.map fun c => UInt8.ofNat c.toNat := by
  induction text with
  | nil => rfl
  | cons c rest ih =>
    obtain ⟨hc, hrest⟩ := List.forall_mem_cons.mp h
    change String.utf8EncodeChar c ++ utf8Encode rest = _
    rw [ih hrest]
    rcases utf8EncodeChar_shape c with ⟨-, a, hbytes, ha⟩ | ⟨hlow, -⟩ | ⟨hlow, -⟩ | ⟨hlow, -⟩
    · rw [hbytes, List.map_cons, ofNat_eq_byte ha.symm]
      rfl
    · omega
    · omega
    · omega

theorem length_toDigits_lt (h : 1 < radix) {width n : Nat} (hwidth : 0 < width)
    (hn : n < radix ^ width) : (Nat.toDigits radix n).length ≤ width :=
  (Nat.length_toDigits_le_iff h hwidth).mpr hn

end Numeral
