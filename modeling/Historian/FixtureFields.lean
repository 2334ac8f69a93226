import Historian.FixtureText

namespace Historian

open Wire Checks Machine Numeral

section Lines

theorem splitOnce_equals {line key value : Text} :
    splitOnce ['='] line = some (key, value) ↔ line = key ++ '=' :: value ∧ '=' ∉ key := by
  induction line generalizing key with
  | nil =>
    constructor
    · exact fun h => nomatch h
    · rintro ⟨h, -⟩
      exact absurd h.symm (List.append_ne_nil_of_right_ne_nil _ (List.cons_ne_nil _ _))
  | cons c rest ih =>
    unfold splitOnce
    by_cases hc : c = '='
    · subst hc
      rw [if_pos (by rfl)]
      constructor
      · intro h
        obtain ⟨rfl, rfl⟩ := Prod.mk.inj (Option.some.inj h)
        exact ⟨rfl, List.not_mem_nil⟩
      · rintro ⟨h, hkey⟩
        cases key with
        | nil =>
          obtain rfl := List.tail_eq_of_cons_eq h
          rfl
        | cons k key =>
          obtain rfl := List.head_eq_of_cons_eq h
          exact absurd List.mem_cons_self hkey
    · have hno : ¬['='].isPrefixOf (c :: rest) = true := by
        intro h
        obtain ⟨behind, hbehind⟩ := List.isPrefixOf_iff_prefix.mp h
        exact hc (List.head_eq_of_cons_eq hbehind).symm
      rw [if_neg hno]
      constructor
      · intro h
        obtain ⟨⟨before, behind⟩, hrest, heq⟩ := Option.map_eq_some_iff.mp h
        obtain ⟨rfl, rfl⟩ := Prod.mk.inj heq
        obtain ⟨rfl, hkey⟩ := ih.mp hrest
        refine ⟨rfl, ?_⟩
        rw [List.mem_cons, not_or]
        exact ⟨fun h => hc h.symm, hkey⟩
      · rintro ⟨h, hkey⟩
        cases key with
        | nil => exact absurd (List.head_eq_of_cons_eq h) hc
        | cons k key =>
          rw [List.mem_cons, not_or] at hkey
          rw [List.cons_append, List.cons.injEq] at h
          obtain ⟨rfl, hrest⟩ := h
          rw [ih.mpr ⟨hrest, hkey.2⟩]
          rfl

/-- The line of a field. -/
def joined (field : Text × Text) : Text := field.1 ++ '=' :: field.2

/-- Keys that are neither empty nor doubled, none with an equals sign. -/
structure IsFields (fields : Fields) : Prop where
  keys : ∀ field ∈ fields, field.1 ≠ [] ∧ '=' ∉ field.1
  nodup : (fields.map Prod.fst).Nodup

theorem addLine_ok {fields fields' : Fields} {line : Text} :
    addLine fields line = .ok fields' ↔ ∃ field : Text × Text, line = joined field ∧
      (field.1 ≠ [] ∧ '=' ∉ field.1) ∧ field.1 ∉ fields.map Prod.fst ∧
      fields' = fields ++ [field] := by
  unfold addLine joined
  constructor
  · intro h
    split at h
    next => exact nomatch h
    next key value hsplit =>
      obtain ⟨hline, hkey⟩ := splitOnce_equals.mp hsplit
      simp only [bind_ok, exists_unit, refuse_ok, pure_ok, not_or] at h
      obtain ⟨⟨hne, hfresh⟩, rfl⟩ := h
      exact ⟨(key, value), hline, ⟨hne, hkey⟩, hfresh, rfl⟩
  · rintro ⟨field, hline, ⟨hne, hkey⟩, hfresh, rfl⟩
    rw [splitOnce_equals.mpr ⟨hline, hkey⟩]
    simp only [bind_ok, exists_unit, refuse_ok, pure_ok, not_or]
    exact ⟨⟨hne, hfresh⟩, trivial⟩

theorem foldlM_addLine_ok {lines : List Text} {fields fields' : Fields}
    (hnodup : (fields.map Prod.fst).Nodup) :
    lines.foldlM addLine fields = .ok fields' ↔ ∃ added : Fields, lines = added.map joined ∧
      (∀ field ∈ added, field.1 ≠ [] ∧ '=' ∉ field.1) ∧
      ((fields ++ added).map Prod.fst).Nodup ∧ fields' = fields ++ added := by
  induction lines generalizing fields with
  | nil =>
    rw [List.foldlM_nil, pure_ok]
    constructor
    · rintro rfl
      refine ⟨[], rfl, List.forall_mem_nil _, ?_, (List.append_nil _).symm⟩
      rw [List.append_nil]
      exact hnodup
    · rintro ⟨added, hlines, -, -, rfl⟩
      rw [List.map_eq_nil_iff.mp hlines.symm, List.append_nil]
  | cons line lines ih =>
    rw [List.foldlM_cons, bind_ok]
    constructor
    · rintro ⟨next, hline, hrest⟩
      obtain ⟨field, rfl, hkey, hfresh, rfl⟩ := addLine_ok.mp hline
      have hnext : ((fields ++ [field]).map Prod.fst).Nodup := by
        rw [List.map_append, List.map_singleton, List.nodup_append]
        refine ⟨hnodup, List.nodup_singleton _, ?_⟩
        rintro key hmem _ hsingle rfl
        rw [List.mem_singleton.mp hsingle] at hmem
        exact hfresh hmem
      obtain ⟨added, rfl, hkeys, hall, rfl⟩ := (ih hnext).mp hrest
      rw [List.append_assoc] at hall ⊢
      exact ⟨field :: added, rfl, List.forall_mem_cons.mpr ⟨hkey, hkeys⟩, hall, rfl⟩
    · rintro ⟨added, hlines, hkeys, hall, rfl⟩
      cases added with
      | nil => exact nomatch hlines
      | cons field added =>
        obtain ⟨rfl, rfl⟩ := List.cons.inj hlines
        obtain ⟨hkey, hkeys⟩ := List.forall_mem_cons.mp hkeys
        have hsplit : fields ++ field :: added = (fields ++ [field]) ++ added :=
          (List.append_assoc fields [field] added).symm
        rw [hsplit] at hall
        have hnext : ((fields ++ [field]).map Prod.fst).Nodup := by
          rw [List.map_append] at hall
          exact (List.nodup_append.mp hall).1
        have hfresh : field.1 ∉ fields.map Prod.fst := by
          rw [List.map_append, List.map_singleton] at hnext
          intro hmem
          exact (List.nodup_append.mp hnext).2.2 _ hmem _ (List.mem_singleton_self _) rfl
        exact ⟨_, addLine_ok.mpr ⟨field, rfl, hkey, hfresh, rfl⟩,
          (ih hnext).mpr ⟨added, rfl, hkeys, hall, hsplit⟩⟩

/-- The fields of a text are its lines. -/
theorem Fields.new_ok {text : Text} {fields : Fields} :
    Fields.new text = .ok fields ↔ textLines text = fields.map joined ∧ IsFields fields := by
  unfold Fields.new
  have hnil : (([] : Fields).map Prod.fst).Nodup := List.nodup_nil
  rw [foldlM_addLine_ok hnil]
  simp only [List.nil_append]
  constructor
  · rintro ⟨added, hlines, hkeys, hnodup, rfl⟩
    exact ⟨hlines, hkeys, hnodup⟩
  · rintro ⟨hlines, hfields⟩
    exact ⟨fields, hlines, hfields.keys, hfields.nodup, rfl⟩

/-- A field whose line is read back. -/
structure Written (field : Text × Text) : Prop where
  key : field.1 ≠ [] ∧ '=' ∉ field.1
  keyLine : '\n' ∉ field.1
  valueLine : '\n' ∉ field.2
  noReturn : '\r' ∉ field.2

theorem splitInclusive_line {line rest : Text} (h : '\n' ∉ line) :
    splitInclusive '\n' (line ++ '\n' :: rest) = (line ++ ['\n']) :: splitInclusive '\n' rest := by
  induction line with
  | nil => exact if_pos rfl
  | cons c line ih =>
    rw [List.mem_cons, not_or] at h
    have hc : c ≠ '\n' := fun heq => h.1 heq.symm
    rw [List.cons_append, splitInclusive, if_neg hc, ih h.2]
    rfl

/-- Every field stands on a line of its own. -/
theorem textLines_encodeFields {fields : Fields} (h : ∀ field ∈ fields, Written field) :
    textLines (encodeFields fields) = fields.map joined := by
  induction fields with
  | nil => rfl
  | cons field fields ih =>
    obtain ⟨hfield, hrest⟩ := List.forall_mem_cons.mp h
    have hline : '\n' ∉ joined field := by
      unfold joined
      rw [List.mem_append, List.mem_cons, not_or, not_or]
      exact ⟨hfield.keyLine, by decide, hfield.valueLine⟩
    have htext : encodeFields (field :: fields) = joined field ++ '\n' :: encodeFields fields := by
      unfold encodeFields joined
      rw [List.flatMap_cons]
      simp only [List.append_assoc, List.cons_append, List.nil_append]
    have hlast : (joined field).getLast? ≠ some '\r' := by
      intro hreturn
      have hmem := List.mem_of_getLast? hreturn
      unfold joined at hmem hreturn
      rw [List.getLast?_append_of_ne_nil _ (List.cons_ne_nil _ _)] at hreturn
      rcases List.mem_cons.mp (List.mem_of_getLast? hreturn) with heq | hvalue
      · exact absurd heq (by decide)
      · exact hfield.noReturn hvalue
    have htail := ih hrest
    unfold textLines at htail ⊢
    rw [htext, splitInclusive_line hline, List.map_cons, htail, List.map_cons]
    simp only [List.getLast?_append_cons, List.getLast?_singleton, if_true, List.dropLast_concat,
      hlast, if_false]

theorem new_encodeFields {fields : Fields} (h : ∀ field ∈ fields, Written field)
    (hnodup : (fields.map Prod.fst).Nodup) : Fields.new (encodeFields fields) = .ok fields :=
  Fields.new_ok.mpr ⟨textLines_encodeFields h, fun field hmem => (h field hmem).key, hnodup⟩

theorem takeField_head (key value : Text) (fields : Fields) :
    takeField ((key, value) :: fields) key = .ok (value, fields) := by
  unfold takeField
  rw [List.find?_cons_of_pos (by simp), List.eraseP_cons_of_pos (by simp)]

/-- A field that is taken was there under its key, and the others are left. -/
theorem takeField_ok {fields rest : Fields} {key value : Text}
    (hnodup : (fields.map Prod.fst).Nodup) :
    takeField fields key = .ok (value, rest) ↔
      (key, value) ∈ fields ∧ rest = fields.eraseP (·.1 = key) := by
  unfold takeField
  cases hfind : fields.find? (·.1 = key) with
  | none =>
    constructor
    · exact fun h => nomatch h
    · rintro ⟨hmem, -⟩
      exact absurd (decide_eq_true rfl) (List.find?_eq_none.mp hfind _ hmem)
  | some field =>
    obtain ⟨key', value'⟩ := field
    have hmem := List.mem_of_find?_eq_some hfind
    have hfound := List.find?_some hfind
    have hkey : key' = key := of_decide_eq_true hfound
    subst hkey
    simp only [Except.ok.injEq, Prod.mk.injEq]
    constructor
    · rintro ⟨rfl, rfl⟩
      exact ⟨hmem, rfl⟩
    · rintro ⟨hother, rfl⟩
      have hsame := List.inj_on_of_nodup_map hnodup hmem hother rfl
      exact ⟨(Prod.mk.inj hsame).2, rfl⟩

theorem takeField_error {fields : Fields} {key : Text} {e : EvidenceError}
    (h : takeField fields key = .error e) : e = .invalidFixture := by
  unfold takeField at h
  split at h
  · exact (Except.error.inj h).symm
  · exact nomatch h

/-- The other fields stay. -/
theorem mem_rest {fields : Fields} {key other value : Text} (hne : other ≠ key) :
    (other, value) ∈ fields.eraseP (·.1 = key) ↔ (other, value) ∈ fields :=
  List.mem_eraseP_of_neg (by simpa using hne)

theorem nodup_rest {fields : Fields} (key : Text) (hnodup : (fields.map Prod.fst).Nodup) :
    ((fields.eraseP (·.1 = key)).map Prod.fst).Nodup :=
  hnodup.sublist (List.eraseP_sublist.map Prod.fst)

theorem len_append (a b : Text) : Text.len (a ++ b) = Text.len a + Text.len b := by
  unfold Text.len
  rw [utf8Encode_append, List.length_append]

theorem len_encodeFields (fields : Fields) : Text.len (encodeFields fields) =
    (fields.map fun field => Text.len field.1 + Text.len field.2 + 2).sum := by
  induction fields with
  | nil => rfl
  | cons field fields ih =>
    have htext : encodeFields (field :: fields) =
        field.1 ++ ('=' :: (field.2 ++ ['\n'])) ++ encodeFields fields := rfl
    rw [htext, len_append, len_append, len_cons, len_append, ih, List.map_cons, List.sum_cons]
    have hequals : ('=').utf8Size = 1 := by decide
    have hfeed : Text.len ['\n'] = 1 := by decide
    omega

/-- Fields with short keys and values have a short text. -/
theorem len_encodeFields_le {fields : Fields} {key value : Nat}
    (hkeys : ∀ k ∈ fields.map Prod.fst, Text.len k ≤ key)
    (hvalues : ∀ v ∈ fields.map Prod.snd, Text.len v ≤ value) :
    Text.len (encodeFields fields) ≤ fields.length * (key + value + 2) := by
  have hlines : ∀ n ∈ fields.map (fun field => Text.len field.1 + Text.len field.2 + 2),
      n ≤ key + value + 2 := by
    intro n hn
    obtain ⟨field, hfield, rfl⟩ := List.mem_map.mp hn
    have hkey := hkeys field.1 (List.mem_map_of_mem hfield)
    have hvalue := hvalues field.2 (List.mem_map_of_mem hfield)
    omega
  have hsum := List.sum_le_card_nsmul _ _ hlines
  rw [List.length_map, smul_eq_mul] at hsum
  rw [len_encodeFields]
  exact hsum

end Lines

section Values

theorem len_digits {radix : Nat} (hradix : radix ≤ 16) {ds : List Nat} (hds : IsDigits radix ds) :
    Text.len (ds.map Nat.digitChar) = ds.length := by
  unfold Text.len
  rw [utf8Encode_digits hradix hds, List.length_map]

theorem len_toDigits (n : U64) : Text.len (Nat.toDigits 10 n.val) ≤ 20 := by
  obtain ⟨ds, -, hds, htext, -⟩ := @toDigits_digits 10 (by decide) n.val
  have hlength := @length_toDigits_lt 10 (by decide) 20 _ (by decide)
    (Nat.lt_of_lt_of_le n.isLt (by decide))
  rw [htext] at hlength ⊢
  rw [len_digits (by decide) hds]
  rwa [List.length_map] at hlength

theorem len_paddedHex (n : U32) : Text.len (padded 16 8 n.val) = 8 := by
  obtain ⟨ds, -, hds, htext, -⟩ := @padded_digits 16 (by decide) 8 n.val
  have hlength : (padded 16 8 n.val).length = 8 :=
    length_padded (by decide) (by decide) (Nat.lt_of_lt_of_le n.isLt (by decide))
  rw [htext] at hlength ⊢
  rw [len_digits (by decide) hds]
  rwa [List.length_map] at hlength

theorem parseU64_toDigits (n : U64) : parseU64 (Nat.toDigits 10 n.val) = .ok n := by
  unfold parseU64
  rw [fromStrRadix_toDigits (by decide) (by decide)]
  rfl

theorem parseHexU32_padded (n : U32) : parseHexU32 (padded 16 8 n.val) = .ok n := by
  unfold parseHexU32
  rw [fromStrRadix_padded (by decide) (by decide), bind_ok]
  exact ⟨(), refuse_ok.mpr (not_not_intro (len_paddedHex n)), rfl⟩

/-- Digits end no line. -/
theorem digits_lineless {radix : Nat} (hradix : radix ≤ 16) {ds : List Nat}
    (hds : IsDigits radix ds) :
    '\n' ∉ ds.map Nat.digitChar ∧ '\r' ∉ ds.map Nat.digitChar := by
  have hall : ∀ d : Fin 16, Nat.digitChar d.val ≠ '\n' ∧ Nat.digitChar d.val ≠ '\r' := by decide
  constructor
  · intro h
    obtain ⟨d, hd, heq⟩ := List.mem_map.mp h
    exact (hall ⟨d, Nat.lt_of_lt_of_le (hds d hd) hradix⟩).1 heq
  · intro h
    obtain ⟨d, hd, heq⟩ := List.mem_map.mp h
    exact (hall ⟨d, Nat.lt_of_lt_of_le (hds d hd) hradix⟩).2 heq

theorem toDigits_lineless (n : Nat) : '\n' ∉ Nat.toDigits 10 n ∧ '\r' ∉ Nat.toDigits 10 n := by
  obtain ⟨ds, -, hds, htext, -⟩ := @toDigits_digits 10 (by decide) n
  rw [htext]
  exact digits_lineless (by decide) hds

theorem padded_lineless (width n : Nat) :
    '\n' ∉ padded 16 width n ∧ '\r' ∉ padded 16 width n := by
  obtain ⟨ds, -, hds, htext, -⟩ := @padded_digits 16 (by decide) width n
  rw [htext]
  exact digits_lineless (Nat.le_refl _) hds

theorem encodeHex_lineless (bytes : Bytes) :
    '\n' ∉ encodeHex bytes ∧ '\r' ∉ encodeHex bytes := by
  constructor
  · intro h
    obtain ⟨byte, -, hmem⟩ := List.mem_flatMap.mp h
    exact (padded_lineless 2 byte.toNat).1 hmem
  · intro h
    obtain ⟨byte, -, hmem⟩ := List.mem_flatMap.mp h
    exact (padded_lineless 2 byte.toNat).2 hmem

end Values

end Historian
