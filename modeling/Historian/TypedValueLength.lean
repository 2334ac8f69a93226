import Historian.TypedValueRaw

namespace Historian.TypedValueBlock

open Wire Checks BitPack

/-- The longest raw value: a marker, a length and the longest text. -/
def maxRawValueLen : Nat := 5 + 4 * maxTextScalars

theorem checkedAdd_ok {a b n : Nat} : checkedAdd a b = .ok n ↔ a + b < 2 ^ 64 ∧ n = a + b := by
  unfold checkedAdd
  split
  next h =>
    rw [Except.ok.injEq]
    constructor
    · intro heq
      exact ⟨h, heq.symm⟩
    · intro hsum
      exact hsum.2.symm
  next h =>
    constructor
    · intro herror
      cases herror
    · intro hsum
      exact absurd hsum.1 h

theorem writes_u16Bytes {bytes : Bytes} (h : bytes.length < 2 ^ 16) :
    Writes (putU16Bytes bytes) (toLE 2 bytes.length ++ bytes) := by
  unfold putU16Bytes
  rw [dif_pos h]
  exact (Writes.put _).bind (Writes.put _)

theorem writes_u32Bytes {bytes : Bytes} (h : bytes.length < 2 ^ 32) :
    Writes (putU32Bytes bytes) (toLE 4 bytes.length ++ bytes) := by
  unfold putU32Bytes
  rw [dif_pos h]
  exact (Writes.put _).bind (Writes.put _)

/-- The length of a raw value is that of the bytes that it is written as. -/
structure RawLength (family : ValueFamily) (value : ExactValue) (bytes : Bytes) : Prop where
  writes : Writes (encodeRawValue family value) bytes
  length_eq : rawValueLen family value = .ok bytes.length
  length_pos : 0 < bytes.length
  length_le : bytes.length ≤ maxRawValueLen

theorem writes_unavailable (reason : Option UnavailableReason) (absentMarker reasonMarker : UInt8) :
    ∃ bytes, Writes (encodeUnavailable reason absentMarker reasonMarker) bytes ∧
      unavailableLen reason = .ok bytes.length ∧ 0 < bytes.length ∧
      bytes.length ≤ maxRawValueLen := by
  have hmax : maxRawValueLen = 16389 := rfl
  have htoken : maxPortableTokenBytes = 256 := rfl
  cases reason with
  | none =>
    refine ⟨[absentMarker], Writes.put _, rfl, Nat.one_pos, ?_⟩
    rw [hmax, List.length_singleton]
    omega
  | some reason =>
    have hlen := token_len reason
    have hwrites := (Writes.put [reasonMarker]).bind
      (f := fun _ => putU16Bytes (utf8Encode reason.value))
      (@writes_u16Bytes (utf8Encode reason.value) (by unfold Text.len at hlen; omega))
    have hsize : ([reasonMarker] ++ (toLE 2 (utf8Encode reason.value).length ++
        utf8Encode reason.value)).length = 3 + reason.value.len := by
      simp only [List.length_append, length_toLE, List.length_singleton, Text.len]
      omega
    refine ⟨_, hwrites, ?_, ?_, ?_⟩
    · rw [hsize]
      exact checkedAdd_ok.mpr ⟨by omega, rfl⟩
    · omega
    · omega

/-- A fixed value of eight bytes behind its marker. -/
theorem rawLength_word {family : ValueFamily} {value : ExactValue} {n : Nat}
    (hencode : encodeRawValue family value = (do put [0]; put (toLE 8 n) : Put Unit))
    (hlen : rawValueLen family value = .ok 9) : ∃ bytes, RawLength family value bytes := by
  have hwrites : Writes (do put [0]; put (toLE 8 n) : Put Unit) ([0] ++ toLE 8 n) :=
    (Writes.put [0]).bind (Writes.put _)
  have hsize : ([(0 : UInt8)] ++ toLE 8 n).length = 9 := by
    rw [List.length_append, length_toLE, List.length_singleton]
  have hmax : maxRawValueLen = 16389 := rfl
  refine ⟨[0] ++ toLE 8 n, ?_, ?_, ?_, ?_⟩
  · rw [hencode]
    exact hwrites
  · rw [hsize]
    exact hlen
  · omega
  · omega

theorem rawLength_state (value : StateValue) : ∃ bytes, RawLength .state (.state value) bytes := by
  have hmax : maxRawValueLen = 16389 := rfl
  have htoken : maxPortableTokenBytes = 256 := rfl
  have hclass := token_len value.stateClass
  have hmember := token_len value.member
  have hwrites : Writes (encodeRawValue .state (.state value)) _ :=
    (Writes.put [0]).bind ((@writes_u16Bytes (utf8Encode value.stateClass.value)
      (by unfold Text.len at hclass; omega)).bind
      (@writes_u16Bytes (utf8Encode value.member.value)
        (by unfold Text.len at hmember; omega)))
  have hsize : ([0] ++ ((toLE 2 (utf8Encode value.stateClass.value).length ++
      utf8Encode value.stateClass.value) ++ (toLE 2 (utf8Encode value.member.value).length ++
        utf8Encode value.member.value))).length =
          5 + value.stateClass.value.len + value.member.value.len := by
    simp only [List.length_append, length_toLE, List.length_singleton, Text.len]
    omega
  refine ⟨_, hwrites, ?_, ?_, ?_⟩
  · rw [hsize]
    have hfirst : checkedAdd 5 value.stateClass.value.len =
        .ok (5 + value.stateClass.value.len) := checkedAdd_ok.mpr ⟨by omega, rfl⟩
    change (checkedAdd 5 value.stateClass.value.len >>= fun withClass =>
      checkedAdd withClass value.member.value.len) = _
    rw [hfirst]
    exact checkedAdd_ok.mpr ⟨by omega, rfl⟩
  · omega
  · omega

theorem rawLength_text (text : ExactText) : ∃ bytes, RawLength .text (.text text) bytes := by
  have hmax : maxRawValueLen = 16389 := rfl
  have hscalars : maxTextScalars = 4096 := rfl
  have hlen := text_len text
  have hwrites : Writes (encodeRawValue .text (.text text)) _ :=
    (Writes.put [0]).bind (@writes_u32Bytes (utf8Encode text.value)
      (by unfold Text.len at hlen; omega))
  have hsize : ([0] ++ (toLE 4 (utf8Encode text.value).length ++ utf8Encode text.value)).length =
      5 + text.value.len := by
    simp only [List.length_append, length_toLE, List.length_singleton, Text.len]
    omega
  refine ⟨_, hwrites, ?_, ?_, ?_⟩
  · rw [hsize]
    exact checkedAdd_ok.mpr ⟨by omega, rfl⟩
  · omega
  · omega

theorem rawLength_artifact (artifact : ArtifactReference) :
    ∃ bytes, RawLength .artifact (.artifact artifact) bytes := by
  have hmax : maxRawValueLen = 16389 := rfl
  have hformat : maxContentFormatBytes = 64 := rfl
  have hlen := format_len artifact.content.format
  have hwrites : Writes (encodeRawValue .artifact (.artifact artifact)) _ :=
    (Writes.put [0]).bind ((Writes.put artifact.artifactId.bytes).bind
      ((@writes_u16Bytes (utf8Encode artifact.content.format.value)
        (by unfold Text.len at hlen; omega)).bind
        ((Writes.put (toLE 16 artifact.content.version)).bind
          (Writes.put artifact.content.sha256))))
  have hsize : ([0] ++ (artifact.artifactId.bytes ++
      ((toLE 2 (utf8Encode artifact.content.format.value).length ++
        utf8Encode artifact.content.format.value) ++
        (toLE 16 artifact.content.version ++ artifact.content.sha256)))).length =
          67 + artifact.content.format.value.len := by
    simp only [List.length_append, length_toLE, List.length_singleton, Text.len,
      artifact.artifactId.length_eq, artifact.content.sha256_length]
    omega
  refine ⟨_, hwrites, ?_, ?_, ?_⟩
  · rw [hsize]
    exact checkedAdd_ok.mpr ⟨by omega, rfl⟩
  · omega
  · omega

theorem rawLength_unavailable (family : ValueFamily) (reason : Option UnavailableReason) :
    ∃ bytes, RawLength family (.unavailable reason) bytes := by
  have hlen : rawValueLen family (.unavailable reason) = unavailableLen reason := by
    cases family <;> rfl
  by_cases hboolean : family = .boolean
  · obtain ⟨bytes, hwrites, hlength, hpos, hle⟩ := writes_unavailable reason 2 3
    refine ⟨bytes, ?_, hlen.trans hlength, hpos, hle⟩
    unfold encodeRawValue
    rw [if_pos hboolean]
    exact hwrites
  · obtain ⟨bytes, hwrites, hlength, hpos, hle⟩ := writes_unavailable reason 1 2
    refine ⟨bytes, ?_, hlen.trans hlength, hpos, hle⟩
    unfold encodeRawValue
    rw [if_neg hboolean]
    exact hwrites

theorem rawLength_exists {family : ValueFamily} {value : ExactValue}
    (h : family.admits value = true) : ∃ bytes, RawLength family value bytes := by
  have hmax : maxRawValueLen = 16389 := rfl
  cases value with
  | unavailable reason => exact rawLength_unavailable family reason
  | real value =>
    cases family <;> simp only [ValueFamily.admits, Bool.false_eq_true] at h
    exact rawLength_word (n := value.bits) rfl rfl
  | signed value =>
    cases family <;> simp only [ValueFamily.admits, Bool.false_eq_true] at h
    exact rawLength_word (n := value.toBitVec.toFin) rfl rfl
  | unsigned value =>
    cases family <;> simp only [ValueFamily.admits, Bool.false_eq_true] at h
    exact rawLength_word (n := value) rfl rfl
  | boolean value =>
    cases family <;> simp only [ValueFamily.admits, Bool.false_eq_true] at h
    refine ⟨[if value then 1 else 0], Writes.put _, rfl, Nat.one_pos, ?_⟩
    rw [hmax, List.length_singleton]
    omega
  | state value =>
    cases family <;> simp only [ValueFamily.admits, Bool.false_eq_true] at h
    exact rawLength_state value
  | text value =>
    cases family <;> simp only [ValueFamily.admits, Bool.false_eq_true] at h
    exact rawLength_text value
  | artifact value =>
    cases family <;> simp only [ValueFamily.admits, Bool.false_eq_true] at h
    exact rawLength_artifact value

/-- The raw length of a list is that of the bytes that it is written as. -/
theorem rawLength_list {family : ValueFamily} {values : List ExactValue} {total : Nat}
    (h : ∀ value ∈ values, family.admits value = true)
    (hword : total + values.length * maxRawValueLen < 2 ^ 64) :
    ∃ bytes, Writes (encodeRaw family values) bytes ∧
      values.foldlM (fun total value => do
        let length ← rawValueLen family value
        checkedAdd total length) total = .ok (total + bytes.length) ∧
      values.length ≤ bytes.length ∧ bytes.length ≤ values.length * maxRawValueLen := by
  induction values generalizing total with
  | nil => exact ⟨[], Writes.nil, rfl, Nat.le_refl 0, Nat.zero_le _⟩
  | cons value rest ih =>
    obtain ⟨hvalue, hrest⟩ := List.forall_mem_cons.mp h
    obtain ⟨bytes, hraw⟩ := rawLength_exists hvalue
    have hpos := hraw.length_pos
    have hle := hraw.length_le
    rw [List.length_cons, Nat.add_mul, Nat.one_mul] at hword
    obtain ⟨behind, hwrites, hfold, hmore, hbound⟩ :=
      @ih (total + bytes.length) hrest (by omega)
    refine ⟨bytes ++ behind, hraw.writes.bind hwrites, ?_, ?_, ?_⟩
    · rw [List.foldlM_cons, hraw.length_eq]
      have hsum : checkedAdd total bytes.length = .ok (total + bytes.length) :=
        checkedAdd_ok.mpr ⟨by omega, rfl⟩
      rw [List.length_append, ← Nat.add_assoc, ← hfold]
      change (checkedAdd total bytes.length >>= _) = _
      rw [hsum]
      rfl
    · rw [List.length_append, List.length_cons]
      omega
    · rw [List.length_append, List.length_cons, Nat.add_mul, Nat.one_mul]
      omega

theorem rawPayloadLen_ok {family : ValueFamily} {values : List ExactValue}
    (h : ∀ value ∈ values, family.admits value = true)
    (hcount : values.length ≤ maxSourceObservationContexts) :
    ∃ bytes, Writes (encodeRaw family values) bytes ∧
      rawPayloadLen family values = .ok bytes.length ∧ values.length ≤ bytes.length ∧
      headerLen + bytes.length ≤ maxAdmissionPayloadV1 := by
  have hmax : maxRawValueLen = 16389 := rfl
  have hcontexts : maxSourceObservationContexts = 256 := rfl
  have hpayload : maxAdmissionPayloadV1 = 8388608 := rfl
  have hheader : headerLen = 16 := rfl
  obtain ⟨bytes, hwrites, hfold, hmore, hbound⟩ := @rawLength_list family values 0 h
    (by rw [hmax]; omega)
  rw [Nat.zero_add] at hfold
  rw [hmax] at hbound
  exact ⟨bytes, hwrites, hfold, hmore, by omega⟩

end Historian.TypedValueBlock
