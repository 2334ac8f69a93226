import Historian.TypedValueFields

namespace Historian.TypedValueBlock

open Wire Checks BitPack

theorem Text.len_pos {text : Text} (h : text ≠ []) : 0 < text.len := by
  cases text with
  | nil => exact absurd rfl h
  | cons first rest =>
    have hpos := length_utf8EncodeChar_pos first
    unfold Text.len utf8Encode
    rw [List.flatMap_cons, List.length_append]
    omega

theorem validatePrintableAscii_pos {maximum : Nat} {value : Text}
    (h : validatePrintableAscii maximum value = true) : 0 < value.len := by
  simp only [validatePrintableAscii, Bool.and_eq_true, Bool.not_eq_true', List.isEmpty_eq_false_iff]
    at h
  exact Text.len_pos h.1.1

theorem validateContentFormat_pos {value : Text} (h : validateContentFormat value = true) :
    0 < value.len := by
  simp only [validateContentFormat, Bool.and_eq_true, Bool.not_eq_true', List.isEmpty_eq_false_iff]
    at h
  exact Text.len_pos h.1.1

theorem token_len (token : PortableToken) :
    0 < token.value.len ∧ token.value.len ≤ maxPortableTokenBytes :=
  ⟨validatePrintableAscii_pos token.isValid, validatePrintableAscii_len token.isValid⟩

theorem format_len (format : ContentFormat) :
    0 < format.value.len ∧ format.value.len ≤ maxContentFormatBytes :=
  ⟨validateContentFormat_pos format.isValid, validateContentFormat_len format.isValid⟩

theorem text_len (text : ExactText) : text.value.len ≤ 4 * maxTextScalars :=
  validateExactText_len text.isValid

theorem codec_reason :
    Codec (fun _ => True) (fun reason : UnavailableReason => putU16Bytes (utf8Encode reason.value))
      decodeReason := by
  apply Codec.checked (fun reason : UnavailableReason => reason.value)
    (@codec_shortText maxPortableTokenBytes (by decide))
  · intro reason _
    exact token_len reason
  · intro text _ reason
    rw [mapError_ok, true_and]
    exact Checked.new_ok

theorem codec_state : Codec (fun _ => True)
    (fun value : StateValue => (do
      putU16Bytes (utf8Encode value.stateClass.value)
      putU16Bytes (utf8Encode value.member.value) : Put Unit)) decodeState := by
  have htoken := @codec_shortText maxPortableTokenBytes (by decide)
  apply Codec.field (fun value : StateValue => value.stateClass.value) htoken
  · intro value _
    exact token_len value.stateClass
  intro stateClass _
  apply Codec.last (fun value : StateValue => value.member.value) htoken
  · intro value _
    exact token_len value.member
  intro member _ bs value rest
  simp only [invalidModel, decode_bind_ok, fromExcept_ok, mapError_ok, decode_pure_ok,
    StateClass.new, StateMember.new, PortableToken.new, Checked.new_ok]
  constructor
  · intro h
    obtain ⟨first, _, ⟨rfl, rfl⟩, second, _, ⟨rfl, rfl⟩, rfl, rfl⟩ := h
    exact ⟨⟨⟨trivial, rfl⟩, rfl⟩, rfl⟩
  · intro h
    obtain ⟨⟨⟨-, rfl⟩, rfl⟩, rfl⟩ := h
    exact ⟨value.stateClass, bs, ⟨rfl, rfl⟩, value.member, bs, ⟨rfl, rfl⟩, rfl, rfl⟩

theorem codec_text : Codec (fun _ => True)
    (fun text : ExactText => putU32Bytes (utf8Encode text.value)) decodeText := by
  apply Codec.last (fun text : ExactText => text.value) codec_longText
  · intro text _
    have hlen := text_len text
    have hmax : 4 * maxTextScalars < 2 ^ 32 := by decide
    omega
  · intro value _ bs text rest
    simp only [invalidModel, decode_bind_ok, fromExcept_ok, refuse_ok, mapError_ok, ExactText.new,
      Checked.new_ok]
    constructor
    · intro h
      obtain ⟨_, _, ⟨-, rfl⟩, hvalue, rfl⟩ := h
      exact ⟨⟨trivial, hvalue⟩, rfl⟩
    · intro h
      obtain ⟨⟨-, rfl⟩, rfl⟩ := h
      have hvalid : (text.value.take (maxTextScalars + 1)).length ≤ maxTextScalars :=
        of_decide_eq_true text.isValid
      exact ⟨(), bs, ⟨Nat.not_lt.mpr hvalid, rfl⟩, rfl, rfl⟩

theorem codec_artifactId : Codec (fun _ => True)
    (fun artifactId : ArtifactId => (put artifactId.bytes : Put Unit)) decodeArtifactId := by
  apply Codec.checked (fun artifactId : ArtifactId => artifactId.bytes)
    (codec_take BlockError.invalidBlock 16)
  · intro artifactId _
    exact artifactId.length_eq
  · intro bytes _ artifactId
    rw [mapError_ok, Identity.fromBytes_ok, true_and]

theorem codec_format : Codec (fun _ => True)
    (fun format : ContentFormat => putU16Bytes (utf8Encode format.value)) decodeFormat := by
  apply Codec.checked (fun format : ContentFormat => format.value)
    (@codec_shortText maxContentFormatBytes (by decide))
  · intro format _
    exact format_len format
  · intro text _ format
    rw [mapError_ok, true_and]
    exact Checked.new_ok

theorem codec_content : Codec (fun _ => True)
    (fun content : ContentIdentity => (do
      putU16Bytes (utf8Encode content.format.value)
      encodeLE 16 content.version
      put content.sha256 : Put Unit)) decodeContent := by
  apply Codec.field ContentIdentity.format codec_format (fun _ _ => trivial)
  intro format _
  apply Codec.field ContentIdentity.version codec_u128 (fun _ _ => trivial)
  intro version _
  apply Codec.checked ContentIdentity.sha256 (codec_take BlockError.invalidBlock 32)
  · intro content _
    exact content.sha256_length
  · intro sha256 _ content
    rw [mapError_ok, ContentIdentity.ofDigest_ok, true_and]

theorem codec_artifact : Codec (fun _ => True)
    (fun artifact : ArtifactReference => (do
      put artifact.artifactId.bytes
      putU16Bytes (utf8Encode artifact.content.format.value)
      encodeLE 16 artifact.content.version
      put artifact.content.sha256 : Put Unit)) decodeArtifact := by
  apply Codec.field ArtifactReference.artifactId codec_artifactId (fun _ _ => trivial)
  intro artifactId _
  apply Codec.map ArtifactReference.content codec_content (fun _ _ => trivial)
  intro content _ artifact
  cases artifact
  simp

/-- A value of its family that is not unavailable. -/
def Available (family : ValueFamily) (value : ExactValue) : Prop :=
  family.admits value = true ∧ ∀ reason, value ≠ .unavailable reason

theorem codec_available {family : ValueFamily} (h : family ≠ .boolean) :
    Codec (Available family) (encodeAvailable family) (decodeAvailable family) := by
  unfold decodeAvailable Available
  cases family with
  | real =>
    apply Codec.inject (fun bits => ExactValue.real ⟨bits⟩) codec_u64 _ (fun _ => rfl)
    intro value
    rcases value with ⟨_⟩ | _ | _ | _ | _ | _ | _ | _ <;> simp [ValueFamily.admits]
  | signed =>
    apply Codec.inject ExactValue.signed codec_i64 _ (fun _ => rfl)
    intro value
    cases value <;> simp [ValueFamily.admits]
  | unsigned =>
    apply Codec.inject ExactValue.unsigned codec_u64 _ (fun _ => rfl)
    intro value
    cases value <;> simp [ValueFamily.admits]
  | boolean => exact absurd rfl h
  | state =>
    apply Codec.inject ExactValue.state codec_state _ (fun _ => rfl)
    intro value
    cases value <;> simp [ValueFamily.admits]
  | text =>
    apply Codec.inject ExactValue.text codec_text _ (fun _ => rfl)
    intro value
    cases value <;> simp [ValueFamily.admits]
  | artifact =>
    apply Codec.inject ExactValue.artifact codec_artifact _ (fun _ => rfl)
    intro value
    cases value <;> simp [ValueFamily.admits]

/-- The marker before a raw value. -/
def rawMarker (family : ValueFamily) : ExactValue → UInt8
  | .unavailable none => if family = .boolean then 2 else 1
  | .unavailable (some _) => if family = .boolean then 3 else 2
  | .boolean true => if family = .boolean then 1 else 0
  | _ => 0

def encodeRawBody (family : ValueFamily) : ExactValue → Put Unit
  | .unavailable none => pure ()
  | .unavailable (some reason) => putU16Bytes (utf8Encode reason.value)
  | value => if family = .boolean then pure () else encodeAvailable family value

theorem encodeRawValue_eq {family : ValueFamily} {value : ExactValue}
    (h : family.admits value = true) : encodeRawValue family value = (do
      put [rawMarker family value]
      encodeRawBody family value) := by
  unfold encodeRawValue
  by_cases hboolean : family = .boolean
  · subst hboolean
    rw [if_pos rfl]
    rcases value with _ | _ | _ | (_ | _) | _ | _ | _ | (_ | _) <;>
      simp [ValueFamily.admits] at h <;> rfl
  · rw [if_neg hboolean]
    rcases value with _ | _ | _ | (_ | _) | _ | _ | _ | (_ | _) <;>
      simp [rawMarker, encodeRawBody, encodeUnavailable, hboolean]

/-- An unavailable value behind its marker. -/
theorem codec_absent {P : ExactValue → Prop} {family : ValueFamily}
    (h : ∀ value, P value ↔ .unavailable none = value) :
    Codec P (encodeRawBody family) (pure (.unavailable none) : Reader ExactValue) := by
  refine (Codec.pure h).congr (fun _ => Iff.rfl) ?_
  intro value hvalue
  rw [← (h value).mp hvalue]
  rfl

theorem codec_unavailable {P : ExactValue → Prop} {family : ValueFamily}
    (h : ∀ value, P value ↔ ∃ reason, True ∧ .unavailable (some reason) = value) :
    Codec P (encodeRawBody family) (do
      let reason ← decodeReason
      pure (.unavailable (some reason))) :=
  Codec.inject (fun reason => ExactValue.unavailable (some reason)) codec_reason h fun _ => rfl

theorem codec_booleanValue {P : ExactValue → Prop} {value : Bool}
    (h : ∀ other, P other ↔ .boolean value = other) :
    Codec P (encodeRawBody .boolean) (pure (.boolean value) : Reader ExactValue) := by
  refine (Codec.pure h).congr (fun _ => Iff.rfl) ?_
  intro other hother
  rw [← (h other).mp hother]
  rfl

theorem codec_rawValue (family : ValueFamily) :
    Codec (fun value => family.admits value = true) (encodeRawValue family)
      (decodeRawValue family) := by
  have h : Codec (fun value => family.admits value = true) (fun value => do
      put [rawMarker family value]
      encodeRawBody family value) (decodeRawValue family) := by
    apply Codec.field (rawMarker family) codec_byte (fun _ _ => trivial)
    intro marker _
    by_cases hboolean : family = .boolean
    · subst hboolean
      rw [if_pos rfl]
      split
      next =>
        apply codec_booleanValue
        intro value
        rcases value with _ | _ | _ | (_ | _) | _ | _ | _ | (_ | _) <;>
          simp [ValueFamily.admits, rawMarker]
      next =>
        apply codec_booleanValue
        intro value
        rcases value with _ | _ | _ | (_ | _) | _ | _ | _ | (_ | _) <;>
          simp [ValueFamily.admits, rawMarker]
      next =>
        apply codec_absent
        intro value
        rcases value with _ | _ | _ | (_ | _) | _ | _ | _ | (_ | _) <;>
          simp [ValueFamily.admits, rawMarker]
      next =>
        apply codec_unavailable
        intro value
        rcases value with _ | _ | _ | (_ | _) | _ | _ | _ | (_ | _) <;>
          simp [ValueFamily.admits, rawMarker]
      next =>
        apply Codec.refused
        intro value
        rcases value with _ | _ | _ | (_ | _) | _ | _ | _ | (_ | _) <;>
          simp_all [ValueFamily.admits, rawMarker]
    · rw [if_neg hboolean]
      split
      next =>
        refine (codec_available hboolean).congr ?_ ?_
        · intro value
          rcases value with _ | _ | _ | (_ | _) | _ | _ | _ | (_ | _) <;>
            simp [Available, rawMarker, hboolean]
        · intro value hvalue
          rcases value with _ | _ | _ | (_ | _) | _ | _ | _ | (_ | _) <;>
            simp_all [Available, encodeRawBody]
      next =>
        apply codec_absent
        intro value
        rcases value with _ | _ | _ | (_ | _) | _ | _ | _ | (_ | _) <;>
          simp [ValueFamily.admits, rawMarker, hboolean]
      next =>
        apply codec_unavailable
        intro value
        rcases value with _ | _ | _ | (_ | _) | _ | _ | _ | (_ | _) <;>
          simp [ValueFamily.admits, rawMarker, hboolean]
      next =>
        apply Codec.refused
        intro value
        rcases value with _ | _ | _ | (_ | _) | _ | _ | _ | (_ | _) <;>
          simp_all [ValueFamily.admits, rawMarker]
  exact h.congr (fun _ => Iff.rfl) fun value hvalue => encodeRawValue_eq hvalue

end Historian.TypedValueBlock
