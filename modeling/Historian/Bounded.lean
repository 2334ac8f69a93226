import Historian.Utf8
import Historian.Checks

namespace Historian

open Wire Checks

abbrev U32 := Fin (2 ^ 32)
abbrev U64 := Fin (2 ^ 64)
abbrev U128 := Fin (2 ^ 128)

/-- A string is its sequence of Unicode scalars; its length in bytes is that of its UTF-8. -/
abbrev Text := List Char

instance lawfulBEq_text : LawfulBEq (List Char) := inferInstance

def Text.len (s : Text) : Nat := (utf8Encode s).length

inductive ModelError where
  | invalidIdentity | invalidExactText | invalidPortableToken | invalidContentFormat
  | invalidRetryKey | invalidCanonicalDecimal | invalidNanosecond | emptyTimeInterval | emptyGap
  | tooManyNativeStatusTokens | tooManyObservations | tooManyGaps | emptyObservedEvidence
  | duplicateObservationId | mixedProducerPositions | misorderedProducerPositions
  | misorderedGaps | overlappingGaps | observationInsideGap | missingObservationInterval
  | unexpectedObservationInterval | invalidNoChangeMode | invalidDeclarationReference
  | invalidDeclarationRevision | registrySeriesCapacityExceeded
  | registryRevisionCapacityExceeded | seriesAlreadyRegistered | seriesNotFound | seriesRetired
  | staleDeclarationRevision | declarationUnchanged | seriesMetadataMismatch
  | observationValueFamilyMismatch | invalidSourceSchemaVersion | captureRunTimeOrder
  | sourceEndpointSystemMismatch | captureRunEndpointMismatch | sourceSnapshotRunMismatch
  | sourceProjectionRequired | sourceIntervalMismatch | sourceLifecycleBindingMismatch
  | admissionRetryScopeMismatch | tooManySourceObservationContexts
  | sourceObservationCountMismatch | sourceObservationAssociationMismatch
  | tooManySourceGapContexts | sourceGapCountMismatch | misorderedSourceRecordOrdinals
  | duplicateSourceEvidenceId | sourceRawSnapshotMismatch | sourceNormalizedRawMismatch
  | sourceNormalizedObservationMismatch | sourceRawIdempotencyMismatch
  | sourceInterpretationMismatch | sourceGapMismatch
  deriving DecidableEq, Repr

/-- An owned string that has passed the check of its type. -/
structure Checked (valid : Text → Bool) where
  value : Text
  isValid : valid value = true
  deriving DecidableEq

def Checked.new {valid : Text → Bool} (error : ModelError) (value : Text) :
    Except ModelError (Checked valid) :=
  if h : valid value then .ok ⟨value, h⟩ else .error error

theorem Checked.new_ok {valid : Text → Bool} {error : ModelError} {value : Text}
    {x : Checked valid} : Checked.new error value = .ok x ↔ value = x.value := by
  unfold Checked.new
  rw [dite_ok]
  constructor
  · rintro ⟨h, rfl⟩
    rfl
  · rintro rfl
    exact ⟨x.isValid, rfl⟩

def maxTextScalars : Nat := 4096
def maxPortableTokenBytes : Nat := 256
def maxContentFormatBytes : Nat := 64
def maxRetryKeyBytes : Nat := 128
def maxDeclarationReferenceScalars : Nat := 1024

def validatePrintableAscii (maximum : Nat) (value : Text) : Bool :=
  !value.isEmpty && value.len ≤ maximum &&
    (utf8Encode value).all fun byte => 0x20 ≤ byte && byte ≤ 0x7e

def validateExactText (value : Text) : Bool :=
  (value.take (maxTextScalars + 1)).length ≤ maxTextScalars

def validateContentFormat (value : Text) : Bool :=
  !value.isEmpty && value.len ≤ maxContentFormatBytes &&
    (utf8Encode value).all fun byte =>
      (0x21 ≤ byte && byte ≤ 0x7e) && !(0x41 ≤ byte && byte ≤ 0x5a)

/-- The Unicode control characters are the two C0 and C1 ranges. -/
def isControl (c : Char) : Bool := c.toNat ≤ 0x1f || (0x7f ≤ c.toNat && c.toNat ≤ 0x9f)

-- The scan stops after one scalar too many, whatever the length of the input.
def validateDeclarationReference (value : Text) : Bool :=
  let scanned := value.take (maxDeclarationReferenceScalars + 1)
  !value.isEmpty && scanned.all (!isControl ·) && scanned.length ≤ maxDeclarationReferenceScalars

abbrev PortableToken := Checked (validatePrintableAscii maxPortableTokenBytes)

abbrev StateClass := PortableToken
abbrev StateMember := PortableToken
abbrev NativeStatusToken := PortableToken
abbrev UnavailableReason := PortableToken
abbrev ExactText := Checked validateExactText
abbrev ContentFormat := Checked validateContentFormat
abbrev RetryKey := Checked (validatePrintableAscii maxRetryKeyBytes)
abbrev DeclarationReference := Checked validateDeclarationReference
abbrev SourceProjection := DeclarationReference
abbrev SourceSchemaIdentity := DeclarationReference

def PortableToken.new : Text → Except ModelError PortableToken := Checked.new .invalidPortableToken
def StateClass.new : Text → Except ModelError StateClass := PortableToken.new
def StateMember.new : Text → Except ModelError StateMember := PortableToken.new
def NativeStatusToken.new : Text → Except ModelError NativeStatusToken := PortableToken.new
def UnavailableReason.new : Text → Except ModelError UnavailableReason := PortableToken.new
def ExactText.new : Text → Except ModelError ExactText := Checked.new .invalidExactText
def ContentFormat.new : Text → Except ModelError ContentFormat := Checked.new .invalidContentFormat
def RetryKey.new : Text → Except ModelError RetryKey := Checked.new .invalidRetryKey
def DeclarationReference.new : Text → Except ModelError DeclarationReference :=
  Checked.new .invalidDeclarationReference
def SourceProjection.new : Text → Except ModelError SourceProjection := DeclarationReference.new
def SourceSchemaIdentity.new : Text → Except ModelError SourceSchemaIdentity :=
  DeclarationReference.new

theorem validatePrintableAscii_len {maximum : Nat} {value : Text}
    (h : validatePrintableAscii maximum value = true) : value.len ≤ maximum := by
  simp only [validatePrintableAscii, Bool.and_eq_true, decide_eq_true_eq] at h
  exact h.1.2

theorem validateContentFormat_len {value : Text} (h : validateContentFormat value = true) :
    value.len ≤ maxContentFormatBytes := by
  simp only [validateContentFormat, Bool.and_eq_true, decide_eq_true_eq] at h
  exact h.1.2

/-- A scan of one scalar past the bound finds the bound exceeded exactly when it is. -/
theorem take_succ_length_le {value : Text} {bound : Nat}
    (h : (value.take (bound + 1)).length ≤ bound) : value.length ≤ bound := by
  rw [List.length_take] at h
  omega

theorem validateExactText_len {value : Text} (h : validateExactText value = true) :
    value.len ≤ 4 * maxTextScalars := by
  have hl := take_succ_length_le (of_decide_eq_true h)
  have := length_utf8Encode_le value
  unfold Text.len
  omega

theorem validateDeclarationReference_len {value : Text}
    (h : validateDeclarationReference value = true) :
    value.len ≤ 4 * maxDeclarationReferenceScalars := by
  simp only [validateDeclarationReference, Bool.and_eq_true, decide_eq_true_eq] at h
  have hl := take_succ_length_le h.2
  have := length_utf8Encode_le value
  unfold Text.len
  omega

end Historian
