import Historian.Bounded

namespace Historian

open Wire Checks

inductive IdentityFamily where
  | store | series | producer | observation | artifact | evidence
  deriving DecidableEq, Repr

/-- Version 7 and the RFC variant of a UUID. -/
def validateUuidV7 (bytes : Bytes) : Bool :=
  bytes.getD 6 0 >>> 4 == 7 && bytes.getD 8 0 &&& 0xC0 == 0x80

/-- Identities of different families neither compare nor convert. -/
structure Identity (family : IdentityFamily) where
  bytes : Bytes
  length_eq : bytes.length = 16
  isValid : validateUuidV7 bytes = true
  deriving DecidableEq

abbrev StoreId := Identity .store
abbrev SeriesId := Identity .series
abbrev ProducerId := Identity .producer
abbrev ObservationId := Identity .observation
abbrev ArtifactId := Identity .artifact
abbrev EvidenceId := Identity .evidence

variable {family : IdentityFamily}

/-- Construction from a 16-byte array, which is what every caller passes. -/
def Identity.fromBytes (bytes : Bytes) : Except ModelError (Identity family) :=
  if h : bytes.length = 16 ∧ validateUuidV7 bytes then .ok ⟨bytes, h.1, h.2⟩
  else .error .invalidIdentity

theorem Identity.fromBytes_ok {bytes : Bytes} {id : Identity family} :
    Identity.fromBytes bytes = .ok id ↔ bytes = id.bytes := by
  unfold Identity.fromBytes
  rw [dite_ok]
  constructor
  · rintro ⟨h, rfl⟩
    rfl
  · rintro rfl
    exact ⟨⟨id.length_eq, id.isValid⟩, rfl⟩

/-- Identities are ordered by their bytes. -/
def Identity.lt (a b : Identity family) : Bool := decide (a.bytes < b.bytes)

theorem Identity.lt_iff {a b : Identity family} : Identity.lt a b = true ↔ a.bytes < b.bytes := by
  simp [Identity.lt]

theorem Identity.lt_trans {a b c : Identity family} (h : Identity.lt a b = true)
    (h' : Identity.lt b c = true) : Identity.lt a c = true := by
  rw [Identity.lt_iff] at h h' ⊢
  exact List.lt_trans h h'

theorem Identity.lt_irrefl (a : Identity family) : Identity.lt a a = false := by
  simp [Identity.lt, List.lt_irrefl]

theorem Identity.eq_of_bytes {a b : Identity family} (h : a.bytes = b.bytes) : a = b := by
  cases a
  cases b
  simp_all

theorem Identity.lt_of_not_lt {a b : Identity family} (hne : a ≠ b)
    (h : ¬Identity.lt a b = true) : Identity.lt b a = true := by
  rw [Identity.lt_iff] at h ⊢
  rw [List.not_lt] at h
  refine Std.lt_of_le_of_ne h ?_
  intro heq
  exact hne (Identity.eq_of_bytes heq.symm)

/-- An identity for the runs on concrete records. -/
def sampleIdentity (n : UInt8) {family : IdentityFamily} : Identity family :=
  ⟨[0, 0, 0, 0, 0, n, 0x70, 0, 0x80, 0, 0, 0, 0, 0, 0, 0], rfl, by
    change ((0x70 : UInt8) >>> 4 == 7 && (0x80 : UInt8) &&& 0xC0 == 0x80) = true
    decide⟩

end Historian
