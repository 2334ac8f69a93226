import Historian.Files
import Historian.Slice
import Historian.StoreError

namespace Historian

open Wire Checks Files

/-- The file names of a store. A slot number above the last slot of its family and generation
zero spell no name that the store writes; every other name is foreign. -/
inductive Artifact where
  | storeLock
  | storeFormat
  | storeFormatStaging
  | manifest (slot : Fin 2)
  | manifestStaging
  | registry (slot : UInt8)
  | registryStaging
  | retry (slot : UInt8)
  | retryStaging
  | recovery (slot : UInt8)
  | recoveryStaging
  | catalog (slot : UInt8)
  | catalogStaging
  | rotationIntent
  | sealedJournal (generation : U64)
  | sealedJournalStaging
  | activeJournal (generation : U64)
  | activeCheckpoint (generation : U64)
  | foreign (name : String)
  deriving DecidableEq

abbrev StoreDirectory := Directory Artifact Bytes
abbrev StoreEffect := Effect Artifact Bytes
abbrev StoreAction := Action Artifact Bytes ManifestStoreError
abbrev JournalAction := Action Artifact Bytes ActiveJournalError

/-- The slots of each of the families that keep three files. -/
def reusableSlots : List UInt8 := [0, 1, 2]

def present (d : StoreDirectory) (name : Artifact) : Bool := (d.lookup name).isSome

def readRequiredBounded (d : StoreDirectory) (name : Artifact) (maximum : Nat) :
    Except ManifestStoreError Bytes :=
  match d.lookup name with
  | none => .error (.io .read .notFound)
  | some bytes => do
    refuse (bytes.length = 0 ∨ maximum < bytes.length) .invalidInventory
    pure bytes

def readOptionalBounded (d : StoreDirectory) (name : Artifact) (maximum : Nat) :
    Except ManifestStoreError (Option Bytes) :=
  match readRequiredBounded d name maximum with
  | .ok bytes => .ok (some bytes)
  | .error (.io _ .notFound) => .ok none
  | .error error => .error error

/-- Write a staging file, read it back, and put it in the place of its slot. -/
def publishReusableSlot (staging target : Artifact) (bytes : Bytes) (maximum : Nat)
    (verify : Bytes → Except ManifestStoreError Unit) : StoreAction Unit := do
  ensure (refuse (bytes = [] ∨ maximum < bytes.length) .invalidOptions)
  look fun d => refuse (present d staging = true) .interruptedPublication
  emit (.put staging bytes)
  let candidate ← look fun d => readRequiredBounded d staging maximum
  ensure (verify candidate)
  emit (.rename staging target)

theorem readRequiredBounded_ok {d : StoreDirectory} {name : Artifact} {maximum : Nat}
    {bytes : Bytes} : readRequiredBounded d name maximum = .ok bytes ↔
      d.lookup name = some bytes ∧ bytes ≠ [] ∧ bytes.length ≤ maximum := by
  unfold readRequiredBounded
  cases d.lookup name with
  | none => simp
  | some found =>
    simp only [then_ok, refuse_ok, pure_ok, not_or, Nat.not_lt, List.length_eq_zero_iff,
      Option.some.injEq]
    constructor
    · intro h
      obtain ⟨h, rfl⟩ := h
      exact ⟨rfl, h⟩
    · intro h
      obtain ⟨rfl, h⟩ := h
      exact ⟨h, rfl⟩

theorem readOptionalBounded_some {d : StoreDirectory} {name : Artifact} {maximum : Nat}
    {bytes : Bytes} : readOptionalBounded d name maximum = .ok (some bytes) ↔
      d.lookup name = some bytes ∧ bytes ≠ [] ∧ bytes.length ≤ maximum := by
  rw [← readRequiredBounded_ok]
  unfold readOptionalBounded
  split
  next h => simp [h]
  next h => simp [h]
  next h => simp [h]

theorem readOptionalBounded_none {d : StoreDirectory} {name : Artifact} {maximum : Nat} :
    readOptionalBounded d name maximum = .ok none ↔ d.lookup name = none := by
  unfold readOptionalBounded readRequiredBounded
  cases d.lookup name with
  | none => simp
  | some bytes =>
    simp only [refuse]
    split
    next => simp [*] at *
    next heq =>
      exfalso
      split at heq
      · cases heq
      · cases heq
    next => simp

end Historian
