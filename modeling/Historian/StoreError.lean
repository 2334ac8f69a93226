import Historian.JournalWire

namespace Historian

/-- The standard-library error kinds that reading and creating files can meet here. -/
inductive IoErrorKind where
  | notFound | alreadyExists | unexpectedEof
  deriving DecidableEq, Repr

inductive StoreIoOperation where
  | createArtifact | openArtifact | read
  deriving DecidableEq, Repr

inductive ManifestIoOperation where
  | createArtifact | openArtifact | read | publish | remove
  deriving DecidableEq, Repr

inductive ActiveJournalError where
  | invalidOptions | alreadyExists | alreadyOpen | missingArtifact | invalidLayout | storeMismatch
  | rotationRequired | frameTooLarge | sequenceMismatch | faulted | reopenRequired
  | journal (error : JournalV1Error)
  | io (operation : StoreIoOperation) (kind : IoErrorKind)
  deriving DecidableEq

inductive ManifestStoreError where
  | invalidOptions | unsupportedStoreFormat | alreadyOpen | invalidInventory | invalidManifest
  | invalidRegistry | invalidRetry | invalidGeneration | generationCatalogFull | storeMismatch
  | historicalDeclarationMismatch | interruptedPublication | faulted | reopenRequired
  | generationExhausted
  | model (error : ModelError)
  | active (error : ActiveJournalError)
  | io (operation : ManifestIoOperation) (kind : IoErrorKind)
  deriving DecidableEq

/-- Addition that refuses to leave the 64-bit range. -/
def checkedAdd (a : U64) (n : Nat) : Option U64 :=
  if h : a.val + n < 2 ^ 64 then some ⟨a.val + n, h⟩ else none

theorem checkedAdd_eq_some {a b : U64} {n : Nat} :
    checkedAdd a n = some b ↔ a.val + n = b.val := by
  unfold checkedAdd
  split
  next h => simp [Fin.ext_iff]
  next h =>
    simp only [reduceCtorEq, false_iff]
    omega

inductive StoreWriteState where
  | writable | reopenRequired | faulted
  deriving DecidableEq, Repr

end Historian
