import Historian.JournalWire
import Historian.Identity

namespace Historian

def activeJournalGeneration : Nat := 1
def maxSealedGenerations : Nat := 64

structure JournalIdentity where
  storeId : StoreId
  generation : U64
  deriving DecidableEq

/-- The durable end of one journal generation. -/
structure DurableCutoff where
  journal : JournalIdentity
  checkpointGeneration : U64
  appendSequence : U64
  endOffset : U64
  deriving DecidableEq

structure RetryStateReference where
  slot : UInt8
  generation : U64
  deriving DecidableEq

structure GenerationCatalogReference where
  slot : UInt8
  generation : U64
  length : U64
  checksum : U32
  deriving DecidableEq

/-- What one manifest commits: a cutoff with the registry, retry state and catalog it names. -/
structure ManifestCommit where
  manifestGeneration : U64
  registryGeneration : U64
  registrySlot : UInt8
  durableCutoff : DurableCutoff
  retryState : RetryStateReference
  sequenceFloor : U64
  catalog : Option GenerationCatalogReference
  deriving DecidableEq

structure SealedGeneration where
  journalGeneration : U64
  sequenceFloor : U64
  sequenceCutoff : U64
  endOffset : U64
  registryGeneration : U64
  artifactLength : U64
  artifactChecksum : U32
  deriving DecidableEq

structure GenerationCatalogSnapshot where
  storeId : StoreId
  reference : Option GenerationCatalogReference
  entries : List SealedGeneration
  deriving DecidableEq

def GenerationCatalogSnapshot.empty (storeId : StoreId) : GenerationCatalogSnapshot :=
  ⟨storeId, none, []⟩

/-- Whether some sealed generation holds the frame with this sequence and end. -/
def GenerationCatalogSnapshot.coversCommit (catalog : GenerationCatalogSnapshot)
    (journalGeneration appendSequence endOffset : U64) : Bool :=
  catalog.entries.any fun entry =>
    entry.journalGeneration == journalGeneration && entry.sequenceFloor < appendSequence &&
      appendSequence ≤ entry.sequenceCutoff && journalV1HeaderLen < endOffset.val &&
      endOffset ≤ entry.endOffset

end Historian
