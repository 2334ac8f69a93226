import Historian.Sha256Stream
import Historian.Bounded

namespace Historian

open Wire Checks

def maxV2InventoryEntries : Nat := 156
def maxArtifactBytes : Nat := 637993128
def digestBytes : Nat := 32

def hexDigit (n : Nat) : Char := if n < 10 then Char.ofNat (48 + n) else Char.ofNat (87 + n)

def hex (digest : Bytes) : Text :=
  digest.flatMap fun byte => [hexDigit (byte.toNat / 16), hexDigit (byte.toNat % 16)]

/-- The value of an ASCII hexadecimal digit of either case. -/
def hexValue (byte : UInt8) : Option Nat :=
  if 0x30 ≤ byte ∧ byte ≤ 0x39 then some (byte.toNat - 0x30)
  else if 0x41 ≤ byte ∧ byte ≤ 0x46 then some (byte.toNat - 0x37)
  else if 0x61 ≤ byte ∧ byte ≤ 0x66 then some (byte.toNat - 0x57)
  else none

/-- Two digits make a byte. -/
def parsePairs : Bytes → Bytes
  | high :: low :: rest =>
    UInt8.ofNat ((hexValue high).getD 0 * 16 + (hexValue low).getD 0) :: parsePairs rest
  | _ => []

def parseHex (value : Text) : Except EvidenceError Bytes := do
  let bytes := utf8Encode value
  refuse (bytes.length ≠ digestBytes * 2 ∨ ¬bytes.all fun byte => (hexValue byte).isSome)
    .invalidHarness
  pure (parsePairs bytes)

structure ArtifactFingerprint where
  name : Text
  kind : Text
  logicalLength : U64
  sha256 : Text
  deriving DecidableEq

structure InventoryFingerprint where
  aggregateSha256 : Text
  artifacts : List ArtifactFingerprint
  deriving DecidableEq

/-- Strings are compared by their bytes. -/
def nameOrder (left right : ArtifactFingerprint) : Prop :=
  utf8Encode left.name ≤ utf8Encode right.name

instance : DecidableRel nameOrder := fun left right =>
  inferInstanceAs (Decidable (utf8Encode left.name ≤ utf8Encode right.name))

/-- The checks of every artifact, behind the names that have been inserted. -/
def checkArtifacts : List Text → List ArtifactFingerprint → Except EvidenceError Unit
  | _, [] => pure ()
  | names, artifact :: rest => do
    refuse ('/' ∈ artifact.name ∨ '\\' ∈ artifact.name ∨ artifact.name = ['.'] ∨
      artifact.name = ['.', '.'] ∨ artifact.kind ≠ ['F', 'I', 'L', 'E'] ∨
      maxArtifactBytes < artifact.logicalLength.val ∨ artifact.name ∈ names) .unsafeInventory
    checkArtifacts (artifact.name :: names) rest

def hashArtifact (hash : Sha256) (artifact : ArtifactFingerprint) :
    Except EvidenceError Sha256 := do
  refuse (2 ^ 16 ≤ artifact.name.len) .bounds
  let hash ← hash.update (toBE 2 artifact.name.len)
  let hash ← hash.update (utf8Encode artifact.name)
  let hash ← hash.update [1]
  let hash ← hash.update (toBE 8 artifact.logicalLength)
  let digest ← parseHex artifact.sha256
  hash.update digest

def finishFingerprint (artifacts : List ArtifactFingerprint) :
    Except EvidenceError InventoryFingerprint := do
  refuse (maxV2InventoryEntries < artifacts.length) .bounds
  checkArtifacts [] artifacts
  let artifacts := artifacts.insertionSort nameOrder
  let hash ← artifacts.foldlM hashArtifact Sha256.new
  let digest ← hash.finish
  pure ⟨hex digest, artifacts⟩

end Historian
