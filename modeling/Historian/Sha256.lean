import Historian.Slice
import Historian.BlockStream
import Historian.StoreError

namespace Historian

open Wire Checks

inductive EvidenceError where
  | invalidFixture | invalidHarness | unsafeInventory | replan | bounds | io
  deriving DecidableEq, Repr

abbrev Word := BitVec 32

def blockBytes : Nat := 64

def sha256Initial : List Word := [
  0x6a09e667, 0xbb67ae85, 0x3c6ef372, 0xa54ff53a, 0x510e527f, 0x9b05688c, 0x1f83d9ab, 0x5be0cd19]

def sha256Round : List Word := [
  0x428a2f98, 0x71374491, 0xb5c0fbcf, 0xe9b5dba5, 0x3956c25b, 0x59f111f1, 0x923f82a4, 0xab1c5ed5,
  0xd807aa98, 0x12835b01, 0x243185be, 0x550c7dc3, 0x72be5d74, 0x80deb1fe, 0x9bdc06a7, 0xc19bf174,
  0xe49b69c1, 0xefbe4786, 0x0fc19dc6, 0x240ca1cc, 0x2de92c6f, 0x4a7484aa, 0x5cb0a9dc, 0x76f988da,
  0x983e5152, 0xa831c66d, 0xb00327c8, 0xbf597fc7, 0xc6e00bf3, 0xd5a79147, 0x06ca6351, 0x14292967,
  0x27b70a85, 0x2e1b2138, 0x4d2c6dfc, 0x53380d13, 0x650a7354, 0x766a0abb, 0x81c2c92e, 0x92722c85,
  0xa2bfe8a1, 0xa81a664b, 0xc24b8b70, 0xc76c51a3, 0xd192e819, 0xd6990624, 0xf40e3585, 0x106aa070,
  0x19a4c116, 0x1e376c08, 0x2748774c, 0x34b0bcb5, 0x391c0cb3, 0x4ed8aa4a, 0x5b9cca4f, 0x682e6ff3,
  0x748f82ee, 0x78a5636f, 0x84c87814, 0x8cc70208, 0x90befffa, 0xa4506ceb, 0xbef9a3f7, 0xc67178f2]

/-- The message block as sixteen words, extended to one word for each round. -/
def scheduleStep (words : List Word) (index : Nat) : List Word :=
  let word (back : Nat) : Word := words.getD (index - back) 0
  let s0 := (word 15).rotateRight 7 ^^^ (word 15).rotateRight 18 ^^^ (word 15 >>> 3)
  let s1 := (word 2).rotateRight 17 ^^^ (word 2).rotateRight 19 ^^^ (word 2 >>> 10)
  words.set index (word 16 + s0 + word 7 + s1)

def wordOf (bytes : Bytes) : Word := BitVec.ofNat 32 (ofBE bytes)

def schedule (block : Bytes) : List Word :=
  let words := (Blocks.whole 4 block).map wordOf ++ List.replicate 48 0
  (List.range' 16 48).foldl scheduleStep words

def compressRound (working : List Word) (next : Word × Word) : List Word :=
  let get (index : Nat) : Word := working.getD index 0
  let choose := (get 4 &&& get 5) ^^^ (~~~get 4 &&& get 6)
  let majority := (get 0 &&& get 1) ^^^ (get 0 &&& get 2) ^^^ (get 1 &&& get 2)
  let upper := (get 4).rotateRight 6 ^^^ (get 4).rotateRight 11 ^^^ (get 4).rotateRight 25
  let lower := (get 0).rotateRight 2 ^^^ (get 0).rotateRight 13 ^^^ (get 0).rotateRight 22
  let first := get 7 + upper + choose + next.1 + next.2
  let second := lower + majority
  let working := working.take 1 ++ working.take 7
  let working := working.set 4 (working.getD 4 0 + first)
  working.set 0 (first + second)

def compress (state : List Word) (block : Bytes) : List Word :=
  let working := (sha256Round.zip (schedule block)).foldl compressRound state
  state.zipWith (· + ·) working

/-- Bytes written over a block from an offset on. -/
def copyFrom (block : Bytes) (offset : Nat) (bytes : Bytes) : Bytes :=
  block.take offset ++ (bytes ++ block.drop (offset + bytes.length))

/-- The streaming state over any way to compress a block into it. -/
structure BlockHasher (σ : Type) where
  state : σ
  block : Bytes
  filled : Nat
  length : U64
  deriving DecidableEq

namespace BlockHasher

variable {σ : Type} (compress : σ → Bytes → σ)

def new (initial : σ) : BlockHasher σ := ⟨initial, zeros blockBytes, 0, 0⟩

/-- The block that is pending takes what it has room for, and the bytes behind are left. -/
def fillPending (hasher : BlockHasher σ) (bytes : Bytes) : BlockHasher σ × Bytes :=
  if hasher.filled = 0 then (hasher, bytes)
  else
    let take := min (blockBytes - hasher.filled) bytes.length
    let block := copyFrom hasher.block hasher.filled (bytes.take take)
    let filled := hasher.filled + take
    (if filled = blockBytes then
        { hasher with state := compress hasher.state block, block := block, filled := 0 }
      else { hasher with block := block, filled := filled },
      bytes.drop take)

def update (hasher : BlockHasher σ) (bytes : Bytes) : Except EvidenceError (BlockHasher σ) :=
  match checkedAdd hasher.length bytes.length with
  | none => .error .bounds
  | some length =>
    let (hasher, bytes) := fillPending compress { hasher with length := length } bytes
    let remainder := Blocks.rest blockBytes bytes
    -- the remainder replaces what was pending, also when the block was not complete
    .ok { hasher with
      state := (Blocks.whole blockBytes bytes).foldl compress hasher.state
      block := copyFrom hasher.block 0 remainder
      filled := remainder.length }

def finish (hasher : BlockHasher σ) : Except EvidenceError σ := do
  refuse (2 ^ 64 ≤ hasher.length.val * 8) .bounds
  let block := hasher.block.set hasher.filled 0x80
  let filled := hasher.filled + 1
  let (state, block) :=
    if 56 < filled then
      (compress hasher.state (block.take filled ++ zeros (blockBytes - filled)), zeros blockBytes)
    else (hasher.state, block.take filled ++ (zeros (56 - filled) ++ block.drop 56))
  pure (compress state (block.take 56 ++ toBE 8 (hasher.length.val * 8)))

end BlockHasher

abbrev Sha256 := BlockHasher (List Word)

namespace Sha256

def new : Sha256 := BlockHasher.new sha256Initial

def update (hasher : Sha256) (bytes : Bytes) : Except EvidenceError Sha256 :=
  BlockHasher.update compress hasher bytes

def finish (hasher : Sha256) : Except EvidenceError Bytes := do
  let state ← BlockHasher.finish compress hasher
  pure (state.flatMap fun word => toBE 4 word.toNat)

end Sha256

def digest (bytes : Bytes) : Except EvidenceError Bytes := do
  let hash ← Sha256.new.update bytes
  hash.finish

/-- The digest of a message that arrives in chunks. -/
def chunkedDigest (chunks : List Bytes) : Except EvidenceError Bytes := do
  let hash ← chunks.foldlM Sha256.update Sha256.new
  hash.finish

end Historian
