import Historian.Sha256Standard

namespace Historian

open Wire Checks

theorem length_copyFrom {block bytes : Bytes} {offset : Nat}
    (h : offset + bytes.length ≤ block.length) :
    (copyFrom block offset bytes).length = block.length := by
  rw [copyFrom, List.length_append, List.length_append, List.length_take, List.length_drop]
  omega

theorem take_copyFrom {block bytes : Bytes} {offset : Nat} (h : offset ≤ block.length) :
    (copyFrom block offset bytes).take (offset + bytes.length) = block.take offset ++ bytes := by
  have htake : (block.take offset).length = offset := by
    rw [List.length_take]
    omega
  rw [copyFrom, ← List.append_assoc, List.take_left' (by rw [List.length_append, htake])]

/-- What is kept of the message behind one more chunk: a chunk that does not complete the pending
block is lost together with what was pending. -/
def retain (message chunk : Bytes) : Bytes :=
  if message.length % blockBytes = 0 ∨ blockBytes - message.length % blockBytes ≤ chunk.length then
    message ++ chunk
  else Blocks.front blockBytes message

/-- No chunk is too short for the block that is pending when it arrives. -/
def CompletesBlocks : Nat → List Bytes → Prop
  | _, [] => True
  | length, chunk :: rest =>
    (length % blockBytes = 0 ∨ blockBytes - length % blockBytes ≤ chunk.length) ∧
      CompletesBlocks (length + chunk.length) rest

/-- The padding behind `kept` bytes for a length of `total` bytes. -/
def streamPadding (kept total : Nat) : Bytes :=
  (0x80 :: zeros (Fips.paddingZeros kept)) ++ toBE 8 (total * 8)

theorem blockBytes_pos : 0 < blockBytes := by decide

theorem length_rest_lt (bytes : Bytes) : (Blocks.rest blockBytes bytes).length < blockBytes := by
  rw [Blocks.length_rest]
  exact Nat.mod_lt _ blockBytes_pos

namespace BlockHasher

variable {σ : Type} {compress : σ → Bytes → σ} {initial : σ} {hasher : BlockHasher σ}
  {message chunk : Bytes} {total : Nat}

/-- A hasher that has kept `message` out of `total` bytes. -/
structure Keeps (compress : σ → Bytes → σ) (initial : σ) (hasher : BlockHasher σ)
    (message : Bytes) (total : Nat) : Prop where
  state : hasher.state = Blocks.absorb blockBytes compress initial message
  block : hasher.block.length = blockBytes
  filled : hasher.filled = message.length % blockBytes
  pending : hasher.block.take hasher.filled = Blocks.rest blockBytes message
  length : hasher.length.val = total

theorem keeps_new : (new initial).Keeps compress initial [] 0 where
  state := rfl
  block := rfl
  filled := rfl
  pending := rfl
  length := rfl

/-- The pending block and the bytes behind it stand for what is kept. -/
structure Fills (compress : σ → Bytes → σ) (initial : σ) (hasher : BlockHasher σ)
    (behind message : Bytes) : Prop where
  block : hasher.block.length = blockBytes
  absorbed : Blocks.absorb blockBytes compress hasher.state behind =
    Blocks.absorb blockBytes compress initial message
  rest : Blocks.rest blockBytes behind = Blocks.rest blockBytes message

theorem Keeps.fillPending (h : hasher.Keeps compress initial message total) (chunk : Bytes) :
    (hasher.fillPending compress chunk).1.Fills compress initial
        (hasher.fillPending compress chunk).2 (retain message chunk) ∧
      (hasher.fillPending compress chunk).1.length = hasher.length := by
  have hlt := Nat.mod_lt message.length blockBytes_pos
  have hfilled := h.filled
  have hblock := h.block
  by_cases hzero : hasher.filled = 0
  · -- nothing is pending
    have haligned : message.length % blockBytes = 0 := hfilled.symm.trans hzero
    unfold BlockHasher.fillPending
    rw [if_pos hzero, retain, if_pos (.inl haligned)]
    refine ⟨⟨hblock, ?_, ?_⟩, rfl⟩
    · rw [h.state, Blocks.absorb_append blockBytes_pos haligned]
    · rw [Blocks.rest_append haligned]
  · by_cases hcomplete : blockBytes - message.length % blockBytes ≤ chunk.length
    · -- the chunk completes the pending block
      have htake : min (blockBytes - hasher.filled) chunk.length = blockBytes - hasher.filled := by
        omega
      have hend : hasher.filled + (blockBytes - hasher.filled) = blockBytes := by omega
      have hfilling : (chunk.take (blockBytes - hasher.filled)).length =
          blockBytes - hasher.filled := by
        rw [List.length_take]
        omega
      have hsize : (Blocks.rest blockBytes message ++
          chunk.take (blockBytes - hasher.filled)).length = blockBytes := by
        rw [List.length_append, hfilling, Blocks.length_rest]
        omega
      have hfull : copyFrom hasher.block hasher.filled (chunk.take (blockBytes - hasher.filled)) =
          Blocks.rest blockBytes message ++ chunk.take (blockBytes - hasher.filled) := by
        have hcopied : (copyFrom hasher.block hasher.filled
            (chunk.take (blockBytes - hasher.filled))).length = blockBytes := by
          rw [length_copyFrom (by omega), hblock]
        have hfront : hasher.filled ≤ hasher.block.length := by omega
        have hpending := @take_copyFrom hasher.block
          (chunk.take (blockBytes - hasher.filled)) hasher.filled hfront
        rw [hfilling, hend, h.pending] at hpending
        rw [← hpending, List.take_of_length_le (Nat.le_of_eq hcopied)]
      have hsplit := List.take_append_drop (blockBytes - hasher.filled) chunk
      obtain ⟨habsorb, hrest⟩ := @Blocks.absorb_complete _ _ _ compress blockBytes_pos message
        (chunk.take (blockBytes - hasher.filled)) (chunk.drop (blockBytes - hasher.filled)) hsize
        initial
      rw [hsplit] at habsorb hrest
      unfold BlockHasher.fillPending
      dsimp only
      rw [if_neg hzero, htake, hend, if_pos rfl, hfull, retain, if_pos (.inr hcomplete)]
      refine ⟨⟨hsize, ?_, hrest.symm⟩, rfl⟩
      rw [habsorb, h.state]
    · -- the chunk and the pending bytes are lost
      have htake : min (blockBytes - hasher.filled) chunk.length = chunk.length := by omega
      have hshort : hasher.filled + chunk.length ≠ blockBytes := by omega
      have hneither : ¬(message.length % blockBytes = 0 ∨
          blockBytes - message.length % blockBytes ≤ chunk.length) := by omega
      unfold BlockHasher.fillPending
      dsimp only
      rw [if_neg hzero, htake, List.take_length, if_neg hshort, List.drop_length, retain,
        if_neg hneither]
      refine ⟨⟨?_, ?_, ?_⟩, rfl⟩
      · dsimp only
        rw [length_copyFrom (by omega), hblock]
      · rw [Blocks.absorb_front blockBytes_pos, ← h.state, Blocks.absorb_nil]
      · rw [Blocks.rest_aligned (Blocks.front_aligned message), Blocks.rest_nil]

theorem Keeps.update (h : hasher.Keeps compress initial message total)
    (htotal : total + chunk.length < 2 ^ 64) : ∃ next,
      hasher.update compress chunk = .ok next ∧
        next.Keeps compress initial (retain message chunk) (total + chunk.length) := by
  have hsum : hasher.length.val + chunk.length < 2 ^ 64 := by
    rw [h.length]
    exact htotal
  have hadd : checkedAdd hasher.length chunk.length =
      some ⟨hasher.length.val + chunk.length, hsum⟩ := checkedAdd_eq_some.mpr rfl
  have hcounted : { hasher with length := ⟨hasher.length.val + chunk.length, hsum⟩ }.Keeps compress
      initial message (total + chunk.length) :=
    ⟨h.state, h.block, h.filled, h.pending, congrArg (· + chunk.length) h.length⟩
  obtain ⟨hfills, hlength⟩ := hcounted.fillPending chunk
  unfold BlockHasher.update
  rw [hadd]
  dsimp only
  cases hfill : BlockHasher.fillPending compress
    { hasher with length := ⟨hasher.length.val + chunk.length, hsum⟩ } chunk with
  | mk after behind =>
    rw [hfill] at hfills hlength
    dsimp only at hfills hlength ⊢
    have hblock := hfills.block
    have hrest := length_rest_lt behind
    refine ⟨_, rfl, hfills.absorbed, ?_, ?_, ?_, ?_⟩
    · dsimp only
      rw [length_copyFrom (by omega), hblock]
    · dsimp only
      rw [hfills.rest, Blocks.length_rest]
    · have htake := @take_copyFrom after.block (Blocks.rest blockBytes behind) 0 (Nat.zero_le _)
      rw [Nat.zero_add, List.take_zero, List.nil_append] at htake
      exact htake.trans hfills.rest
    · dsimp only
      rw [hlength]
      exact hcounted.length

theorem Keeps.finish (h : hasher.Keeps compress initial message total)
    (htotal : total * 8 < 2 ^ 64) : hasher.finish compress =
      .ok (Blocks.absorb blockBytes compress initial
        (message ++ streamPadding message.length total)) := by
  have hlt : message.length % 64 < 64 := Nat.mod_lt _ (by omega)
  have hfilled : hasher.filled = message.length % 64 := h.filled
  have hblock : hasher.block.length = 64 := h.block
  have hrest : (Blocks.rest blockBytes message).length = message.length % 64 :=
    Blocks.length_rest message
  have hmarked : (hasher.block.set hasher.filled 0x80).take (hasher.filled + 1) =
      Blocks.rest blockBytes message ++ [0x80] := by
    rw [List.take_succ_eq_append_getElem (by rw [List.length_set]; omega), List.getElem_set_self,
      List.take_set_of_le (Nat.le_refl _), h.pending]
  have hmessage (tail : Bytes) : Blocks.absorb blockBytes compress initial (message ++ tail) =
      Blocks.absorb blockBytes compress hasher.state (Blocks.rest blockBytes message ++ tail) := by
    have hsplit := Blocks.front_append_rest (n := blockBytes) message
    conv_lhs => rw [← hsplit, List.append_assoc]
    rw [Blocks.absorb_append blockBytes_pos (Blocks.front_aligned message),
      Blocks.absorb_front blockBytes_pos, ← h.state]
  have hnot : ¬2 ^ 64 ≤ hasher.length.val * 8 := by
    rw [h.length]
    omega
  unfold BlockHasher.finish refuse
  rw [if_neg hnot, hmessage, streamPadding, h.length]
  by_cases hfit : hasher.filled + 1 ≤ 56
  · -- the marker and the length fit into the pending block
    have hzeros : Fips.paddingZeros message.length = 56 - (hasher.filled + 1) := by
      unfold Fips.paddingZeros
      omega
    have hlast : (Blocks.rest blockBytes message ++ [0x80] ++
        (zeros (56 - (hasher.filled + 1)) ++
          (hasher.block.set hasher.filled 0x80).drop 56)).take 56 =
        Blocks.rest blockBytes message ++ [0x80] ++ zeros (56 - (hasher.filled + 1)) := by
      rw [← List.append_assoc]
      apply List.take_left'
      simp only [List.length_append, hrest, List.length_singleton, zeros, List.length_replicate]
      omega
    have hsize : (Blocks.rest blockBytes message ++
        (0x80 :: zeros (56 - (hasher.filled + 1)) ++ toBE 8 (total * 8))).length = 64 := by
      simp only [List.length_append, hrest, List.length_cons, zeros, List.length_replicate,
        length_toBE]
      omega
    rw [hzeros, Blocks.absorb_block blockBytes_pos hsize]
    dsimp only
    rw [if_neg (by omega), hmarked]
    dsimp only
    rw [hlast]
    simp only [List.append_assoc, List.cons_append, List.nil_append]
    rfl
  · -- the marker ends the pending block, and the length has a block of its own
    have hzeros : Fips.paddingZeros message.length = (64 - (hasher.filled + 1)) + 56 := by
      unfold Fips.paddingZeros
      omega
    have hfirst : (Blocks.rest blockBytes message ++
        (0x80 :: zeros (64 - (hasher.filled + 1)))).length = 64 := by
      simp only [List.length_append, hrest, List.length_cons, zeros, List.length_replicate]
      omega
    have hsecond : (zeros 56 ++ toBE 8 (total * 8)).length = blockBytes := by
      rw [List.length_append, length_toBE]
      rfl
    have hsplit : Blocks.rest blockBytes message ++
        (0x80 :: zeros ((64 - (hasher.filled + 1)) + 56) ++ toBE 8 (total * 8)) =
        (Blocks.rest blockBytes message ++ (0x80 :: zeros (64 - (hasher.filled + 1)))) ++
          (zeros 56 ++ toBE 8 (total * 8)) := by
      rw [zeros, ← List.replicate_append_replicate]
      simp only [zeros, List.append_assoc, List.cons_append]
    have haligned : (Blocks.rest blockBytes message ++
        (0x80 :: zeros (64 - (hasher.filled + 1)))).length % blockBytes = 0 := by
      rw [hfirst]
      rfl
    rw [hzeros, hsplit, Blocks.absorb_append blockBytes_pos haligned,
      Blocks.absorb_block blockBytes_pos hfirst, Blocks.absorb_block blockBytes_pos hsecond]
    dsimp only
    rw [if_pos (by omega), hmarked]
    simp only [List.append_assoc, List.cons_append, List.nil_append]
    rfl

/-- The state that a message in chunks is hashed to. -/
def stream (compress : σ → Bytes → σ) (initial : σ) (chunks : List Bytes) :
    Except EvidenceError σ := do
  let hasher ← chunks.foldlM (update compress) (new initial)
  hasher.finish compress

theorem Keeps.updates {chunks : List Bytes} (h : hasher.Keeps compress initial message total)
    (htotal : total + chunks.flatten.length < 2 ^ 64) : ∃ after,
      chunks.foldlM (BlockHasher.update compress) hasher = .ok after ∧
        after.Keeps compress initial (chunks.foldl retain message)
          (total + chunks.flatten.length) := by
  induction chunks generalizing hasher message total with
  | nil => exact ⟨hasher, rfl, h⟩
  | cons chunk rest ih =>
    rw [List.flatten_cons, List.length_append, ← Nat.add_assoc] at htotal
    obtain ⟨next, hupdate, hnext⟩ := h.update (show total + chunk.length < 2 ^ 64 by omega)
    obtain ⟨after, hrest, hafter⟩ := ih hnext htotal
    refine ⟨after, ?_, ?_⟩
    · rw [List.foldlM_cons, hupdate]
      exact hrest
    · rw [List.foldl_cons, List.flatten_cons, List.length_append, ← Nat.add_assoc]
      exact hafter

/-- A message in chunks is hashed as what is kept of it, under its whole length. -/
theorem stream_eq (compress : σ → Bytes → σ) (initial : σ) {chunks : List Bytes}
    (h : chunks.flatten.length < 2 ^ 61) : stream compress initial chunks =
      .ok (Blocks.absorb blockBytes compress initial (chunks.foldl retain [] ++
        streamPadding (chunks.foldl retain []).length chunks.flatten.length)) := by
  have hlength : 0 + chunks.flatten.length < 2 ^ 64 := by omega
  obtain ⟨hasher, hupdates, hkeeps⟩ :=
    (@keeps_new _ compress initial).updates hlength
  rw [Nat.zero_add] at hkeeps
  unfold stream
  rw [hupdates]
  exact hkeeps.finish (by omega)

end BlockHasher

theorem streamPadding_self (length : Nat) : streamPadding length length = Fips.padding length := rfl

/-- Padded messages end with a block. -/
theorem padded_aligned (message : Bytes) (total : Nat) :
    (message ++ streamPadding message.length total).length % blockBytes = 0 := by
  have hcomplete := Fips.paddingZeros_complete message.length
  simp only [streamPadding, List.length_append, List.length_cons, zeros, List.length_replicate,
    length_toBE]
  change _ % 64 = 0
  omega

/-- Equal blocks under one length come from equal messages. -/
theorem padded_inj {message other : Bytes} {total : Nat}
    (h : message ++ streamPadding message.length total =
      other ++ streamPadding other.length total) :
    message = other := by
  simp only [streamPadding, ← List.append_assoc] at h
  have hmarked := List.append_cancel_right h
  exact Blocks.marked_inj (by decide) hmarked

theorem length_retain_le (message chunk : Bytes) :
    (retain message chunk).length ≤ message.length + chunk.length := by
  unfold retain
  split
  next => rw [List.length_append]
  next =>
    have hle : message.length / blockBytes * blockBytes ≤ message.length :=
      Nat.div_mul_le_self ..
    rw [Blocks.length_front]
    omega

theorem length_retained_le (message : Bytes) (chunks : List Bytes) :
    (chunks.foldl retain message).length ≤ message.length + chunks.flatten.length := by
  induction chunks generalizing message with
  | nil => exact Nat.le_refl _
  | cons chunk rest ih =>
    have hrest := ih (retain message chunk)
    have hstep := length_retain_le message chunk
    rw [List.foldl_cons, List.flatten_cons, List.length_append]
    omega

/-- The whole message is kept exactly when no chunk falls short of a pending block. -/
theorem retained_iff (message : Bytes) (chunks : List Bytes) :
    chunks.foldl retain message = message ++ chunks.flatten ↔
      CompletesBlocks message.length chunks := by
  induction chunks generalizing message with
  | nil => simp [CompletesBlocks]
  | cons chunk rest ih =>
    rw [List.foldl_cons, List.flatten_cons, CompletesBlocks]
    by_cases hfits : message.length % blockBytes = 0 ∨
        blockBytes - message.length % blockBytes ≤ chunk.length
    · rw [retain, if_pos hfits, ← List.append_assoc, ih, List.length_append]
      exact (and_iff_right hfits).symm
    · constructor
      · intro h
        -- what is lost once is missing at the end
        have hlength := congrArg List.length h
        have hle := length_retained_le (Blocks.front blockBytes message) rest
        have hdiv := Nat.div_add_mod' message.length blockBytes
        rw [retain, if_neg hfits, List.length_append, List.length_append] at hlength
        rw [Blocks.length_front] at hle
        rw [not_or] at hfits
        omega
      · intro h
        exact absurd h.1 hfits

theorem ofWords_words (v : Fips.Variables) : Fips.Variables.ofWords v.words = v := rfl

/-- The blocks of a message go through the code's compression as through that of the standard. -/
theorem foldl_compress {blocks : List Bytes} (h : ∀ block ∈ blocks, block.length = 64)
    (hash : Fips.Variables) :
    blocks.foldl compress hash.words = (blocks.foldl Fips.hashBlock hash).words := by
  induction blocks generalizing hash with
  | nil => rfl
  | cons block rest ih =>
    obtain ⟨hblock, hrest⟩ := List.forall_mem_cons.mp h
    rw [List.foldl_cons, compress_eq hash hblock, ih hrest, List.foldl_cons]

theorem chunkedDigest_stream (chunks : List Bytes) : chunkedDigest chunks =
    (BlockHasher.stream compress sha256Initial chunks).map fun state =>
      state.flatMap fun word => toBE 4 word.toNat := by
  unfold chunkedDigest BlockHasher.stream Sha256.finish Sha256.update Sha256.new
  cases chunks.foldlM (BlockHasher.update compress) (BlockHasher.new sha256Initial) with
  | error error => rfl
  | ok hasher =>
    change (hasher.finish compress >>= _) = (hasher.finish compress).map _
    cases hasher.finish compress with
    | error error => rfl
    | ok state => rfl

/-- A message of which nothing is lost has the digest of the standard. -/
theorem chunkedDigest_kept {chunks : List Bytes} (hlength : chunks.flatten.length < 2 ^ 61)
    (hkept : chunks.foldl retain [] = chunks.flatten) :
    chunkedDigest chunks = .ok (Fips.sha256 chunks.flatten) := by
  have hinitial : sha256Initial = (Fips.Variables.ofWords Fips.initialHash).words := by
    rw [← sha256Initial_eq]
    rfl
  have hblocks : ∀ block ∈ Blocks.whole 64 (chunks.flatten ++ Fips.padding chunks.flatten.length),
      block.length = 64 := fun _ hblock => Blocks.length_of_mem_whole hblock
  rw [chunkedDigest_stream, BlockHasher.stream_eq compress sha256Initial hlength, hkept,
    streamPadding_self, Blocks.absorb, hinitial]
  unfold blockBytes
  rw [foldl_compress hblocks]
  rfl

/-- A message in one piece has the digest of the standard. -/
theorem digest_standard {message : Bytes} (h : message.length < 2 ^ 61) :
    digest message = .ok (Fips.sha256 message) := by
  have hone : chunkedDigest [message] = digest message := by
    unfold chunkedDigest digest
    rw [List.foldlM_cons]
    cases Sha256.new.update message with
    | error error => rfl
    | ok hash => rfl
  have hflatten : [message].flatten = message := by simp
  have hsingle : [message].foldl retain [] = [message].flatten := by
    rw [hflatten, List.foldl_cons, List.foldl_nil, retain, if_pos (.inl rfl), List.nil_append]
  have hkept := chunkedDigest_kept (by rw [hflatten]; exact h) hsingle
  rw [hone, hflatten] at hkept
  exact hkept

/-- The blocks that are compressed are those of the standard exactly when nothing is lost. -/
theorem recordedBlocks_iff {chunks : List Bytes} (h : chunks.flatten.length < 2 ^ 61) :
    BlockHasher.stream (fun blocks block => blocks ++ [block]) [] chunks =
        .ok (Blocks.whole 64 (chunks.flatten ++ Fips.padding chunks.flatten.length)) ↔
      CompletesBlocks 0 chunks := by
  have hretained := retained_iff [] chunks
  rw [List.nil_append, List.length_nil] at hretained
  rw [BlockHasher.stream_eq _ _ h, ← hretained, Blocks.absorb_snoc, Except.ok.injEq]
  constructor
  · intro hblocks
    have hflatten := congrArg List.flatten hblocks
    have haligned := padded_aligned chunks.flatten chunks.flatten.length
    rw [Blocks.flatten_whole (padded_aligned _ _)] at hflatten
    change _ = (Blocks.whole blockBytes (chunks.flatten ++
      streamPadding chunks.flatten.length chunks.flatten.length)).flatten at hflatten
    rw [Blocks.flatten_whole haligned] at hflatten
    exact padded_inj hflatten
  · intro hkept
    rw [hkept]
    rfl

/-- A message that arrives in chunks is cut into the blocks of the standard exactly when no chunk
falls short of a pending block. Then its digest is the one of the whole message, which is that of
the standard. -/
theorem chunked_digest_iff {chunks : List Bytes} (h : chunks.flatten.length < 2 ^ 61) :
    digest chunks.flatten = .ok (Fips.sha256 chunks.flatten) ∧
      (CompletesBlocks 0 chunks → chunkedDigest chunks = digest chunks.flatten) ∧
      (BlockHasher.stream (fun blocks block => blocks ++ [block]) [] chunks =
          .ok (Blocks.whole 64 (chunks.flatten ++ Fips.padding chunks.flatten.length)) ↔
        CompletesBlocks 0 chunks) := by
  have hretained := retained_iff [] chunks
  rw [List.nil_append, List.length_nil] at hretained
  have hdigest := digest_standard h
  refine ⟨hdigest, ?_, recordedBlocks_iff h⟩
  intro hcompletes
  rw [hdigest]
  exact chunkedDigest_kept h (hretained.mpr hcompletes)

/-- A chunk of two bytes behind one byte is lost with it. -/
theorem short_chunk_changes_digest : ¬∀ chunks : List Bytes, chunks.flatten.length < 2 ^ 61 →
    chunkedDigest chunks = digest chunks.flatten := by
  intro h
  have hrun : chunkedDigest [[0x61], [0x62, 0x63]] ≠ digest [0x61, 0x62, 0x63] := by
    decide +kernel
  exact hrun (h [[0x61], [0x62, 0x63]] (by decide))

/-- Two pending blocks are completed, the second one by a chunk that goes on behind it. -/
theorem chunked_digest_iff_sample :
    let chunks : List Bytes :=
      [[0x61], List.replicate 63 0x62, [0x63, 0x64], List.replicate 70 0x65]
    chunkedDigest chunks = digest chunks.flatten ∧
      BlockHasher.stream (fun blocks block => blocks ++ [block]) [] chunks =
        .ok (Blocks.whole 64 (chunks.flatten ++ Fips.padding chunks.flatten.length)) := by
  intro chunks
  have hcompletes : CompletesBlocks 0 chunks :=
    ⟨.inl rfl, .inr (by decide), .inl rfl, .inr (by decide), trivial⟩
  have hshort : chunks.flatten.length < 2 ^ 61 := by decide +kernel
  obtain ⟨-, hdigest, hblocks⟩ := chunked_digest_iff hshort
  exact ⟨hdigest hcompletes, hblocks.mpr hcompletes⟩

end Historian
