import Historian.StoreRotation

namespace Historian

open Wire Checks Files

/-- The checksum of the evidence tool. -/
structure EvidenceCrc32c where
  register : BitVec 32
  deriving DecidableEq

namespace EvidenceCrc32c

def new : EvidenceCrc32c := ⟨0xffffffff#32⟩

def update (checksum : EvidenceCrc32c) (bytes : Bytes) : EvidenceCrc32c :=
  ⟨bytes.foldl crcByte checksum.register⟩

def finish (checksum : EvidenceCrc32c) : U32 := (~~~ checksum.register).toFin

theorem update_chunks (chunks : List Bytes) (checksum : EvidenceCrc32c) :
    chunks.foldl update checksum = checksum.update chunks.flatten := by
  induction chunks generalizing checksum with
  | nil => rfl
  | cons chunk rest ih =>
    rw [List.foldl_cons, ih, List.flatten_cons, update, update, update, List.foldl_append]

end EvidenceCrc32c

theorem update_chunks (chunks : List Bytes) (checksum : StreamingCrc32c) :
    chunks.foldl StreamingCrc32c.update checksum = checksum.update chunks.flatten := by
  induction chunks generalizing checksum with
  | nil => rfl
  | cons chunk rest ih =>
    rw [List.foldl_cons, ih, List.flatten_cons, StreamingCrc32c.update_append]

def checksumBufferBytes : Nat := 64 * 1024

/-- The loop of `checksum_file_bounded` over what is left of the file. -/
def checksumLoop : Nat → Nat → Bytes → StreamingCrc32c →
    Except ManifestStoreError StreamingCrc32c
  | 0, _, _, checksum => .ok checksum
  | fuel + 1, remaining, rest, checksum =>
    if remaining = 0 then .ok checksum
    else do
      let count := min remaining checksumBufferBytes
      refuse (rest.length < count) (.io .read .unexpectedEof)
      checksumLoop fuel (remaining - count) (rest.drop count) (checksum.update (rest.take count))

/-- `checksum_file_bounded` with its loop. -/
def checksumFileBuffered (d : StoreDirectory) (name : Artifact) (expectedLength : U64) :
    Except ManifestStoreError U32 := do
  refuse (expectedLength = 0 ∨ maxActiveJournalBytes < expectedLength.val) .invalidGeneration
  match d.lookup name with
  | none => .error (.io .read .notFound)
  | some file => do
    refuse (file.length ≠ expectedLength.val) .invalidGeneration
    let checksum ← checksumLoop expectedLength.val expectedLength.val file .new
    pure checksum.finish

/-- The loop of `publish_sealed_generation`: the staging file and the checksum of what it holds. -/
def copyLoop : Nat → Nat → Bytes → Bytes → StreamingCrc32c →
    Except ManifestStoreError (Bytes × StreamingCrc32c)
  | 0, _, _, staging, checksum => .ok (staging, checksum)
  | fuel + 1, remaining, source, staging, checksum =>
    if remaining = 0 then .ok (staging, checksum)
    else do
      let count := min remaining checksumBufferBytes
      refuse (source.length < count) (.io .read .unexpectedEof)
      copyLoop fuel (remaining - count) (source.drop count) (staging ++ source.take count)
        (checksum.update (source.take count))

/-- The copy of a source of a given length into an empty staging file. -/
def copySealed (source : Bytes) (endOffset : U64) : Except ManifestStoreError (Bytes × U32) := do
  let (staging, checksum) ← copyLoop endOffset.val endOffset.val source [] .new
  pure (staging, checksum.finish)

theorem take_take_drop (bytes : Bytes) {count remaining : Nat} (h : count ≤ remaining) :
    bytes.take count ++ (bytes.drop count).take (remaining - count) = bytes.take remaining := by
  rw [← List.take_add, Nat.add_sub_cancel' h]

/-- The copy takes what the loop reads, whatever the buffers that it arrives in. -/
theorem copyLoop_ok {fuel remaining : Nat} {source staging : Bytes} {checksum : StreamingCrc32c}
    (hfuel : remaining ≤ fuel) (hlength : remaining ≤ source.length) :
    copyLoop fuel remaining source staging checksum =
      .ok (staging ++ source.take remaining, checksum.update (source.take remaining)) := by
  induction fuel generalizing remaining source staging checksum with
  | zero =>
    have hzero : remaining = 0 := by omega
    subst hzero
    rw [List.take_zero, List.append_nil]
    rfl
  | succ fuel ih =>
    unfold copyLoop
    by_cases hzero : remaining = 0
    · subst hzero
      rw [if_pos rfl, List.take_zero, List.append_nil]
      rfl
    · have hbuffer : checksumBufferBytes = 65536 := rfl
      have hcount : min remaining checksumBufferBytes ≤ remaining := Nat.min_le_left _ _
      have hpositive : 0 < min remaining checksumBufferBytes := by omega
      have hrest : remaining - min remaining checksumBufferBytes ≤
          (source.drop (min remaining checksumBufferBytes)).length := by
        rw [List.length_drop]
        omega
      have hsplit := take_take_drop source hcount
      have hloop := @ih (remaining - min remaining checksumBufferBytes)
        (source.drop (min remaining checksumBufferBytes))
        (staging ++ source.take (min remaining checksumBufferBytes))
        (checksum.update (source.take (min remaining checksumBufferBytes))) (by omega) hrest
      rw [if_neg hzero]
      dsimp only
      rw [refuse, if_neg (by omega)]
      refine hloop.trans ?_
      rw [List.append_assoc, StreamingCrc32c.update_append, hsplit]

/-- The loop that only reads keeps the checksum of the loop that copies. -/
theorem checksumLoop_eq (fuel remaining : Nat) (source staging : Bytes)
    (checksum : StreamingCrc32c) : checksumLoop fuel remaining source checksum =
      (copyLoop fuel remaining source staging checksum).map Prod.snd := by
  induction fuel generalizing remaining source staging checksum with
  | zero => rfl
  | succ fuel ih =>
    unfold checksumLoop copyLoop
    by_cases hzero : remaining = 0
    · rw [if_pos hzero, if_pos hzero]
      rfl
    · rw [if_neg hzero, if_neg hzero]
      by_cases hshort : source.length < min remaining checksumBufferBytes
      · simp only [refuse, if_pos hshort]
        rfl
      · simp only [refuse, if_neg hshort]
        exact ih _ _ _ _

theorem checksumLoop_ok {fuel remaining : Nat} {source : Bytes} {checksum : StreamingCrc32c}
    (hfuel : remaining ≤ fuel) (hlength : remaining ≤ source.length) :
    checksumLoop fuel remaining source checksum =
      .ok (checksum.update (source.take remaining)) := by
  rw [checksumLoop_eq fuel remaining source [] checksum, copyLoop_ok hfuel hlength]
  rfl

theorem checksumFileBuffered_eq (d : StoreDirectory) (name : Artifact) (expectedLength : U64) :
    checksumFileBuffered d name expectedLength = checksumFileBounded d name expectedLength := by
  unfold checksumFileBuffered checksumFileBounded
  cases d.lookup name with
  | none => rfl
  | some file =>
    by_cases hlength : file.length = expectedLength.val
    · have hloop := @checksumLoop_ok expectedLength.val expectedLength.val file .new (Nat.le_refl _)
        (Nat.le_of_eq hlength.symm)
      rw [List.take_of_length_le (Nat.le_of_eq hlength)] at hloop
      dsimp only
      rw [hloop]
      rfl
    · have hrefused : refuse (file.length ≠ expectedLength.val)
          ManifestStoreError.invalidGeneration = .error .invalidGeneration :=
        refuse_error.mpr ⟨hlength, rfl⟩
      dsimp only
      rw [hrefused]
      rfl

theorem checksumFileBounded_ok {d : StoreDirectory} {name : Artifact} {expectedLength : U64}
    {checksum : U32} : checksumFileBounded d name expectedLength = .ok checksum ↔
      0 < expectedLength.val ∧ expectedLength.val ≤ maxActiveJournalBytes ∧
        ∃ file, d.lookup name = some file ∧ file.length = expectedLength.val ∧
          checksum = crc32c file := by
  have hpositive : ¬expectedLength = 0 ↔ 0 < expectedLength.val := by
    rw [Fin.ext_iff]
    exact Nat.pos_iff_ne_zero.symm
  unfold checksumFileBounded
  rw [then_ok, refuse_ok, not_or, hpositive, Nat.not_lt, and_assoc]
  cases d.lookup name with
  | none => simp
  | some file =>
    simp only [then_ok, refuse_ok, not_not, pure_ok, Option.some.injEq, exists_eq_left']
    constructor
    · intro h
      obtain ⟨hzero, hmax, hlength, hsum⟩ := h
      exact ⟨hzero, hmax, hlength, hsum.symm⟩
    · intro h
      obtain ⟨hzero, hmax, hlength, hsum⟩ := h
      exact ⟨hzero, hmax, hlength, hsum.symm⟩

/-- However a byte string is cut into chunks, both incremental checksums give that of the whole;
and so do the loops that read a file through a buffer. -/
theorem streaming_checksum :
    (∀ chunks : List Bytes, (chunks.foldl StreamingCrc32c.update .new).finish =
      crc32c chunks.flatten) ∧
    (∀ chunks : List Bytes, (chunks.foldl EvidenceCrc32c.update .new).finish =
      crc32c chunks.flatten) ∧
    (∀ (d : StoreDirectory) name expectedLength checksum,
      checksumFileBuffered d name expectedLength = .ok checksum ↔
        0 < expectedLength.val ∧ expectedLength.val ≤ maxActiveJournalBytes ∧
          ∃ file, d.lookup name = some file ∧ file.length = expectedLength.val ∧
            checksum = crc32c file) ∧
    (∀ (source : Bytes) (endOffset : U64), source.length = endOffset.val →
      copySealed source endOffset = .ok (source, crc32c source)) := by
  refine ⟨?_, ?_, ?_, ?_⟩
  · intro chunks
    rw [update_chunks]
    rfl
  · intro chunks
    rw [EvidenceCrc32c.update_chunks]
    rfl
  · intro d name expectedLength checksum
    rw [checksumFileBuffered_eq]
    exact checksumFileBounded_ok
  · intro source endOffset hlength
    have hloop := @copyLoop_ok endOffset.val endOffset.val source [] .new (Nat.le_refl _)
      (Nat.le_of_eq hlength.symm)
    rw [List.take_of_length_le (Nat.le_of_eq hlength), List.nil_append] at hloop
    unfold copySealed
    rw [hloop]
    rfl

end Historian
