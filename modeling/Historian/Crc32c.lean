import Historian.Slice

namespace Wire

/-- One bit of the reflected Castagnoli division. -/
def crcBit (crc : BitVec 32) : BitVec 32 :=
  let mask := 0#32 - (crc &&& 1#32)
  (crc >>> 1) ^^^ (0x82f63b78#32 &&& mask)

def crcByte (crc : BitVec 32) (byte : UInt8) : BitVec 32 :=
  Nat.repeat crcBit 8 (crc ^^^ byte.toBitVec.setWidth 32)

def crc32c (bytes : Bytes) : Fin (2 ^ 32) :=
  (~~~ bytes.foldl crcByte 0xffffffff#32).toFin

example : crc32c [] = 0 := by decide

/-- The checksum of bytes that arrive in pieces. -/
structure StreamingCrc32c where
  state : BitVec 32
  deriving DecidableEq

namespace StreamingCrc32c

def new : StreamingCrc32c := ⟨0xffffffff#32⟩

def update (checksum : StreamingCrc32c) (bytes : Bytes) : StreamingCrc32c :=
  ⟨bytes.foldl crcByte checksum.state⟩

def finish (checksum : StreamingCrc32c) : Fin (2 ^ 32) := (~~~ checksum.state).toFin

theorem update_append (checksum : StreamingCrc32c) (a b : Bytes) :
    (checksum.update a).update b = checksum.update (a ++ b) := by
  simp only [update, List.foldl_append]

theorem finish_update (bytes : Bytes) : (new.update bytes).finish = crc32c bytes := rfl

end StreamingCrc32c

/-- A fixed artifact ends with the checksum of everything before it. -/
def withChecksum (body : Bytes) : Bytes := body ++ toBE 4 (crc32c body)

theorem length_withChecksum (body : Bytes) : (withChecksum body).length = body.length + 4 := by
  simp [withChecksum]

/-- The checksum of an artifact agrees with the body before it. -/
theorem withChecksum_agrees {body : Bytes} {n : Nat} (h : body.length = n) :
    crc32c (slice (withChecksum body) 0 n) = u32At (withChecksum body) n := by
  have hbody : slice (withChecksum body) 0 n = body := slice_head h
  have hsum : slice (withChecksum body) n 4 = toBE 4 (crc32c body) := by
    unfold withChecksum
    rw [slice_skip (by omega), h, Nat.sub_self]
    exact slice_all (length_toBE _ _)
  rw [hbody, u32At_of_slice hsum]

/-- An artifact whose checksum agrees is its body with the checksum. -/
theorem eq_withChecksum {bytes : Bytes} {n : Nat} (hlen : bytes.length = n + 4)
    (h : crc32c (slice bytes 0 n) = u32At bytes n) : bytes = withChecksum (slice bytes 0 n) := by
  have hsum : slice bytes n 4 = toBE 4 (crc32c (slice bytes 0 n)) := by
    rw [h]
    exact slice_of_u32At (by omega)
  have hall : slice bytes 0 (n + 4) = bytes := slice_all hlen
  rw [slice_add, Nat.zero_add, hsum] at hall
  exact hall.symm

/-- A field inside the body is not affected by the checksum behind it. -/
theorem slice_withChecksum {body : Bytes} {start len : Nat} (h : start + len ≤ body.length) :
    slice (withChecksum body) start len = slice body start len := slice_left h

/-- The fields of the header that a payload and a checksum follow. -/
theorem cut_withChecksum (fields : List Bytes) (payload : Bytes) :
    cut (withChecksum (fields.flatten ++ payload)) 0 (fields.map List.length) = fields := by
  unfold withChecksum
  rw [List.append_assoc]
  exact cut_flatten_append fields _

/-- The payload behind a header of the given length. -/
theorem slice_payload {header payload : Bytes} {start : Nat} (h : header.length = start) :
    slice (withChecksum (header ++ payload)) start payload.length = payload := by
  unfold withChecksum
  rw [List.append_assoc]
  exact slice_append h rfl

end Wire
