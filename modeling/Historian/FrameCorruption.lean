import Historian.CrcBurst
import Historian.JournalRoundTrip

namespace Historian

open Wire

/-- Two byte strings differ only inside 32 consecutive bits before the checksum, in the order of the
checksum's division, or only inside the checksum. -/
inductive Corruption (bytes changed : Bytes) : Prop
  | window (start : Nat) (inside : start + 32 ≤ 8 * (bytes.length - journalV1FrameCrcLen))
      (same : ∀ i, i < start ∨ start + 32 ≤ i → (messageBits bytes)[i]? = (messageBits changed)[i]?)
  | checksum (same : ∀ i < bytes.length - journalV1FrameCrcLen, bytes[i]? = changed[i]?)

theorem withChecksum_of_decode {bytes : Bytes} {limits : DecodeLimitsV1}
    {previous : Option AppendSequenceV1} {decoded : DecodedAdmissionV1}
    (h : decodeAdmissionFrameV1 bytes limits previous = .ok decoded) :
    ∃ body, bytes = withChecksum body := by
  obtain ⟨sequence, payload, rfl, -⟩ := decodeAdmissionFrameV1_ok.mp h
  refine ⟨framePrefix sequence.value payload.length ++ payload, ?_⟩
  rw [frame_eq, withChecksum, List.append_assoc]

theorem messageBits_append (a b : Bytes) : messageBits (a ++ b) = messageBits a ++ messageBits b :=
  List.flatMap_append

/-- Artifacts that agree outside a window before their checksums are the same. -/
theorem eq_of_window {body body' : Bytes} (hlen : body.length = body'.length) {start : Nat}
    (hinside : start + 32 ≤ 8 * body.length)
    (hsame : ∀ i, i < start ∨ start + 32 ≤ i →
      (messageBits (withChecksum body))[i]? = (messageBits (withChecksum body'))[i]?) :
    body = body' := by
  have hbits : (messageBits body).length = (messageBits body').length := by
    rw [length_messageBits, length_messageBits, hlen]
  have hsize := length_messageBits body
  unfold withChecksum at hsame
  rw [messageBits_append, messageBits_append] at hsame
  have htails : toBE 4 (crc32c body) = toBE 4 (crc32c body') := by
    apply messageBits_inj
    apply List.ext_getElem?
    intro i
    have hbit := hsame ((messageBits body).length + i) (Or.inr (by omega))
    rw [List.getElem?_append_right (by omega), List.getElem?_append_right (by omega), ← hbits,
      Nat.add_sub_cancel_left] at hbit
    exact hbit
  have hcrc : crc32c body = crc32c body' := by
    have hvalue := congrArg ofBE htails
    rw [ofBE_toBE (crc32c body).isLt, ofBE_toBE (crc32c body').isLt] at hvalue
    exact Fin.ext hvalue
  refine @eq_of_crc32c_window _ _ hlen start ?_ hcrc
  intro i hi
  by_cases hin : i < (messageBits body).length
  · have hbit := hsame i hi
    rw [List.getElem?_append_left hin, List.getElem?_append_left (by omega)] at hbit
    exact hbit
  · have hnone : (messageBits body)[i]? = none := List.getElem?_eq_none_iff.mpr (by omega)
    have hnone' : (messageBits body')[i]? = none := List.getElem?_eq_none_iff.mpr (by omega)
    rw [hnone, hnone']

theorem eq_of_same_body {body body' : Bytes} (hlen : body.length = body'.length)
    (hsame : ∀ i < body.length, (withChecksum body)[i]? = (withChecksum body')[i]?) :
    body = body' := by
  apply List.ext_getElem?
  intro i
  by_cases hin : i < body.length
  · have hbyte := hsame i hin
    unfold withChecksum at hbyte
    rw [List.getElem?_append_left hin, List.getElem?_append_left (by omega)] at hbyte
    exact hbyte
  · have hnone : body[i]? = none := List.getElem?_eq_none_iff.mpr (by omega)
    have hnone' : body'[i]? = none := List.getElem?_eq_none_iff.mpr (by omega)
    rw [hnone, hnone']

/-- No corruption of an accepted frame is accepted, under whatever limits and whatever sequence
before it. -/
theorem frame_corruption_detected {bytes changed : Bytes} {limits : DecodeLimitsV1}
    {previous : Option AppendSequenceV1} {decoded : DecodedAdmissionV1}
    (h : decodeAdmissionFrameV1 bytes limits previous = .ok decoded)
    (hlen : changed.length = bytes.length) (hne : changed ≠ bytes)
    (hcorrupt : Corruption bytes changed) (limits' : DecodeLimitsV1)
    (previous' : Option AppendSequenceV1) (accepted : DecodedAdmissionV1) :
    decodeAdmissionFrameV1 changed limits' previous' ≠ .ok accepted := by
  intro haccepted
  obtain ⟨body, rfl⟩ := withChecksum_of_decode h
  obtain ⟨body', rfl⟩ := withChecksum_of_decode haccepted
  rw [length_withChecksum, length_withChecksum] at hlen
  have hbodies : body.length = body'.length := by omega
  have hlast : (withChecksum body).length - journalV1FrameCrcLen = body.length := by
    rw [length_withChecksum]
    rfl
  have hsame : body = body' := by
    cases hcorrupt with
    | window start inside same =>
      rw [hlast] at inside
      exact eq_of_window hbodies inside same
    | checksum same =>
      rw [hlast] at same
      exact eq_of_same_body hbodies same
  exact hne (by rw [hsame])

/-- A changed byte changes bits of that byte only. -/
theorem messageBits_set {bytes : Bytes} {index : Nat} (h : index < bytes.length) (byte : UInt8)
    {i : Nat} (hi : i < 8 * index ∨ 8 * index + 8 ≤ i) :
    (messageBits bytes)[i]? = (messageBits (bytes.set index byte))[i]? := by
  have hfront : (messageBits (bytes.take index)).length = 8 * index := by
    rw [length_messageBits, List.length_take, Nat.min_eq_left (Nat.le_of_lt h)]
  have hsplit : bytes = bytes.take index ++ ([bytes[index]] ++ bytes.drop (index + 1)) := by
    rw [List.singleton_append, List.getElem_cons_drop, List.take_append_drop]
  have hset : bytes.set index byte =
      bytes.take index ++ ([byte] ++ bytes.drop (index + 1)) := by
    rw [List.set_eq_take_append_cons_drop, if_pos h, List.singleton_append]
  have hbyte (b : UInt8) : (messageBits [b]).length = 8 := by rw [length_messageBits]; rfl
  -- the bits in front of the byte and behind it do not depend on it
  have houtside (b : UInt8) :
      (messageBits (bytes.take index ++ ([b] ++ bytes.drop (index + 1))))[i]? =
        if i < 8 * index then (messageBits (bytes.take index))[i]?
        else (messageBits (bytes.drop (index + 1)))[i - 8 * index - 8]? := by
    rw [messageBits_append, messageBits_append]
    split
    next hlt => rw [List.getElem?_append_left (by omega)]
    next hge =>
      have hbehind : (messageBits [b]).length ≤ i - 8 * index := by
        rw [hbyte]
        omega
      rw [List.getElem?_append_right (by omega), hfront, List.getElem?_append_right hbehind, hbyte]
  rw [hset, houtside]
  conv_lhs => rw [hsplit]
  exact houtside _

theorem set_next_ne {bytes : Bytes} {index : Nat} (h : index < bytes.length) :
    bytes.set index (bytes.getD index 0 + 1) ≠ bytes := by
  intro heq
  have hbyte := congrArg (fun changed : Bytes => changed[index]?) heq
  simp only [List.getElem?_set_self h, List.getElem?_eq_getElem h, List.getD_eq_getElem?_getD,
    Option.getD_some, Option.some.injEq] at hbyte
  have hvalue := congrArg UInt8.toNat hbyte
  rw [UInt8.toNat_add, UInt8.toNat_one] at hvalue
  omega

/-- A byte of the sample frame is another one, in its payload or in its checksum. -/
theorem frame_corruption_detected_sample : ∃ bytes : Bytes,
    decodeAdmissionFrameV1 bytes .maximum none = .ok sampleDecoded ∧
      ∀ index, index = 20 ∨ index = bytes.length - 1 →
        bytes.set index (bytes.getD index 0 + 1) ≠ bytes ∧
          ∀ accepted, decodeAdmissionFrameV1 (bytes.set index (bytes.getD index 0 + 1)) .maximum
            none ≠ .ok accepted := by
  obtain ⟨bytes, hencode, hdecode⟩ := sampleDecoded_frame
  have hruns : ((encodeDecodedAdmissionFrameV1 sampleDecoded).toOption.any fun bytes =>
      decide (28 ≤ bytes.length)) = true := by decide +kernel
  rw [hencode] at hruns
  have hlong : 28 ≤ bytes.length := of_decide_eq_true hruns
  have hcrc : journalV1FrameCrcLen = 4 := rfl
  refine ⟨bytes, hdecode, ?_⟩
  intro index hindex
  have hin : index < bytes.length := by omega
  have hcorrupt : Corruption bytes (bytes.set index (bytes.getD index 0 + 1)) := by
    rcases hindex with rfl | rfl
    · exact .window 144 (by omega) fun i hi => messageBits_set hin _ (by omega)
    · refine .checksum fun i hi => ?_
      rw [List.getElem?_set_ne (by omega)]
  exact ⟨set_next_ne hin, frame_corruption_detected hdecode List.length_set (set_next_ne hin)
    hcorrupt .maximum none⟩

end Historian
