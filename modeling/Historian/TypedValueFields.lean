import Historian.TypedValueBlock
import Historian.JournalFields

namespace Historian.TypedValueBlock

open Wire Checks BitPack

/-- A check on what has been read: no value passes where it refuses. -/
theorem codec_guard {α : Type} {P : α → Prop} {enc : α → Put Unit} {dec : Reader α} {c : Prop}
    [Decidable c] {error : BlockError} (hrefused : c → ∀ x, ¬P x)
    (h : ¬c → Codec P enc dec) :
    Codec P enc (do fromExcept (refuse c error); dec) := by
  by_cases hc : c
  · have hnone := hrefused hc
    constructor
    · intro x hx
      exact absurd hx (hnone x)
    · intro bs x rest
      simp only [decode_bind_ok, fromExcept_ok, refuse_ok]
      constructor
      · intro hread
        obtain ⟨_, _, ⟨hgo, -⟩, -⟩ := hread
        exact absurd hc hgo
      · intro hwritten
        exact absurd hwritten.1 (hnone x)
  · have hgo : refuse c error = .ok () := if_neg hc
    rw [hgo]
    exact h hc

theorem codec_byte : Codec (fun _ => True) (fun byte => (put [byte] : Put Unit)) Reader.byte := by
  apply Codec.map (fun byte : UInt8 => [byte]) (codec_take BlockError.invalidBlock 1)
  · intro byte _
    rfl
  · intro bytes hb byte
    obtain ⟨first, rfl⟩ := List.length_eq_one_iff.mp hb
    simp

theorem codec_u16 : Codec (fun _ => True) (encodeLE 2 : Fin (2 ^ 16) → Put Unit)
    (decodeLE BlockError.invalidBlock 2 (2 ^ 16)) := codec_le _ (by decide)

theorem codec_u32 : Codec (fun _ => True) (encodeLE 4 : Fin (2 ^ 32) → Put Unit)
    (decodeLE BlockError.invalidBlock 4 (2 ^ 32)) := codec_le _ (by decide)

theorem codec_u64 : Codec (fun _ => True) (encodeLE 8 : U64 → Put Unit) Reader.u64 :=
  codec_le _ (by decide)

theorem codec_u128 : Codec (fun _ => True) (encodeLE 16 : U128 → Put Unit) Reader.u128 :=
  codec_le _ (by decide)

theorem codec_i64 :
    Codec (fun _ => True) (fun value : Int64 => (encodeLE 8 value.toBitVec.toFin : Put Unit))
      Reader.i64 := by
  apply Codec.map (fun value : Int64 => value.toBitVec.toFin) codec_u64 (fun _ _ => trivial)
  intro bits _ value
  constructor
  · intro heq
    subst heq
    exact ⟨trivial, rfl⟩
  · intro h
    obtain ⟨-, rfl⟩ := h
    rfl

/-- The UTF-8 of a text of a known length. -/
theorem codec_utf8 (n : Nat) : Codec (fun text : Text => text.len = n)
    (fun text => (put (utf8Encode text) : Put Unit))
    (do let bytes ← take .invalidBlock n; fromUtf8 bytes) := by
  apply Codec.last (fun text : Text => utf8Encode text) (codec_take BlockError.invalidBlock n)
  · intro text hlen
    exact hlen
  · intro bytes hlen bs text rest
    unfold fromUtf8
    cases hv : utf8Decode bytes with
    | none =>
      constructor
      · intro hthrown
        exact (decode_throw_ok.mp hthrown).elim
      · intro h
        rw [utf8Decode_eq_some.mpr h.1.2] at hv
        cases hv
    | some value =>
      have hbytes := utf8Decode_eq_some.mp hv
      constructor
      · intro hread
        obtain ⟨rfl, rfl⟩ := decode_pure_ok.mp hread
        refine ⟨⟨?_, hbytes⟩, rfl⟩
        unfold Text.len
        rw [← hbytes, hlen]
      · intro h
        obtain ⟨⟨-, htext⟩, rfl⟩ := h
        rw [utf8Decode_eq_some.mpr htext] at hv
        cases hv
        rfl

theorem putU16Bytes_eq {bytes : Bytes} (h : bytes.length < 2 ^ 16) :
    putU16Bytes bytes = (do
      encodeLE 2 (Fin.ofNat (2 ^ 16) bytes.length)
      put bytes) := by
  unfold putU16Bytes
  rw [dif_pos h]
  congr 2
  ext
  rw [Fin.val_ofNat, Nat.mod_eq_of_lt h]

theorem putU32Bytes_eq {bytes : Bytes} (h : bytes.length < 2 ^ 32) :
    putU32Bytes bytes = (do
      encodeLE 4 (Fin.ofNat (2 ^ 32) bytes.length)
      put bytes) := by
  unfold putU32Bytes
  rw [dif_pos h]
  congr 2
  ext
  rw [Fin.val_ofNat, Nat.mod_eq_of_lt h]

theorem codec_shortText {maximum : Nat} (hmax : maximum < 2 ^ 16) :
    Codec (fun text : Text => 0 < text.len ∧ text.len ≤ maximum)
      (fun text => putU16Bytes (utf8Encode text)) (Reader.shortText maximum) := by
  have h : Codec (fun text : Text => 0 < text.len ∧ text.len ≤ maximum)
      (fun text => (do
        encodeLE 2 (Fin.ofNat (2 ^ 16) text.len)
        put (utf8Encode text) : Put Unit)) (Reader.shortText maximum) := by
    unfold Reader.shortText Reader.u16Length
    rw [bind_assoc]
    apply Codec.field (fun text : Text => Fin.ofNat (2 ^ 16) text.len) codec_u16
      (fun _ _ => trivial)
    intro length _
    rw [pure_bind]
    have hlen : ∀ text : Text, 0 < text.len ∧ text.len ≤ maximum →
        (length = Fin.ofNat (2 ^ 16) text.len ↔ text.len = length.val) := by
      intro text hbounds
      rw [Fin.ext_iff, Fin.val_ofNat, Nat.mod_eq_of_lt (by omega)]
      exact eq_comm
    refine codec_guard ?_ fun hgo => ?_
    · intro hbad text htext
      have heq := (hlen text htext.1).mp htext.2
      omega
    · refine (codec_utf8 length.val).congr ?_ fun _ _ => rfl
      intro text
      constructor
      · intro htext
        exact (hlen text htext.1).mp htext.2
      · intro heq
        have hbounds : 0 < text.len ∧ text.len ≤ maximum := by omega
        exact ⟨hbounds, (hlen text hbounds).mpr heq⟩
  refine h.congr (fun _ => Iff.rfl) ?_
  intro text htext
  exact putU16Bytes_eq (Nat.lt_of_le_of_lt htext.2 hmax)

theorem codec_longText : Codec (fun text : Text => text.len < 2 ^ 32)
    (fun text => putU32Bytes (utf8Encode text)) Reader.longText := by
  have h : Codec (fun text : Text => text.len < 2 ^ 32)
      (fun text => (do
        encodeLE 4 (Fin.ofNat (2 ^ 32) text.len)
        put (utf8Encode text) : Put Unit)) Reader.longText := by
    unfold Reader.longText Reader.u32Length
    rw [bind_assoc]
    apply Codec.field (fun text : Text => Fin.ofNat (2 ^ 32) text.len) codec_u32
      (fun _ _ => trivial)
    intro length _
    rw [pure_bind]
    refine (codec_utf8 length.val).congr ?_ fun _ _ => rfl
    intro text
    constructor
    · intro htext
      obtain ⟨hlt, rfl⟩ := htext
      rw [Fin.val_ofNat, Nat.mod_eq_of_lt hlt]
    · intro heq
      have hlt : text.len < 2 ^ 32 := heq ▸ length.isLt
      refine ⟨hlt, ?_⟩
      ext
      rw [Fin.val_ofNat, Nat.mod_eq_of_lt hlt, heq]
  refine h.congr (fun _ => Iff.rfl) ?_
  intro text htext
  exact putU32Bytes_eq htext

end Historian.TypedValueBlock
