import Mathlib

namespace BitPack

/-- The bit of a byte, counted from the lowest. -/
def bit (byte : UInt8) (i : Nat) : Bool := byte &&& (1 <<< UInt8.ofNat i) != 0

def setBit (byte : UInt8) (i : Nat) : UInt8 := byte ||| (1 <<< UInt8.ofNat i)

theorem shifted_one {i : Nat} (h : i < 8) :
    ((1 : UInt8) <<< UInt8.ofNat i).toBitVec = BitVec.twoPow 8 i := by
  rw [UInt8.toBitVec_shiftLeft, BitVec.twoPow_eq, BitVec.shiftLeft_eq']
  congr 1
  simp [UInt8.toNat_ofNat']
  omega

theorem bit_eq (byte : UInt8) {i : Nat} (h : i < 8) : bit byte i = byte.toBitVec.getLsbD i := by
  have hzero : (byte &&& (1 <<< UInt8.ofNat i) = 0) ↔ byte.toBitVec.getLsbD i = false := by
    rw [← UInt8.toBitVec_inj, UInt8.toBitVec_and, shifted_one h, BitVec.and_twoPow]
    cases hbit : byte.toBitVec.getLsbD i with
    | false => simp
    | true =>
      rw [if_pos rfl]
      constructor
      · intro heq
        have hset := congrArg (·.getLsbD i) heq
        simp [h] at hset
      · intro hfalse
        cases hfalse
  unfold bit
  cases hbit : byte.toBitVec.getLsbD i with
  | false => simp [hzero.mpr hbit]
  | true =>
    rw [bne_iff_ne]
    intro heq
    rw [hzero.mp heq] at hbit
    cases hbit

@[simp] theorem bit_zero (i : Nat) : bit 0 i = false := by
  simp [bit]

theorem bit_setBit (byte : UInt8) {i j : Nat} (hi : i < 8) (hj : j < 8) :
    bit (setBit byte i) j = (bit byte j || decide (i = j)) := by
  rw [bit_eq _ hj, bit_eq _ hj, setBit, UInt8.toBitVec_or, shifted_one hi, BitVec.getLsbD_or,
    BitVec.getLsbD_twoPow]
  simp [hi]

/-- A byte is its bits. -/
theorem byte_ext {a b : UInt8} (h : ∀ i < 8, bit a i = bit b i) : a = b := by
  apply UInt8.toBitVec_inj.mp
  apply BitVec.eq_of_getLsbD_eq
  intro i hi
  rw [← bit_eq a hi, ← bit_eq b hi, h i hi]

/-- No bit of a byte from `k` on is set when the mask of these bits finds none. -/
theorem mask_eq_zero {byte : UInt8} {k : Nat} (hk : k < 8) :
    byte &&& (0xff <<< UInt8.ofNat k) = 0 ↔ ∀ i, k ≤ i → i < 8 → bit byte i = false := by
  have hmask : ((0xff : UInt8) <<< UInt8.ofNat k).toBitVec = BitVec.allOnes 8 <<< k := by
    rw [UInt8.toBitVec_shiftLeft, BitVec.shiftLeft_eq']
    congr 1
    simp [UInt8.toNat_ofNat']
    omega
  rw [← UInt8.toBitVec_inj, UInt8.toBitVec_and, hmask]
  constructor
  · intro h i hki hi
    have hset : (BitVec.allOnes 8 <<< k).getLsbD i = true := by
      rw [BitVec.getLsbD_shiftLeft, BitVec.getLsbD_allOnes]
      simp [hi, Nat.not_lt.mpr hki]
      omega
    have hbit := congrArg (·.getLsbD i) h
    rw [BitVec.getLsbD_and, hset, Bool.and_true] at hbit
    rw [bit_eq byte hi, hbit]
    exact BitVec.getLsbD_zero
  · intro h
    apply BitVec.eq_of_getLsbD_eq
    intro i hi
    by_cases hki : k ≤ i
    · have hbit := h i hki hi
      rw [bit_eq byte hi] at hbit
      simp [hbit]
    · simp [Nat.not_le.mp hki]

/-- The bits of bytes, the lowest bit of the first byte first. -/
def getBit (bytes : List UInt8) (i : Nat) : Bool := bit (bytes.getD (i / 8) 0) (i % 8)

def setAt (bytes : List UInt8) (i : Nat) : List UInt8 := bytes.modify (i / 8) (setBit · (i % 8))

def byteCount (n : Nat) : Nat := (n + 7) / 8

/-- The bits that are set are set one after the other in bytes of zeros. -/
def pack (bits : List Bool) : List UInt8 :=
  bits.zipIdx.foldl (fun bytes bit => if bit.1 then setAt bytes bit.2 else bytes)
    (List.replicate (byteCount bits.length) 0)

def unpack (n : Nat) (bytes : List UInt8) : List Bool := (List.range n).map (getBit bytes)

theorem getBit_zeros (n i : Nat) : getBit (List.replicate n 0) i = false := by
  unfold getBit
  rw [List.getD_eq_getElem?_getD, List.getElem?_replicate]
  split <;> simp

theorem getBit_setAt {bytes : List UInt8} {i j : Nat} (hi : i < 8 * bytes.length) :
    getBit (setAt bytes i) j = (getBit bytes j || decide (i = j)) := by
  have hdiv : i / 8 < bytes.length := by omega
  unfold getBit setAt
  rw [List.getD_eq_getElem?_getD, List.getD_eq_getElem?_getD, List.getElem?_modify]
  by_cases hsame : i / 8 = j / 8
  · have hlt : j / 8 < bytes.length := by omega
    have hij : i = j ↔ i % 8 = j % 8 := by omega
    rw [List.getElem?_eq_getElem hlt]
    simp only [hsame, if_true, Option.map_eq_map, Option.map_some, Option.getD_some]
    rw [bit_setBit _ (by omega) (by omega), decide_eq_decide.mpr hij]
  · have hij : i ≠ j := by
      intro heq
      exact hsame (heq ▸ rfl)
    simp [hsame, hij]

theorem setBits_spec {bits : List Bool} {start : Nat} {bytes : List UInt8}
    (h : start + bits.length ≤ 8 * bytes.length) :
    ((bits.zipIdx start).foldl (fun bytes bit => if bit.1 then setAt bytes bit.2 else bytes)
        bytes).length = bytes.length ∧
      ∀ j, getBit ((bits.zipIdx start).foldl
        (fun bytes bit => if bit.1 then setAt bytes bit.2 else bytes) bytes) j =
          (getBit bytes j || (decide (start ≤ j) && bits.getD (j - start) false)) := by
  induction bits generalizing start bytes with
  | nil => simp
  | cons first rest ih =>
    rw [List.length_cons] at h
    rw [List.zipIdx_cons, List.foldl_cons]
    dsimp only
    have hlen : (if first then setAt bytes start else bytes).length = bytes.length := by
      split
      next => rw [setAt, List.length_modify]
      next => rfl
    have hfirst : ∀ j, getBit (if first then setAt bytes start else bytes) j =
        (getBit bytes j || (first && decide (start = j))) := by
      intro j
      cases first with
      | false => simp
      | true => simp [@getBit_setAt bytes start j (by omega)]
    have hrest := @ih (start + 1) (if first then setAt bytes start else bytes) (by rw [hlen]; omega)
    refine ⟨hrest.1.trans hlen, fun j => ?_⟩
    rw [hrest.2, hfirst, Bool.or_assoc]
    congr 1
    rcases Nat.lt_trichotomy j start with hlt | heq | hgt
    · have hne : start ≠ j := by omega
      simp [hne, Nat.not_le.mpr hlt, Nat.not_le.mpr (Nat.lt_succ_of_lt hlt)]
    · subst heq
      simp
    · obtain ⟨k, rfl⟩ : ∃ k, j = start + 1 + k := ⟨j - (start + 1), by omega⟩
      have hne : start ≠ start + 1 + k := by omega
      have hsub : start + 1 + k - start = k + 1 := by omega
      have hsub' : start + 1 + k - (start + 1) = k := by omega
      have hle : start ≤ start + 1 + k := by omega
      simp [hne, hsub, hsub', hle]

theorem length_pack (bits : List Bool) : (pack bits).length = byteCount bits.length := by
  have hroom : 0 + bits.length ≤
      8 * (List.replicate (byteCount bits.length) (0 : UInt8)).length := by
    rw [List.length_replicate, byteCount]
    omega
  rw [pack, (setBits_spec hroom).1, List.length_replicate]

theorem getBit_pack (bits : List Bool) (j : Nat) : getBit (pack bits) j = bits.getD j false := by
  have hroom : 0 + bits.length ≤
      8 * (List.replicate (byteCount bits.length) (0 : UInt8)).length := by
    rw [List.length_replicate, byteCount]
    omega
  rw [pack, (setBits_spec hroom).2, getBit_zeros]
  simp

theorem unpack_pack (bits : List Bool) : unpack bits.length (pack bits) = bits := by
  unfold unpack
  apply List.ext_getElem
  · simp
  · intro i hi hi'
    simp [getBit_pack, hi']

/-- Bytes of one length are equal when their bits are. -/
theorem bytes_ext {a b : List UInt8} (hlen : a.length = b.length)
    (h : ∀ j, getBit a j = getBit b j) : a = b := by
  apply List.ext_getElem hlen
  intro k hka hkb
  apply byte_ext
  intro i hi
  have hbit := h (8 * k + i)
  have hdiv : (8 * k + i) / 8 = k := by omega
  have hmod : (8 * k + i) % 8 = i := by omega
  unfold getBit at hbit
  rw [hdiv, hmod, List.getD_eq_getElem _ _ hka, List.getD_eq_getElem _ _ hkb] at hbit
  exact hbit

/-- Bytes with no bit behind the first `n` are what these bits are packed into. -/
theorem pack_unpack {bytes : List UInt8} {n : Nat} (hlen : bytes.length = byteCount n)
    (hclean : ∀ j, n ≤ j → getBit bytes j = false) : pack (unpack n bytes) = bytes := by
  have hcount : (unpack n bytes).length = n := by simp [unpack]
  apply bytes_ext
  · rw [length_pack, hcount, hlen]
  · intro j
    rw [getBit_pack]
    by_cases hj : j < n
    · simp [unpack, hj]
    · rw [hclean j (Nat.not_lt.mp hj)]
      simp [unpack, hj]

/-- The bits behind the first `n` are those that the mask of the last byte finds. -/
theorem clean_iff {bytes : List UInt8} {n : Nat} (hlen : bytes.length = byteCount n) :
    (∀ j, n ≤ j → getBit bytes j = false) ↔
      (n % 8 ≠ 0 → bytes.getD (bytes.length - 1) 0 &&& (0xff <<< UInt8.ofNat (n % 8)) = 0) := by
  unfold byteCount at hlen
  constructor
  · intro h hused
    rw [mask_eq_zero (by omega)]
    intro i hle hlt
    have hbit := h (8 * (bytes.length - 1) + i) (by omega)
    have hdiv : (8 * (bytes.length - 1) + i) / 8 = bytes.length - 1 := by omega
    have hmod : (8 * (bytes.length - 1) + i) % 8 = i := by omega
    unfold getBit at hbit
    rwa [hdiv, hmod] at hbit
  · intro h j hj
    unfold getBit
    by_cases hin : j / 8 < bytes.length
    · have hused : n % 8 ≠ 0 := by omega
      have hlast : j / 8 = bytes.length - 1 := by omega
      have hmask := (mask_eq_zero (by omega)).mp (h hused) (j % 8) (by omega) (by omega)
      rwa [hlast]
    · rw [List.getD_eq_default _ _ (Nat.not_lt.mp hin), bit_zero]

end BitPack
