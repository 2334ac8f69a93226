import Historian.Crc32c

namespace Wire

/-- The reflected polynomial of the division. -/
def castagnoli : BitVec 32 := 0x82f63b78#32

/-- One step divides by two and subtracts the polynomial when a bit leaves. -/
theorem crcBit_eq (crc : BitVec 32) :
    crcBit crc = (crc >>> 1) ^^^ (if crc.getLsbD 0 then castagnoli else 0#32) := by
  have hlow : crc &&& 1#32 = BitVec.setWidth 32 (BitVec.ofBool (crc.getLsbD 0)) :=
    BitVec.and_one_eq_setWidth_ofBool_getLsbD
  unfold crcBit
  rw [hlow]
  cases crc.getLsbD 0 with
  | false => rfl
  | true => rfl

theorem crcBit_xor (a b : BitVec 32) : crcBit (a ^^^ b) = crcBit a ^^^ crcBit b := by
  have hbit : (if (a ^^^ b).getLsbD 0 then castagnoli else 0#32) =
      (if a.getLsbD 0 then castagnoli else 0#32) ^^^ if b.getLsbD 0 then castagnoli else 0#32 := by
    rw [BitVec.getLsbD_xor]
    cases a.getLsbD 0 <;> cases b.getLsbD 0 <;> rfl
  rw [crcBit_eq, crcBit_eq, crcBit_eq, BitVec.ushiftRight_xor_distrib, hbit]
  ac_rfl

theorem crcBit_even {word : BitVec 32} (h : word.getLsbD 0 = false) : crcBit word = word >>> 1 := by
  rw [crcBit_eq, h]
  simp

/-- The step loses nothing: only the zero register becomes zero. -/
theorem crcBit_eq_zero {crc : BitVec 32} (h : crcBit crc = 0#32) : crc = 0#32 := by
  rw [crcBit_eq] at h
  cases hlow : crc.getLsbD 0 with
  | false =>
    rw [hlow] at h
    have hshift : crc >>> 1 = 0#32 := by simpa using h
    apply BitVec.eq_of_getLsbD_eq
    intro i hi
    cases i with
    | zero => simpa using hlow
    | succ i =>
      have hbit := congrArg (fun word : BitVec 32 => word.getLsbD i) hshift
      simp only [BitVec.getLsbD_ushiftRight, BitVec.getLsbD_zero] at hbit
      rw [Nat.add_comm] at hbit
      rw [hbit, BitVec.getLsbD_zero]
  | true =>
    -- the top bit of the polynomial stays
    rw [hlow] at h
    have hbit := congrArg (fun word : BitVec 32 => word.getLsbD 31) h
    simp [castagnoli] at hbit

theorem repeat_crcBit_eq_zero {n : Nat} {crc : BitVec 32} (h : Nat.repeat crcBit n crc = 0#32) :
    crc = 0#32 := by
  induction n with
  | zero => exact h
  | succ n ih => exact ih (crcBit_eq_zero h)

theorem repeat_crcBit_step (n : Nat) (crc : BitVec 32) :
    Nat.repeat crcBit (n + 1) crc = Nat.repeat crcBit n (crcBit crc) := by
  induction n with
  | zero => rfl
  | succ n ih =>
    change crcBit (Nat.repeat crcBit (n + 1) crc) = crcBit (Nat.repeat crcBit n (crcBit crc))
    rw [ih]

/-- The register after one more bit of the message. -/
def crcStep (crc : BitVec 32) (bit : Bool) : BitVec 32 :=
  crcBit (crc ^^^ BitVec.setWidth 32 (BitVec.ofBool bit))

/-- Bits as a word, the first one lowest. -/
def bitsWord : List Bool → BitVec 32
  | [] => 0#32
  | bit :: rest => BitVec.setWidth 32 (BitVec.ofBool bit) ^^^ (bitsWord rest <<< 1)

theorem getLsbD_bit (bit : Bool) (i : Nat) :
    (BitVec.setWidth 32 (BitVec.ofBool bit)).getLsbD i = (decide (i = 0) && bit) := by
  cases i with
  | zero => cases bit <;> rfl
  | succ i => simp

theorem getLsbD_bitsWord (bits : List Bool) (i : Nat) (hi : i < 32) :
    (bitsWord bits).getLsbD i = bits.getD i false := by
  induction bits generalizing i with
  | nil => simp [bitsWord]
  | cons bit rest ih =>
    rw [bitsWord, BitVec.getLsbD_xor, getLsbD_bit, BitVec.getLsbD_shiftLeft]
    cases i with
    | zero => simp
    | succ i => simp [hi, ih i (by omega)]

/-- Up to a whole word the bits may all be added before the steps are taken. -/
theorem foldl_crcStep (bits : List Bool) (h : bits.length ≤ 32) (crc : BitVec 32) :
    bits.foldl crcStep crc = Nat.repeat crcBit bits.length (crc ^^^ bitsWord bits) := by
  induction bits generalizing crc with
  | nil => simp [bitsWord, Nat.repeat]
  | cons bit rest ih =>
    rw [List.length_cons] at h
    have heven : (bitsWord rest <<< 1).getLsbD 0 = false := by simp
    have hback : (bitsWord rest <<< 1) >>> 1 = bitsWord rest := by
      apply BitVec.eq_of_getLsbD_eq
      intro i hi
      rw [BitVec.getLsbD_ushiftRight, BitVec.getLsbD_shiftLeft]
      by_cases htop : i = 31
      · subst htop
        have hnone : rest[31]? = none := List.getElem?_eq_none_iff.mpr (by omega)
        rw [getLsbD_bitsWord _ _ hi, List.getD_eq_getElem?_getD, hnone]
        rfl
      · have hin : 1 + i < 32 := by omega
        simp [hin]
    rw [List.foldl_cons, ih (by omega), List.length_cons, repeat_crcBit_step, bitsWord,
      ← BitVec.xor_assoc, crcBit_xor, crcBit_even heven, hback]
    rfl

theorem foldl_crcStep_xor (a b : List Bool) (h : a.length = b.length) (crc crc' : BitVec 32) :
    a.foldl crcStep crc ^^^ b.foldl crcStep crc' =
      (a.zipWith xor b).foldl crcStep (crc ^^^ crc') := by
  induction a generalizing b crc crc' with
  | nil =>
    cases b with
    | nil => rfl
    | cons y ys => cases h
  | cons x xs ih =>
    cases b with
    | nil => cases h
    | cons y ys =>
      have hbit : BitVec.setWidth 32 (BitVec.ofBool (xor x y)) =
          BitVec.setWidth 32 (BitVec.ofBool x) ^^^ BitVec.setWidth 32 (BitVec.ofBool y) := by
        cases x <;> cases y <;> rfl
      have hstep : crcStep crc x ^^^ crcStep crc' y = crcStep (crc ^^^ crc') (xor x y) := by
        unfold crcStep
        rw [hbit, ← crcBit_xor]
        congr 1
        ac_rfl
      rw [List.foldl_cons, List.foldl_cons, ih ys (Nat.succ.inj h), hstep]
      rfl

/-- The bits of a byte in the order in which the division takes them. -/
def byteBits (byte : UInt8) : List Bool := (List.range 8).map fun i => byte.toBitVec.getLsbD i

def messageBits (bytes : Bytes) : List Bool := bytes.flatMap byteBits

theorem length_byteBits (byte : UInt8) : (byteBits byte).length = 8 := by simp [byteBits]

theorem length_messageBits (bytes : Bytes) : (messageBits bytes).length = 8 * bytes.length := by
  induction bytes with
  | nil => rfl
  | cons byte rest ih =>
    rw [messageBits, List.flatMap_cons, List.length_append, ← messageBits, ih, length_byteBits,
      List.length_cons]
    omega

theorem bitsWord_byteBits (byte : UInt8) :
    bitsWord (byteBits byte) = byte.toBitVec.setWidth 32 := by
  apply BitVec.eq_of_getLsbD_eq
  intro i hi
  rw [getLsbD_bitsWord _ _ hi, BitVec.getLsbD_setWidth]
  by_cases hlow : i < 8
  · simp [byteBits, hi, List.getD_eq_getElem?_getD, List.getElem?_map, List.getElem?_range hlow]
  · have hnone : (byteBits byte)[i]? = none := by
      rw [List.getElem?_eq_none_iff, length_byteBits]
      omega
    have hhigh : byte.toBitVec.getLsbD i = false := BitVec.getLsbD_of_ge _ _ (by omega)
    simp [List.getD_eq_getElem?_getD, hnone, hhigh]

theorem crcByte_eq (crc : BitVec 32) (byte : UInt8) :
    crcByte crc byte = (byteBits byte).foldl crcStep crc := by
  have hlen := length_byteBits byte
  rw [foldl_crcStep _ (by omega), bitsWord_byteBits, hlen]
  rfl

theorem foldl_crcByte (bytes : Bytes) (crc : BitVec 32) :
    bytes.foldl crcByte crc = (messageBits bytes).foldl crcStep crc := by
  induction bytes generalizing crc with
  | nil => rfl
  | cons byte rest ih =>
    rw [List.foldl_cons, ih, crcByte_eq, messageBits, messageBits, List.flatMap_cons,
      List.foldl_append]

theorem byteBits_inj {a b : UInt8} (h : byteBits a = byteBits b) : a = b := by
  have hword := congrArg bitsWord h
  rw [bitsWord_byteBits, bitsWord_byteBits] at hword
  apply UInt8.toBitVec_inj.mp
  apply BitVec.eq_of_getLsbD_eq
  intro i hi
  have hbit := congrArg (fun word : BitVec 32 => word.getLsbD i) hword
  have hin : i < 32 := by omega
  simpa [BitVec.getLsbD_setWidth, hin] using hbit

theorem messageBits_inj {a b : Bytes} (h : messageBits a = messageBits b) : a = b := by
  induction a generalizing b with
  | nil =>
    have hlen := congrArg List.length h
    rw [length_messageBits, length_messageBits, List.length_nil] at hlen
    exact (List.eq_nil_of_length_eq_zero (by omega)).symm
  | cons x xs ih =>
    cases b with
    | nil =>
      have hlen := congrArg List.length h
      rw [length_messageBits, length_messageBits, List.length_nil, List.length_cons] at hlen
      omega
    | cons y ys =>
      rw [messageBits, messageBits, List.flatMap_cons, List.flatMap_cons] at h
      have hsplit := List.append_inj h (by rw [length_byteBits, length_byteBits])
      rw [byteBits_inj hsplit.1, ih hsplit.2]

/-- Bits that are clear outside a window of one word. -/
def InWindow (bits : List Bool) : Prop :=
  ∃ start, ∀ i, i < start ∨ start + 32 ≤ i → bits.getD i false = false

theorem foldl_crcStep_eq_zero {bits : List Bool} (hclear : ∀ bit ∈ bits, bit = false)
    {crc : BitVec 32} (h : bits.foldl crcStep crc = 0#32) : crc = 0#32 := by
  induction bits generalizing crc with
  | nil => exact h
  | cons bit rest ih =>
    obtain ⟨rfl, hrest⟩ := List.forall_mem_cons.mp hclear
    have hstep := ih hrest h
    unfold crcStep at hstep
    have hzero := crcBit_eq_zero hstep
    simpa using hzero

theorem foldl_crcStep_clear {bits : List Bool} (hclear : ∀ bit ∈ bits, bit = false) :
    bits.foldl crcStep 0#32 = 0#32 := by
  induction bits with
  | nil => rfl
  | cons bit rest ih =>
    obtain ⟨rfl, hrest⟩ := List.forall_mem_cons.mp hclear
    rw [List.foldl_cons]
    exact ih hrest

theorem clear_of_bitsWord {bits : List Bool} (hlen : bits.length ≤ 32) (h : bitsWord bits = 0#32) :
    ∀ bit ∈ bits, bit = false := by
  intro bit hbit
  obtain ⟨i, hi⟩ := List.getElem?_of_mem hbit
  have hlt := (List.getElem?_eq_some_iff.mp hi).1
  have hword := getLsbD_bitsWord bits i (by omega)
  rw [h, BitVec.getLsbD_zero, List.getD_eq_getElem?_getD, hi] at hword
  exact hword.symm

/-- A difference inside one window leaves a register that is not zero. -/
theorem clear_of_window {bits : List Bool} (hwindow : InWindow bits)
    (h : bits.foldl crcStep 0#32 = 0#32) : ∀ bit ∈ bits, bit = false := by
  obtain ⟨start, houtside⟩ := hwindow
  have hfront : ∀ bit ∈ bits.take start, bit = false := by
    intro bit hbit
    obtain ⟨i, hi⟩ := List.getElem?_of_mem hbit
    rw [List.getElem?_take] at hi
    split at hi
    next hlt =>
      have hclear := houtside i (Or.inl hlt)
      rw [List.getD_eq_getElem?_getD, hi] at hclear
      exact hclear
    next => cases hi
  have hback : ∀ bit ∈ (bits.drop start).drop 32, bit = false := by
    intro bit hbit
    obtain ⟨i, hi⟩ := List.getElem?_of_mem hbit
    rw [List.getElem?_drop, List.getElem?_drop] at hi
    have hclear := houtside (start + (32 + i)) (Or.inr (by omega))
    rw [List.getD_eq_getElem?_getD, hi] at hclear
    exact hclear
  have hshort : ((bits.drop start).take 32).length ≤ 32 := List.length_take_le _ _
  have hsplit : bits =
      bits.take start ++ ((bits.drop start).take 32 ++ (bits.drop start).drop 32) := by
    rw [List.take_append_drop, List.take_append_drop]
  have hmiddle : ∀ bit ∈ (bits.drop start).take 32, bit = false := by
    rw [hsplit, List.foldl_append, List.foldl_append, foldl_crcStep_clear hfront] at h
    have hzero := foldl_crcStep_eq_zero hback h
    rw [foldl_crcStep _ hshort, BitVec.zero_xor] at hzero
    exact clear_of_bitsWord hshort (repeat_crcBit_eq_zero hzero)
  rw [hsplit]
  intro bit hbit
  rcases List.mem_append.mp hbit with hbit | hbit
  · exact hfront bit hbit
  · rcases List.mem_append.mp hbit with hbit | hbit
    · exact hmiddle bit hbit
    · exact hback bit hbit

/-- Messages of one length with the same checksum that agree outside a window of 32 bits are the
same. -/
theorem eq_of_crc32c_window {a b : Bytes} (hlen : a.length = b.length) {start : Nat}
    (houtside : ∀ i, i < start ∨ start + 32 ≤ i → (messageBits a)[i]? = (messageBits b)[i]?)
    (hcrc : crc32c a = crc32c b) : a = b := by
  have hbits : (messageBits a).length = (messageBits b).length := by
    rw [length_messageBits, length_messageBits, hlen]
  have hregister : (messageBits a).foldl crcStep 0xffffffff#32 =
      (messageBits b).foldl crcStep 0xffffffff#32 := by
    rw [← foldl_crcByte, ← foldl_crcByte]
    unfold crc32c at hcrc
    exact BitVec.not_inj.mp (BitVec.toFin_inj.mp hcrc)
  have hdifference : ((messageBits a).zipWith xor (messageBits b)).foldl crcStep 0#32 = 0#32 := by
    have hxor := foldl_crcStep_xor _ _ hbits 0xffffffff#32 0xffffffff#32
    rw [hregister, BitVec.xor_self, BitVec.xor_self] at hxor
    exact hxor.symm
  have hwindow : InWindow ((messageBits a).zipWith xor (messageBits b)) := by
    refine ⟨start, ?_⟩
    intro i hi
    have hsame := houtside i hi
    rw [List.getD_eq_getElem?_getD, List.getElem?_zipWith, hsame]
    cases (messageBits b)[i]? <;> simp
  have hclear := clear_of_window hwindow hdifference
  apply messageBits_inj
  apply List.ext_getElem hbits
  intro i hi hi'
  have hmem : xor (messageBits a)[i] (messageBits b)[i] ∈
      (messageBits a).zipWith xor (messageBits b) := by
    have hin : i < ((messageBits a).zipWith xor (messageBits b)).length := by
      rw [List.length_zipWith]
      omega
    have hget : ((messageBits a).zipWith xor (messageBits b))[i] =
        xor (messageBits a)[i] (messageBits b)[i] := List.getElem_zipWith
    rw [← hget]
    exact List.getElem_mem hin
  simpa using hclear _ hmem

end Wire
