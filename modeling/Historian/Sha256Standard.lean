import Historian.Sha256

namespace Historian

open Wire

namespace Fips

/-- The first 32 bits of the fractional part of a root. -/
def rootFraction (k p : Nat) : Word := BitVec.ofNat 32 (Nat.nthRoot k (p * 2 ^ (32 * k)))

/-- The first sixty-four primes. -/
def primes : List Nat := (List.range 312).filter fun n => n.Prime

def initialHash : List Word := (primes.take 8).map (rootFraction 2)

def roundConstants : List Word := primes.map (rootFraction 3)

def rotr (n : Nat) (x : Word) : Word := (x >>> n) ||| (x <<< (32 - n))

def shr (n : Nat) (x : Word) : Word := x >>> n

def ch (x y z : Word) : Word := (x &&& y) ^^^ (~~~x &&& z)

def maj (x y z : Word) : Word := (x &&& y) ^^^ (x &&& z) ^^^ (y &&& z)

/-- The upper-case functions of the standard, on the working variables. -/
def bigSigma0 (x : Word) : Word := rotr 2 x ^^^ rotr 13 x ^^^ rotr 22 x

def bigSigma1 (x : Word) : Word := rotr 6 x ^^^ rotr 11 x ^^^ rotr 25 x

/-- The lower-case ones, on the message schedule. -/
def sigma0 (x : Word) : Word := rotr 7 x ^^^ rotr 18 x ^^^ shr 3 x

def sigma1 (x : Word) : Word := rotr 17 x ^^^ rotr 19 x ^^^ shr 10 x

/-- A word of a block of the padded message. -/
def messageWord (block : Bytes) (t : Nat) : Word := wordOf (slice block (4 * t) 4)

def messageSchedule (block : Bytes) (t : Nat) : Word :=
  if t < 16 then messageWord block t
  else sigma1 (messageSchedule block (t - 2)) + messageSchedule block (t - 7) +
    sigma0 (messageSchedule block (t - 15)) + messageSchedule block (t - 16)

/-- The eight working variables, and the eight words of a hash value. -/
structure Variables where
  a : Word
  b : Word
  c : Word
  d : Word
  e : Word
  f : Word
  g : Word
  h : Word
  deriving DecidableEq

namespace Variables

def words (v : Variables) : List Word := [v.a, v.b, v.c, v.d, v.e, v.f, v.g, v.h]

def ofWords (words : List Word) : Variables :=
  ⟨words.getD 0 0, words.getD 1 0, words.getD 2 0, words.getD 3 0, words.getD 4 0,
    words.getD 5 0, words.getD 6 0, words.getD 7 0⟩

def add (v w : Variables) : Variables :=
  ⟨v.a + w.a, v.b + w.b, v.c + w.c, v.d + w.d, v.e + w.e, v.f + w.f, v.g + w.g, v.h + w.h⟩

def round (v : Variables) (constant word : Word) : Variables :=
  let t1 := v.h + bigSigma1 v.e + ch v.e v.f v.g + constant + word
  let t2 := bigSigma0 v.a + maj v.a v.b v.c
  ⟨t1 + t2, v.a, v.b, v.c, v.d + t1, v.e, v.f, v.g⟩

end Variables

/-- One block of the hash computation. -/
def hashBlock (hash : Variables) (block : Bytes) : Variables :=
  hash.add ((List.range 64).foldl (fun v t =>
    v.round (roundConstants.getD t 0) (messageSchedule block t)) hash)

/-- The zero bytes between the marker and the length: the fewest that complete a block. -/
def paddingZeros (length : Nat) : Nat := (119 - length % 64) % 64

/-- The marker, the zeros and the length in bits. -/
def padding (length : Nat) : Bytes :=
  (0x80 :: zeros (paddingZeros length)) ++ toBE 8 (length * 8)

/-- The hash of a message. -/
def sha256 (message : Bytes) : Bytes :=
  let blocks := Blocks.whole 64 (message ++ padding message.length)
  (blocks.foldl hashBlock (.ofWords initialHash)).words.flatMap fun word => toBE 4 word.toNat

theorem paddingZeros_complete (length : Nat) : (length + 1 + paddingZeros length + 8) % 64 = 0 := by
  unfold paddingZeros
  omega

theorem paddingZeros_least {length count : Nat} (h : (length + 1 + count + 8) % 64 = 0) :
    paddingZeros length ≤ count := by
  unfold paddingZeros
  omega

end Fips

theorem sha256Round_eq : sha256Round = Fips.roundConstants := by decide +kernel

theorem sha256Initial_eq : sha256Initial = Fips.initialHash := by decide +kernel

theorem rotateRight_eq (x : Word) {n : Nat} (h : n < 32) : x.rotateRight n = Fips.rotr n x := by
  rw [BitVec.rotateRight_def, Nat.mod_eq_of_lt h]
  rfl

/-- The sixteen words of a block. -/
theorem blockWords {block : Bytes} (h : block.length = 64) {t : Nat} (ht : t < 16) :
    ((Blocks.whole 4 block).map wordOf)[t]? = some (Fips.messageWord block t) := by
  have hsplit (count start : Nat) (bytes : Bytes) (hstart : start < count) :
      (Blocks.split 4 count bytes)[start]? = some (slice bytes (4 * start) 4) := by
    induction count generalizing start bytes with
    | zero => omega
    | succ count ih =>
      cases start with
      | zero => rfl
      | succ start =>
        rw [Blocks.split, List.getElem?_cons_succ, ih start _ (by omega), slice, slice,
          List.drop_drop, Nat.mul_succ, Nat.add_comm]
  rw [List.getElem?_map, Blocks.whole, h, hsplit 16 t block ht]
  rfl

/-- The loop over the schedule computes the words one by one. -/
theorem schedule_eq {block : Bytes} (h : block.length = 64) :
    schedule block = (List.range 64).map (Fips.messageSchedule block) := by
  have hcount : ((Blocks.whole 4 block).map wordOf).length = 16 := by
    rw [List.length_map, Blocks.whole, h]
    rfl
  have hloop (n : Nat) (hn : 16 + n ≤ 64) :
      ((List.range' 16 n).foldl scheduleStep
          ((Blocks.whole 4 block).map wordOf ++ List.replicate 48 0)).length = 64 ∧
        ∀ t < 16 + n, ((List.range' 16 n).foldl scheduleStep
          ((Blocks.whole 4 block).map wordOf ++ List.replicate 48 0))[t]? =
            some (Fips.messageSchedule block t) := by
    induction n with
    | zero =>
      refine ⟨by simp [hcount], ?_⟩
      intro t ht
      have hfirst : t < ((Blocks.whole 4 block).map wordOf).length := by omega
      rw [List.range'_zero, List.foldl_nil, List.getElem?_append_left hfirst,
        blockWords h (by omega),
        Fips.messageSchedule, if_pos (by omega)]
    | succ n ih =>
      obtain ⟨hlength, hwords⟩ := ih (by omega)
      rw [List.range'_concat, Nat.one_mul, List.foldl_append, List.foldl_cons, List.foldl_nil]
      refine ⟨by rw [scheduleStep, List.length_set, hlength], ?_⟩
      intro t ht
      by_cases heq : t = 16 + n
      · subst heq
        have hword (back : Nat) (hback : 0 < back) (hle : back ≤ 16) :
            ((List.range' 16 n).foldl scheduleStep
              ((Blocks.whole 4 block).map wordOf ++ List.replicate 48 0)).getD (16 + n - back) 0 =
                Fips.messageSchedule block (16 + n - back) := by
          rw [List.getD_eq_getElem?_getD, hwords (16 + n - back) (by omega)]
          rfl
        rw [scheduleStep, List.getElem?_set_self (by omega)]
        dsimp only
        rw [hword 16 (by omega) (by omega), hword 15 (by omega) (by omega),
          hword 7 (by omega) (by omega), hword 2 (by omega) (by omega)]
        conv_rhs => rw [Fips.messageSchedule, if_neg (by omega)]
        simp only [rotateRight_eq _ (show 7 < 32 by omega),
          rotateRight_eq _ (show 18 < 32 by omega),
          rotateRight_eq _ (show 17 < 32 by omega), rotateRight_eq _ (show 19 < 32 by omega)]
        unfold Fips.sigma0 Fips.sigma1 Fips.shr
        congr 1
        ac_rfl
      · rw [scheduleStep, List.getElem?_set_ne (by omega)]
        exact hwords t (by omega)
  obtain ⟨hlength, hwords⟩ := hloop 48 (by omega)
  apply List.ext_getElem?
  intro t
  by_cases ht : t < 64
  · rw [schedule, hwords t ht, List.getElem?_map, List.getElem?_range ht]
    rfl
  · rw [List.getElem?_eq_none (by rw [schedule, hlength]; omega),
      List.getElem?_eq_none (by simp; omega)]

theorem compressRound_eq (v : Fips.Variables) (constant word : Word) :
    compressRound v.words (constant, word) = (v.round constant word).words := by
  unfold compressRound Fips.Variables.round Fips.Variables.words
  simp only [List.getD_cons_zero, List.getD_cons_succ, List.take_succ_cons, List.take_zero,
    List.cons_append, List.nil_append, List.set_cons_succ, List.set_cons_zero]
  simp only [rotateRight_eq _ (show 6 < 32 by omega), rotateRight_eq _ (show 11 < 32 by omega),
    rotateRight_eq _ (show 25 < 32 by omega), rotateRight_eq _ (show 2 < 32 by omega),
    rotateRight_eq _ (show 13 < 32 by omega), rotateRight_eq _ (show 22 < 32 by omega)]
  rfl

/-- The compression of the code is the one of the standard. -/
theorem compress_eq (hash : Fips.Variables) {block : Bytes} (h : block.length = 64) :
    compress hash.words block = (Fips.hashBlock hash block).words := by
  have hpairs : sha256Round.zip (schedule block) = (List.range 64).map fun t =>
      (Fips.roundConstants.getD t 0, Fips.messageSchedule block t) := by
    have hround : sha256Round = (List.range 64).map fun t => Fips.roundConstants.getD t 0 := by
      rw [← sha256Round_eq]
      rfl
    rw [schedule_eq h, hround, List.zip_map']
  have hrounds (ts : List Nat) (v : Fips.Variables) :
      (ts.map fun t => (Fips.roundConstants.getD t 0, Fips.messageSchedule block t)).foldl
          compressRound v.words =
        (ts.foldl (fun v t => v.round (Fips.roundConstants.getD t 0)
          (Fips.messageSchedule block t)) v).words := by
    induction ts generalizing v with
    | nil => rfl
    | cons t ts ih => rw [List.map_cons, List.foldl_cons, compressRound_eq, ih, List.foldl_cons]
  rw [compress, hpairs, hrounds]
  rfl

end Historian
