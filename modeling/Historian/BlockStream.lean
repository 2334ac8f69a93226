import Mathlib

namespace Blocks

variable {α σ : Type} {n : Nat}

/-- The first `count` blocks of `n` elements each. -/
def split (n : Nat) : Nat → List α → List (List α)
  | 0, _ => []
  | count + 1, xs => xs.take n :: split n count (xs.drop n)

/-- The whole blocks of a list. -/
def whole (n : Nat) (xs : List α) : List (List α) := split n (xs.length / n) xs

/-- The elements in the whole blocks. -/
def front (n : Nat) (xs : List α) : List α := xs.take (xs.length / n * n)

/-- The elements behind the whole blocks. -/
def rest (n : Nat) (xs : List α) : List α := xs.drop (xs.length / n * n)

/-- The state after all whole blocks. -/
def absorb (n : Nat) (compress : σ → List α → σ) (state : σ) (xs : List α) : σ :=
  (whole n xs).foldl compress state

theorem front_append_rest (xs : List α) : front n xs ++ rest n xs = xs := List.take_append_drop ..

theorem length_front (xs : List α) : (front n xs).length = xs.length / n * n := by
  have hle : xs.length / n * n ≤ xs.length := Nat.div_mul_le_self ..
  rw [front, List.length_take, Nat.min_eq_left hle]

theorem length_rest (xs : List α) : (rest n xs).length = xs.length % n := by
  have hdiv := Nat.div_add_mod' xs.length n
  rw [rest, List.length_drop]
  omega

theorem front_aligned (xs : List α) : (front n xs).length % n = 0 := by
  rw [length_front, Nat.mul_mod_left]

theorem split_append (k : Nat) {a : List α} (h : a.length = k * n) (count : Nat) (b : List α) :
    split n (k + count) (a ++ b) = split n k a ++ split n count b := by
  induction k generalizing a with
  | zero =>
    have hnil : a = [] := List.eq_nil_of_length_eq_zero (by omega)
    rw [hnil, Nat.zero_add]
    rfl
  | succ k ih =>
    rw [Nat.succ_mul] at h
    have hle : n ≤ a.length := by omega
    have hdrop : (a.drop n).length = k * n := by
      rw [List.length_drop]
      omega
    rw [Nat.add_right_comm, split, split, List.take_append_of_le_length hle,
      List.drop_append_of_le_length hle, ih hdrop, List.cons_append]

/-- Whole blocks in front do not move the blocks behind them. -/
theorem whole_append (hn : 0 < n) {a : List α} (h : a.length % n = 0) (b : List α) :
    whole n (a ++ b) = whole n a ++ whole n b := by
  have hlength : a.length = a.length / n * n := by
    have hdiv := Nat.div_add_mod' a.length n
    omega
  have hcount : (a ++ b).length / n = a.length / n + b.length / n := by
    rw [List.length_append, Nat.add_comm, hlength, Nat.add_mul_div_right _ _ hn,
      Nat.mul_div_cancel _ hn, Nat.add_comm]
  rw [whole, hcount, split_append (a.length / n) hlength]
  rfl

theorem rest_append {a : List α} (h : a.length % n = 0) (b : List α) :
    rest n (a ++ b) = rest n b := by
  have hdiv := Nat.div_add_mod' a.length n
  have hsum := Nat.div_add_mod' (a ++ b).length n
  have hmod : (a ++ b).length % n = b.length % n := by
    rw [List.length_append, Nat.add_mod, h, Nat.zero_add, Nat.mod_mod]
  have hdiv' := Nat.div_add_mod' b.length n
  rw [List.length_append] at hsum hmod
  have hlength : (a ++ b).length / n * n = a.length + b.length / n * n := by
    rw [List.length_append]
    omega
  rw [rest, hlength, ← List.drop_drop, List.drop_left, rest]

theorem whole_of_lt {xs : List α} (h : xs.length < n) : whole n xs = [] := by
  rw [whole, Nat.div_eq_of_lt h]
  rfl

theorem whole_block (hn : 0 < n) {xs : List α} (h : xs.length = n) : whole n xs = [xs] := by
  rw [whole, h, Nat.div_self hn, split, ← h, List.take_length]
  rfl

theorem absorb_nil (compress : σ → List α → σ) (state : σ) :
    absorb n compress state [] = state := by
  rw [absorb, whole, List.length_nil, Nat.zero_div]
  rfl

theorem rest_nil : rest n ([] : List α) = [] := by
  rw [rest, List.drop_nil]

theorem rest_aligned {xs : List α} (h : xs.length % n = 0) : rest n xs = [] :=
  List.eq_nil_of_length_eq_zero ((length_rest xs).trans h)

theorem whole_front (hn : 0 < n) (xs : List α) : whole n (front n xs) = whole n xs := by
  by_cases hzero : n = 0
  · omega
  · have hsplit := whole_append hn (front_aligned (n := n) xs) (rest n xs)
    have hrest : (rest n xs).length < n := by
      rw [length_rest]
      exact Nat.mod_lt _ hn
    rw [front_append_rest, whole_of_lt hrest, List.append_nil] at hsplit
    exact hsplit.symm

section Absorb

variable {compress : σ → List α → σ} (hn : 0 < n)

include hn

theorem absorb_append {a : List α} (h : a.length % n = 0) (state : σ) (b : List α) :
    absorb n compress state (a ++ b) = absorb n compress (absorb n compress state a) b := by
  rw [absorb, whole_append hn h, List.foldl_append]
  rfl

theorem absorb_block {xs : List α} (h : xs.length = n) (state : σ) :
    absorb n compress state xs = compress state xs := by
  rw [absorb, whole_block hn h]
  rfl

theorem absorb_front (state : σ) (xs : List α) :
    absorb n compress state (front n xs) = absorb n compress state xs := by
  rw [absorb, whole_front hn]
  rfl

/-- Elements that complete the block that is pending are absorbed with it. -/
theorem absorb_complete {xs filling behind : List α}
    (h : (rest n xs ++ filling).length = n) (state : σ) :
    absorb n compress state (xs ++ (filling ++ behind)) =
        absorb n compress
          (compress (absorb n compress state xs) (rest n xs ++ filling)) behind ∧
      rest n (xs ++ (filling ++ behind)) = rest n behind := by
  have hsplit : xs ++ (filling ++ behind) =
      front n xs ++ ((rest n xs ++ filling) ++ behind) := by
    have hxs := front_append_rest (n := n) xs
    calc xs ++ (filling ++ behind)
        = (front n xs ++ rest n xs) ++ (filling ++ behind) := by rw [hxs]
      _ = front n xs ++ ((rest n xs ++ filling) ++ behind) := by simp only [List.append_assoc]
  have haligned : (rest n xs ++ filling).length % n = 0 := by rw [h, Nat.mod_self]
  constructor
  · rw [hsplit, absorb_append hn (front_aligned xs), absorb_append hn haligned,
      absorb_block hn h, absorb_front hn]
  · rw [hsplit, rest_append (front_aligned xs), rest_append haligned]

end Absorb

/-- Every whole block is of the size of a block. -/
theorem length_of_mem_whole {xs block : List α} (h : block ∈ whole n xs) : block.length = n := by
  have hsplit (count : Nat) (ys : List α) (hle : count * n ≤ ys.length)
      (hmem : block ∈ split n count ys) : block.length = n := by
    induction count generalizing ys with
    | zero => cases hmem
    | succ count ih =>
      rw [Nat.succ_mul] at hle
      rcases List.mem_cons.mp hmem with heq | hlater
      · rw [heq, List.length_take]
        omega
      · apply ih (ys.drop n) ?_ hlater
        rw [List.length_drop]
        omega
  exact hsplit (xs.length / n) xs (Nat.div_mul_le_self ..) h

theorem flatten_whole {xs : List α} (h : xs.length % n = 0) : (whole n xs).flatten = xs := by
  have hsplit (count : Nat) (ys : List α) (hlength : ys.length = count * n) :
      (split n count ys).flatten = ys := by
    induction count generalizing ys with
    | zero =>
      rw [Nat.zero_mul] at hlength
      rw [List.eq_nil_of_length_eq_zero hlength]
      rfl
    | succ count ih =>
      rw [Nat.succ_mul] at hlength
      have hdrop : (ys.drop n).length = count * n := by
        rw [List.length_drop]
        omega
      rw [split, List.flatten_cons, ih (ys.drop n) hdrop, List.take_append_drop]
  have hdiv := Nat.div_add_mod' xs.length n
  exact hsplit (xs.length / n) xs (by omega)

/-- Absorbing into a list of blocks collects them. -/
theorem absorb_snoc (xs : List α) :
    absorb n (fun seen block => seen ++ [block]) [] xs = whole n xs := by
  have hfold (blocks seen : List (List α)) :
      blocks.foldl (fun seen block => seen ++ [block]) seen = seen ++ blocks := by
    induction blocks generalizing seen with
    | nil => simp
    | cons block rest ih => rw [List.foldl_cons, ih, List.append_assoc, List.singleton_append]
  exact hfold _ []

/-- A marker and fill elements end in a place of their own. -/
theorem marked_inj {a b : List α} {mark fill : α} (h : mark ≠ fill) {i j : Nat}
    (heq : a ++ (mark :: List.replicate i fill) = b ++ (mark :: List.replicate j fill)) :
    a = b := by
  induction i generalizing j with
  | zero =>
    cases j with
    | zero => exact List.append_cancel_right heq
    | succ j =>
      rw [List.replicate_succ', ← List.cons_append, ← List.append_assoc] at heq
      have hlast := (List.append_inj' heq rfl).2
      simp only [List.replicate_zero, List.cons.injEq, and_true] at hlast
      exact absurd hlast h
  | succ i ih =>
    cases j with
    | zero =>
      rw [List.replicate_succ', ← List.cons_append, ← List.append_assoc] at heq
      have hlast := (List.append_inj' heq rfl).2
      simp only [List.replicate_zero, List.cons.injEq, and_true] at hlast
      exact absurd hlast.symm h
    | succ j =>
      rw [List.replicate_succ', List.replicate_succ', ← List.cons_append, ← List.cons_append,
        ← List.append_assoc, ← List.append_assoc] at heq
      exact ih (List.append_inj' heq rfl).1

end Blocks
