import Mathlib

namespace Fifo

variable {α β : Type}

theorem length_rtake {xs : List α} {n : Nat} : (xs.rtake n).length = min n xs.length := by
  rw [List.rtake, List.length_drop]
  omega

theorem length_rdrop {xs : List α} {n : Nat} : (xs.rdrop n).length = xs.length - n := by
  rw [List.rdrop, List.length_take]
  omega

theorem rdrop_append_rtake {xs : List α} {n : Nat} : xs.rdrop n ++ xs.rtake n = xs :=
  List.take_append_drop _ _

theorem rtake_of_length_le {xs : List α} {n : Nat} (h : xs.length ≤ n) : xs.rtake n = xs := by
  rw [List.rtake, Nat.sub_eq_zero_of_le h, List.drop_zero]

theorem rdrop_of_length_le {xs : List α} {n : Nat} (h : xs.length ≤ n) : xs.rdrop n = [] := by
  rw [List.rdrop, Nat.sub_eq_zero_of_le h, List.take_zero]

theorem map_rtake (f : α → β) (xs : List α) (n : Nat) :
    (xs.rtake n).map f = (xs.map f).rtake n := by
  rw [List.rtake, List.rtake, List.map_drop, List.length_map]

theorem rtake_suffix (xs : List α) (n : Nat) : xs.rtake n <:+ xs := List.drop_suffix _ _

/-- A window that is full, or that has nothing in front of it, ends at its own elements. -/
theorem rtake_append {xs ys : List α} {n : Nat} (h : xs = [] ∨ n ≤ ys.length) :
    (xs ++ ys).rtake n = ys.rtake n := by
  rcases h with rfl | h
  · rw [List.nil_append]
  · have hdrop : (xs ++ ys).length - n = xs.length + (ys.length - n) := by
      rw [List.length_append]
      omega
    rw [List.rtake, hdrop, List.drop_append, List.drop_of_length_le (by omega), List.nil_append,
      Nat.add_sub_cancel_left, List.rtake]

theorem rdrop_append {xs ys : List α} {n : Nat} (h : ys.length = n) : (xs ++ ys).rdrop n = xs := by
  rw [List.rdrop, List.length_append, h, Nat.add_sub_cancel, List.take_left]

/-- Two windows side by side end at the last element. -/
theorem rtake_rdrop_suffix (xs : List α) (m n : Nat) :
    (xs.rdrop n).rtake m ++ xs.rtake n <:+ xs := by
  obtain ⟨before, hbefore⟩ := rtake_suffix (xs.rdrop n) m
  refine ⟨before, ?_⟩
  rw [← List.append_assoc, hbefore, rdrop_append_rtake]

/-- A full window gives up its oldest element to the elements before it when one more enters. -/
theorem rtake_split {n : Nat} {xs : List α} {x oldest : α} {kept : List α} (hn : n ≤ xs.length)
    (h : xs.rtake n ++ [x] = oldest :: kept) :
    kept = (xs ++ [x]).rtake n ∧ (xs ++ [x]).rdrop n = xs.rdrop n ++ [oldest] := by
  have hsplit : xs ++ [x] = (xs.rdrop n ++ [oldest]) ++ kept := by
    rw [List.append_assoc, List.singleton_append, ← h, ← List.append_assoc, rdrop_append_rtake]
  have hkept : kept.length = n := by
    have hlength := congrArg List.length h
    simp only [List.length_append, length_rtake, List.length_cons, List.length_nil] at hlength
    omega
  have hbefore : (xs ++ [x]).length - n = (xs.rdrop n ++ [oldest]).length := by
    rw [List.length_append, List.length_append, length_rdrop, List.length_singleton,
      List.length_singleton]
    omega
  constructor
  · rw [List.rtake, hbefore, hsplit, List.drop_left]
  · rw [List.rdrop, hbefore, hsplit, List.take_left]

/-- A queue of bounded length that drops its oldest element holds the last ones. -/
theorem rtake_concat (n : Nat) (xs : List α) (x : α) :
    (if n < (xs.rtake n ++ [x]).length then (xs.rtake n ++ [x]).tail else xs.rtake n ++ [x]) =
      (xs ++ [x]).rtake n := by
  have hlength : (xs.rtake n ++ [x]).length = min n xs.length + 1 := by
    rw [List.length_append, length_rtake, List.length_singleton]
  split
  next hfull =>
    cases hcons : xs.rtake n ++ [x] with
    | nil => simp at hcons
    | cons oldest kept => exact (rtake_split (by omega) hcons).1
  next hroom =>
    have hle : xs.length + 1 ≤ n := by omega
    rw [rtake_of_length_le (by omega), rtake_of_length_le]
    simpa using hle

end Fifo
