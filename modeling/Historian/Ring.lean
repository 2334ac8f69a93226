import Mathlib

namespace Ring

variable {α : Type}

/-- A ring of `cap` cells that holds `xs` from the cell `head` on; every other cell is empty. -/
structure Holds (cells : List (Option α)) (cap head : Nat) (xs : List α) : Prop where
  size : cells.length = cap
  start : head < cap
  fits : xs.length ≤ cap
  cell : ∀ k < cap, cells[(head + k) % cap]? = some xs[k]?

variable {cells : List (Option α)} {cap head : Nat} {xs : List α} {x : α}

/-- Different offsets below the capacity lead to different cells. -/
theorem index_inj {i j : Nat} (hi : i < cap) (hj : j < cap)
    (h : (head + i) % cap = (head + j) % cap) : i = j := by
  have hmod : i ≡ j [MOD cap] := Nat.ModEq.add_left_cancel' head h
  exact Nat.ModEq.eq_of_lt_of_lt hmod hi hj

theorem holds_nil (h : 0 < cap) : Holds (List.replicate cap (none : Option α)) cap 0 [] where
  size := List.length_replicate
  start := h
  fits := Nat.zero_le cap
  cell := by
    intro k hk
    rw [Nat.zero_add, Nat.mod_eq_of_lt hk, List.getElem?_replicate, if_pos hk]
    simp

theorem Holds.front (h : Holds cells cap head xs) : cells[head]? = some xs[0]? := by
  have hcell := h.cell 0 (by have := h.start; omega)
  rwa [Nat.add_zero, Nat.mod_eq_of_lt h.start] at hcell

/-- The cell behind the last element is free while the ring has room. -/
theorem Holds.free (h : Holds cells cap head xs) (room : xs.length < cap) :
    cells[(head + xs.length) % cap]? = some none := by
  rw [h.cell xs.length room, List.getElem?_eq_none (Nat.le_refl _)]

theorem Holds.push (h : Holds cells cap head xs) (room : xs.length < cap) :
    Holds (cells.set ((head + xs.length) % cap) (some x)) cap head (xs ++ [x]) where
  size := by rw [List.length_set, h.size]
  start := h.start
  fits := by
    rw [List.length_append, List.length_singleton]
    omega
  cell := by
    intro k hk
    have hbound : (head + xs.length) % cap < cells.length := by
      rw [h.size]
      exact Nat.mod_lt _ (by omega)
    rw [List.getElem?_set]
    by_cases heq : (head + xs.length) % cap = (head + k) % cap
    · have hlast : xs.length = k := index_inj room hk heq
      subst hlast
      simp [hbound]
    · have hne : k ≠ xs.length := by
        rintro rfl
        exact heq rfl
      rw [if_neg heq, h.cell k hk, List.getElem?_append]
      by_cases hlt : k < xs.length
      · rw [if_pos hlt]
      · rw [if_neg hlt, List.getElem?_eq_none (by omega), List.getElem?_eq_none (by simp; omega)]

theorem Holds.pop (h : Holds cells cap head (x :: xs)) :
    Holds (cells.set head none) cap ((head + 1) % cap) xs where
  size := by rw [List.length_set, h.size]
  start := Nat.mod_lt _ (by have := h.start; omega)
  fits := by
    have hfits := h.fits
    rw [List.length_cons] at hfits
    omega
  cell := by
    intro k hk
    have hstart := h.start
    have hshift : ((head + 1) % cap + k) % cap = (head + (k + 1)) % cap := by
      rw [Nat.mod_add_mod]
      congr 1
      omega
    rw [hshift, List.getElem?_set]
    by_cases hlast : k + 1 = cap
    · -- the last offset wraps around to the cell that was emptied
      have hwrap : (head + (k + 1)) % cap = head := by
        rw [hlast, Nat.add_mod_right, Nat.mod_eq_of_lt hstart]
      have hfits := h.fits
      rw [List.length_cons] at hfits
      rw [if_pos hwrap.symm, h.size, if_pos hstart, List.getElem?_eq_none (by omega)]
    · have hne : head ≠ (head + (k + 1)) % cap := by
        intro heq
        have hzero : (head + 0) % cap = (head + (k + 1)) % cap := by
          rw [Nat.add_zero, Nat.mod_eq_of_lt hstart]
          exact heq
        have := index_inj (by omega) (by omega) hzero
        omega
      rw [if_neg hne, h.cell (k + 1) (by omega), List.getElem?_cons_succ]

end Ring
