import Mathlib

namespace BinarySearch

variable {α : Type}

/-- Halve the part from `base` on until one element is left. -/
def searchBase (cmp : α → Ordering) (xs : List α) : Nat → Nat → Nat → Nat
  | 0, base, _ => base
  | fuel + 1, base, size =>
    if size ≤ 1 then base
    else
      let half := size / 2
      let next := match xs[base + half]? with
        | some x => if cmp x = .gt then base else base + half
        | none => base
      searchBase cmp xs fuel next (size - half)

/-- The index at which `cmp`, the order of an element against the one that is searched for, says
that they are equal. -/
def binarySearchBy (cmp : α → Ordering) (xs : List α) : Option Nat :=
  let base := searchBase cmp xs xs.length 0 xs.length
  match xs[base]? with
  | some x => if cmp x = .eq then some base else none
  | none => none

/-- The element that a search finds. -/
def find (cmp : α → Ordering) (xs : List α) : Option α := (binarySearchBy cmp xs).bind (xs[·]?)

/-- Elements in the order that a search relies on, none of them twice. -/
def Searchable (cmp : α → Ordering) (xs : List α) : Prop :=
  xs.Pairwise fun first second => cmp second ≠ .gt → cmp first = .lt

variable {cmp : α → Ordering} {xs : List α}

/-- The part that is left holds what is searched for. -/
theorem searchBase_inside (h : Searchable cmp xs) {i : Nat} {x : α} (hx : xs[i]? = some x)
    (heq : cmp x = .eq) {fuel base size : Nat} (hfuel : size ≤ fuel + 1) (hlow : base ≤ i)
    (hhigh : i < base + size) (hsize : base + size ≤ xs.length) :
    searchBase cmp xs fuel base size = i := by
  induction fuel generalizing base size with
  | zero =>
    unfold searchBase
    omega
  | succ fuel ih =>
    unfold searchBase
    split
    next => omega
    next hbig =>
      have hlt : base + size / 2 < xs.length := by omega
      have hmid : xs[base + size / 2]? = some xs[base + size / 2] := List.getElem?_eq_getElem hlt
      obtain ⟨hi, hxi⟩ := List.getElem?_eq_some_iff.mp hx
      have hpairs := List.pairwise_iff_getElem.mp h
      simp only [hmid]
      split
      next hgt =>
        -- everything from the middle on is greater
        have hbefore : i < base + size / 2 := by
          rcases Nat.lt_trichotomy i (base + size / 2) with hcase | hcase | hcase
          · exact hcase
          · subst hcase
            rw [hxi, heq] at hgt
            cases hgt
          · have hle := hpairs _ _ hlt hi hcase (by rw [hxi, heq]; decide)
            rw [hle] at hgt
            cases hgt
        exact ih (by omega) hlow (by omega) (by omega)
      next hle =>
        -- everything before the middle is smaller
        have hbehind : base + size / 2 ≤ i := by
          by_contra hcase
          have hless := hpairs _ _ hi hlt (by omega) hle
          rw [hxi, heq] at hless
          cases hless
        have hend : base + size / 2 + (size - size / 2) = base + size := by omega
        exact ih (by omega) hbehind (hend ▸ hhigh) (hend ▸ hsize)

/-- An element that is there is found. -/
theorem find_mem (h : Searchable cmp xs) {x : α} (hx : x ∈ xs) (heq : cmp x = .eq) :
    find cmp xs = some x := by
  obtain ⟨i, hi, hxi⟩ := List.mem_iff_getElem.mp hx
  have hget : xs[i]? = some x := by rw [List.getElem?_eq_getElem hi, hxi]
  have hbase : searchBase cmp xs xs.length 0 xs.length = i :=
    searchBase_inside h hget heq (by omega) (by omega) (by omega) (by omega)
  simp only [find, binarySearchBy, hbase, hget, heq, if_true, Option.bind_some]

/-- What is found is there. -/
theorem find_some {x : α} (h : find cmp xs = some x) : x ∈ xs ∧ cmp x = .eq := by
  unfold find binarySearchBy at h
  rw [Option.bind_eq_some_iff] at h
  obtain ⟨i, hfound, hget⟩ := h
  dsimp only at hfound
  split at hfound
  next y hy =>
    split at hfound
    next heq =>
      rw [Option.some.injEq] at hfound
      rw [← hfound, hy, Option.some.injEq] at hget
      rw [← hget]
      exact ⟨List.mem_of_getElem? hy, heq⟩
    next => cases hfound
  next => cases hfound

/-- Elements in the strict order of a key can be searched for it. -/
theorem searchable_key {κ : Type} {order : κ → κ → Ordering} [Std.TransCmp order] (key : α → κ)
    (target : κ) (h : xs.Pairwise fun first second => order (key first) (key second) = .lt) :
    Searchable (fun x => order (key x) target) xs := by
  refine List.Pairwise.imp ?_ h
  intro first second hlt hle
  have hisLE : (order (key second) target).isLE = true := by
    cases horder : order (key second) target with
    | lt => rfl
    | eq => rfl
    | gt => exact absurd horder hle
  exact Std.TransCmp.lt_of_lt_of_isLE hlt hisLE

end BinarySearch
