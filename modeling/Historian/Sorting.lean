import Mathlib

namespace Sorting

variable {α : Type} {r s : α → α → Prop} [DecidableRel r] [DecidableRel s]

/-- An element that may stand before all of `ys` is inserted before them. -/
theorem orderedInsert_append {a : α} {xs ys : List α} (h : ∀ b ∈ ys, r a b) :
    (xs ++ ys).orderedInsert r a = xs.orderedInsert r a ++ ys := by
  induction xs with
  | nil =>
    cases ys with
    | nil => rfl
    | cons b ys => simp [h b List.mem_cons_self]
  | cons x xs ih =>
    rw [List.cons_append, List.orderedInsert_cons, List.orderedInsert_cons, ih]
    split <;> rfl

/-- Runs that stand one before the other are sorted each for itself. -/
theorem insertionSort_append {xs ys : List α} (h : ∀ a ∈ xs, ∀ b ∈ ys, r a b) :
    (xs ++ ys).insertionSort r = xs.insertionSort r ++ ys.insertionSort r := by
  induction xs with
  | nil => rfl
  | cons a xs ih =>
    have hrest := ih fun x hx => h x (List.mem_cons_of_mem a hx)
    have ha : ∀ b ∈ ys.insertionSort r, r a b := by
      intro b hb
      exact h a List.mem_cons_self b ((List.mem_insertionSort r).mp hb)
    rw [List.cons_append, List.insertionSort_cons, hrest, orderedInsert_append ha,
      List.insertionSort_cons]

theorem orderedInsert_congr {a : α} {l : List α} (h : ∀ b ∈ l, r a b ↔ s a b) :
    l.orderedInsert r a = l.orderedInsert s a := by
  induction l with
  | nil => rfl
  | cons b l ih =>
    have hb := h b List.mem_cons_self
    have hrest := ih fun x hx => h x (List.mem_cons_of_mem b hx)
    simp only [List.orderedInsert_cons, hb, hrest]

theorem insertionSort_congr {l : List α} (h : ∀ a ∈ l, ∀ b ∈ l, r a b ↔ s a b) :
    l.insertionSort r = l.insertionSort s := by
  induction l with
  | nil => rfl
  | cons a l ih =>
    have hrest := ih fun x hx y hy =>
      h x (List.mem_cons_of_mem a hx) y (List.mem_cons_of_mem a hy)
    have ha : ∀ b ∈ l.insertionSort s, r a b ↔ s a b := by
      intro b hb
      exact h a List.mem_cons_self b (List.mem_cons_of_mem a ((List.mem_insertionSort s).mp hb))
    rw [List.insertionSort_cons, List.insertionSort_cons, hrest, orderedInsert_congr ha]

section Filter

variable [IsTrans α r]

theorem filter_orderedInsert (p : α → Bool) {a : α} {l : List α} (h : l.Pairwise r) :
    (l.orderedInsert r a).filter p =
      if p a then (l.filter p).orderedInsert r a else l.filter p := by
  induction l with
  | nil => simp [List.filter_cons]
  | cons b l ih =>
    obtain ⟨hb, hl⟩ := List.pairwise_cons.mp h
    rw [List.orderedInsert_cons]
    by_cases hab : r a b
    · -- everything behind `b` stands behind `a` too
      have hall : ∀ x ∈ (b :: l).filter p, r a x := by
        intro x hx
        rcases List.mem_cons.mp (List.mem_of_mem_filter hx) with rfl | hmem
        · exact hab
        · exact IsTrans.trans a b x hab (hb x hmem)
      have hfront : ((b :: l).filter p).orderedInsert r a = a :: (b :: l).filter p := by
        have happend : ([] ++ (b :: l).filter p).orderedInsert r a =
            [].orderedInsert r a ++ (b :: l).filter p := orderedInsert_append hall
        simpa using happend
      rw [if_pos hab, List.filter_cons, hfront]
    · rw [if_neg hab, List.filter_cons, ih hl, List.filter_cons]
      by_cases hpb : p b = true
      · simp only [hpb, if_true]
        split
        next => rw [List.orderedInsert_cons, if_neg hab]
        next => rfl
      · simp [hpb]

/-- Sorting what a filter leaves is filtering what was sorted. -/
theorem filter_insertionSort [Std.Total r] (p : α → Bool) (l : List α) :
    (l.insertionSort r).filter p = (l.filter p).insertionSort r := by
  induction l with
  | nil => rfl
  | cons a l ih =>
    rw [List.insertionSort_cons, filter_orderedInsert p (List.pairwise_insertionSort r l), ih,
      List.filter_cons]
    split
    next => rw [List.insertionSort_cons]
    next => rfl

end Filter

section Compare

variable {β : Type} {cmp : α → α → Ordering} [Std.TransCmp cmp]

/-- A comparison by a key. -/
theorem transCmp_key (f : β → α) : Std.TransCmp fun a b => cmp (f a) (f b) where
  eq_swap := Std.OrientedCmp.eq_swap
  isLE_trans h h' := Std.TransCmp.isLE_trans h h'

/-- A comparison by a key, the greatest key first. -/
theorem transCmp_descending (f : β → α) : Std.TransCmp fun a b => cmp (f b) (f a) := by
  have hkey : Std.TransCmp fun a b => cmp (f a) (f b) := transCmp_key f
  exact Std.TransCmp.opposite

/-- One comparison, and another where it does not decide. -/
theorem transCmp_then {cmp' : α → α → Ordering} [Std.TransCmp cmp'] :
    Std.TransCmp fun a b => (cmp a b).then (cmp' a b) :=
  inferInstanceAs (Std.TransCmp (compareLex cmp cmp'))

instance isTrans_isLE : IsTrans α fun a b => (cmp a b).isLE = true :=
  ⟨fun _ _ _ h h' => Std.TransCmp.isLE_trans h h'⟩

instance total_isLE : Std.Total fun a b : α => (cmp a b).isLE = true := ⟨by
  intro a b
  have hswap : cmp a b = (cmp b a).swap := Std.OrientedCmp.eq_swap
  rw [hswap]
  cases cmp b a <;> simp⟩

end Compare

end Sorting
