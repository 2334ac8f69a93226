import Mathlib

namespace SortedMap

variable {κ β : Type} [DecidableEq κ]

/-- An ordered map as its list of entries in key order. -/
def get? (k : κ) : List (κ × β) → Option β
  | [] => none
  | (k', v) :: rest => if k = k' then some v else get? k rest

def insert (lt : κ → κ → Bool) (k : κ) (v : β) : List (κ × β) → List (κ × β)
  | [] => [(k, v)]
  | (k', v') :: rest =>
    if k = k' then (k, v) :: rest
    else if lt k k' then (k, v) :: (k', v') :: rest
    else (k', v') :: insert lt k v rest

def modify (k : κ) (f : β → β) : List (κ × β) → List (κ × β)
  | [] => []
  | (k', v) :: rest => if k = k' then (k', f v) :: rest else (k', v) :: modify k f rest

theorem get?_insert (lt : κ → κ → Bool) (k j : κ) (v : β) (m : List (κ × β)) :
    get? j (insert lt k v m) = if j = k then some v else get? j m := by
  induction m with
  | nil => rfl
  | cons entry rest ih =>
    obtain ⟨k', v'⟩ := entry
    simp only [insert]
    split
    next h =>
      subst h
      simp only [get?]
      split <;> rfl
    next h =>
      split
      next => rfl
      next =>
        simp only [get?, ih]
        by_cases hj : j = k'
        · subst hj
          simp [Ne.symm h]
        · simp [hj]

theorem get?_modify (k j : κ) (f : β → β) (m : List (κ × β)) :
    get? j (modify k f m) = if j = k then (get? j m).map f else get? j m := by
  induction m with
  | nil => simp [modify, get?]
  | cons entry rest ih =>
    obtain ⟨k', v⟩ := entry
    simp only [modify]
    split
    next h =>
      subst h
      by_cases hj : j = k
      · simp [get?, hj]
      · simp [get?, hj]
    next h =>
      simp only [get?, ih]
      by_cases hj : j = k'
      · subst hj
        simp [Ne.symm h]
      · simp [hj]

theorem mem_of_get? {k : κ} {v : β} {m : List (κ × β)} (h : get? k m = some v) :
    (k, v) ∈ m := by
  induction m with
  | nil => cases h
  | cons entry rest ih =>
    obtain ⟨k', v'⟩ := entry
    simp only [get?] at h
    split at h
    next heq =>
      cases h
      rw [heq]
      exact List.mem_cons_self
    next => exact List.mem_cons_of_mem _ (ih h)

theorem get?_eq_none {k : κ} {m : List (κ × β)} (h : ∀ entry ∈ m, entry.1 ≠ k) :
    get? k m = none := by
  cases hget : get? k m with
  | none => rfl
  | some v => exact absurd rfl (h (k, v) (mem_of_get? hget))

theorem ne_of_get?_none {k : κ} {m : List (κ × β)} (h : get? k m = none) {entry : κ × β}
    (hentry : entry ∈ m) : entry.1 ≠ k := by
  induction m with
  | nil => cases hentry
  | cons first rest ih =>
    simp only [get?] at h
    split at h
    next => cases h
    next hne =>
      rcases List.mem_cons.mp hentry with rfl | hrest
      · exact Ne.symm hne
      · exact ih h hrest

theorem length_insert {lt : κ → κ → Bool} {k : κ} {v : β} {m : List (κ × β)}
    (h : get? k m = none) : (insert lt k v m).length = m.length + 1 := by
  induction m with
  | nil => rfl
  | cons entry rest ih =>
    simp only [get?] at h
    split at h
    next => cases h
    next hne =>
      simp only [insert, hne, ↓reduceIte]
      split
      next => rfl
      next => simp only [List.length_cons, ih h]

theorem sum_insert {lt : κ → κ → Bool} {k : κ} {v : β} {m : List (κ × β)} (weight : β → Nat)
    (h : get? k m = none) : ((insert lt k v m).map fun entry => weight entry.2).sum =
      (m.map fun entry => weight entry.2).sum + weight v := by
  induction m with
  | nil => simp [insert]
  | cons entry rest ih =>
    simp only [get?] at h
    split at h
    next => cases h
    next hne =>
      have hrest := ih h
      simp only [insert, hne, ↓reduceIte]
      split
      next =>
        simp only [List.map_cons, List.sum_cons]
        omega
      next =>
        simp only [List.map_cons, List.sum_cons]
        omega

theorem keys_modify (k : κ) (f : β → β) (m : List (κ × β)) :
    (modify k f m).map (·.1) = m.map (·.1) := by
  induction m with
  | nil => rfl
  | cons entry rest ih =>
    obtain ⟨k', v⟩ := entry
    simp only [modify]
    split
    next => rfl
    next => rw [List.map_cons, List.map_cons, ih]

theorem length_modify (k : κ) (f : β → β) (m : List (κ × β)) :
    (modify k f m).length = m.length := by
  have h := congrArg List.length (keys_modify k f m)
  simpa using h

theorem sum_modify {k : κ} {f : β → β} {v : β} {m : List (κ × β)} (weight : β → Nat)
    (h : get? k m = some v) : ((modify k f m).map fun entry => weight entry.2).sum + weight v =
      (m.map fun entry => weight entry.2).sum + weight (f v) := by
  induction m with
  | nil => cases h
  | cons entry rest ih =>
    obtain ⟨k', v'⟩ := entry
    simp only [get?] at h
    split at h
    next heq =>
      cases h
      simp only [modify, heq, ↓reduceIte, List.map_cons, List.sum_cons]
      omega
    next hne =>
      have hrest := ih h
      simp only [modify, hne, ↓reduceIte, List.map_cons, List.sum_cons]
      omega

/-- The entries stand in the order of their keys. -/
def Ordered (lt : κ → κ → Bool) (m : List (κ × β)) : Prop :=
  m.Pairwise fun first second => lt first.1 second.1 = true

omit [DecidableEq κ] in
theorem ordered_iff_keys {lt : κ → κ → Bool} {m : List (κ × β)} :
    Ordered lt m ↔ (m.map (·.1)).Pairwise fun first second => lt first second = true := by
  rw [Ordered, List.pairwise_map]

theorem Ordered.modify {lt : κ → κ → Bool} {m : List (κ × β)} (h : Ordered lt m) (k : κ)
    (f : β → β) : Ordered lt (modify k f m) := by
  rw [ordered_iff_keys, keys_modify]
  exact ordered_iff_keys.mp h

theorem mem_insert {lt : κ → κ → Bool} {k : κ} {v : β} {m : List (κ × β)} {entry : κ × β}
    (h : entry ∈ insert lt k v m) : entry = (k, v) ∨ entry ∈ m := by
  induction m with
  | nil => exact Or.inl (List.mem_singleton.mp h)
  | cons first rest ih =>
    obtain ⟨k', v'⟩ := first
    simp only [insert] at h
    split at h
    next =>
      rcases List.mem_cons.mp h with h | h
      · exact Or.inl h
      · exact Or.inr (List.mem_cons_of_mem _ h)
    next =>
      split at h
      next => exact List.mem_cons.mp h
      next =>
        rcases List.mem_cons.mp h with rfl | h
        · exact Or.inr List.mem_cons_self
        · exact (ih h).imp_right (List.mem_cons_of_mem _)

section Order

variable {lt : κ → κ → Bool}
  (trans : ∀ {a b c : κ}, lt a b = true → lt b c = true → lt a c = true)
  (irrefl : ∀ a : κ, lt a a = false)
  (total : ∀ {a b : κ}, a ≠ b → ¬lt a b = true → lt b a = true)

include trans total in
theorem Ordered.insert {k : κ} {v : β} {m : List (κ × β)} (h : Ordered lt m)
    (hnone : get? k m = none) : Ordered lt (insert lt k v m) := by
  induction m with
  | nil => exact List.pairwise_singleton _ _
  | cons entry rest ih =>
    obtain ⟨hentry, hrest⟩ := List.pairwise_cons.mp h
    simp only [get?] at hnone
    split at hnone
    next => cases hnone
    next hne =>
      simp only [SortedMap.insert, hne, ↓reduceIte]
      split
      next hlt =>
        refine List.pairwise_cons.mpr ⟨?_, h⟩
        intro other hother
        rcases List.mem_cons.mp hother with rfl | hother
        · exact hlt
        · exact trans hlt (hentry other hother)
      next hlt =>
        refine List.pairwise_cons.mpr ⟨?_, ih hrest hnone⟩
        intro other hother
        rcases mem_insert hother with rfl | hother
        · exact total hne hlt
        · exact hentry other hother

include irrefl in
theorem Ordered.get?_of_mem {k : κ} {v : β} {m : List (κ × β)} (h : Ordered lt m)
    (hmem : (k, v) ∈ m) : get? k m = some v := by
  induction m with
  | nil => cases hmem
  | cons entry rest ih =>
    obtain ⟨hentry, hrest⟩ := List.pairwise_cons.mp h
    obtain ⟨k', v'⟩ := entry
    simp only [get?]
    rcases List.mem_cons.mp hmem with heq | hmem
    · cases heq
      simp
    · have hne : k ≠ k' := by
        intro heq
        have hlt := hentry (k, v) hmem
        rw [heq, irrefl] at hlt
        cases hlt
      rw [if_neg hne]
      exact ih hrest hmem

omit [DecidableEq κ] in
include irrefl in
theorem Ordered.nodup {m : List (κ × β)} (h : Ordered lt m) : m.Nodup := by
  refine List.Pairwise.imp ?_ h
  intro first second hlt heq
  rw [heq, irrefl] at hlt
  cases hlt

include trans irrefl in
/-- A map in key order is determined by its lookups. -/
theorem Ordered.ext {m m' : List (κ × β)} (h : Ordered lt m) (h' : Ordered lt m')
    (hget : ∀ k, get? k m = get? k m') : m = m' := by
  have hmem : ∀ entry, entry ∈ m ↔ entry ∈ m' := by
    intro entry
    constructor
    · intro hentry
      apply mem_of_get?
      rw [← hget]
      exact h.get?_of_mem irrefl hentry
    · intro hentry
      apply mem_of_get?
      rw [hget]
      exact h'.get?_of_mem irrefl hentry
  have hperm : m.Perm m' := by
    rw [List.perm_ext_iff_of_nodup (h.nodup irrefl) (h'.nodup irrefl)]
    exact hmem
  refine hperm.eq_of_pairwise ?_ h h'
  intro first second _ _ hlt hback
  have hself := trans hlt hback
  rw [irrefl] at hself
  cases hself

include trans irrefl in
/-- A key above all others goes to the end. -/
theorem insert_last {k : κ} {v : β} {m : List (κ × β)} (h : ∀ entry ∈ m, lt entry.1 k = true) :
    insert lt k v m = m ++ [(k, v)] := by
  induction m with
  | nil => rfl
  | cons entry rest ih =>
    obtain ⟨k', v'⟩ := entry
    have hlt : lt k' k = true := h (k', v') List.mem_cons_self
    have hne : k ≠ k' := by
      intro heq
      rw [heq, irrefl] at hlt
      cases hlt
    have hnot : ¬lt k k' = true := by
      intro hback
      have hself := trans hlt hback
      rw [irrefl] at hself
      cases hself
    simp only [insert, hne, hnot, ↓reduceIte, List.cons_append, Bool.false_eq_true]
    rw [ih fun entry hentry => h entry (List.mem_cons_of_mem _ hentry)]

end Order

/-- What a change of one value does to the values taken together. -/
theorem perm_modify {α : Type} {k : κ} {f : List α → List α} {v more : List α}
    {m : List (κ × List α)} (h : get? k m = some v) (hf : f v = v ++ more) :
    ((modify k f m).flatMap (·.2)).Perm (m.flatMap (·.2) ++ more) := by
  induction m with
  | nil => cases h
  | cons entry rest ih =>
    obtain ⟨k', v'⟩ := entry
    simp only [get?] at h
    split at h
    next heq =>
      cases h
      simp only [modify, heq, ↓reduceIte, List.flatMap_cons, hf, List.append_assoc]
      exact List.Perm.append_left _ List.perm_append_comm
    next hne =>
      simp only [modify, hne, ↓reduceIte, List.flatMap_cons, List.append_assoc]
      exact List.Perm.append_left _ (ih h)

theorem perm_insert {α : Type} {lt : κ → κ → Bool} {k : κ} {v : List α} {m : List (κ × List α)}
    (h : get? k m = none) :
    ((insert lt k v m).flatMap (·.2)).Perm (m.flatMap (·.2) ++ v) := by
  induction m with
  | nil => simp [insert]
  | cons entry rest ih =>
    simp only [get?] at h
    split at h
    next => cases h
    next hne =>
      simp only [insert, hne, ↓reduceIte]
      split
      next =>
        rw [List.flatMap_cons]
        exact List.perm_append_comm
      next =>
        simp only [List.flatMap_cons, List.append_assoc]
        exact List.Perm.append_left _ (ih h)

theorem modify_last {k : κ} {f : β → β} {v : β} {m : List (κ × β)}
    (h : ∀ entry ∈ m, entry.1 ≠ k) : modify k f (m ++ [(k, v)]) = m ++ [(k, f v)] := by
  induction m with
  | nil => simp [modify]
  | cons entry rest ih =>
    obtain ⟨k', v'⟩ := entry
    have hne : k ≠ k' := Ne.symm (h (k', v') List.mem_cons_self)
    simp only [List.cons_append, modify, hne, ↓reduceIte]
    rw [ih fun entry hentry => h entry (List.mem_cons_of_mem _ hentry)]

theorem get?_last {k : κ} {v : β} {m : List (κ × β)} (h : ∀ entry ∈ m, entry.1 ≠ k) :
    get? k (m ++ [(k, v)]) = some v := by
  induction m with
  | nil => simp [get?]
  | cons entry rest ih =>
    obtain ⟨k', v'⟩ := entry
    have hne : k ≠ k' := Ne.symm (h (k', v') List.mem_cons_self)
    simp only [List.cons_append, get?, hne, ↓reduceIte]
    exact ih fun entry hentry => h entry (List.mem_cons_of_mem _ hentry)

end SortedMap
