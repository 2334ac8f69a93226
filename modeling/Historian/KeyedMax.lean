import Mathlib

namespace KeyedMax

variable {α κ : Type} {key : α → κ} {lt : α → α → Prop}

/-- An entry of this key is the element, or above it. -/
def Covered (key : α → κ) (lt : α → α → Prop) (entries : List α) (a : α) : Prop :=
  ∃ e ∈ entries, key e = key a ∧ (a = e ∨ lt a e)

/-- The entries are the greatest offered element of each key. -/
structure Greatest (key : α → κ) (lt : α → α → Prop) (offered entries : List α) : Prop where
  distinct : (entries.map key).Nodup
  offers : ∀ e ∈ entries, e ∈ offered
  covers : ∀ a ∈ offered, Covered key lt entries a

theorem Greatest.nil : Greatest key lt [] [] :=
  ⟨List.nodup_nil, fun _ h => (List.not_mem_nil h).elim, fun _ h => (List.not_mem_nil h).elim⟩

theorem eq_of_key {entries : List α} (h : (entries.map key).Nodup) {a b : α} (ha : a ∈ entries)
    (hb : b ∈ entries) (hkey : key a = key b) : a = b := List.inj_on_of_nodup_map h ha hb hkey

/-- Another entry of the list keeps what it covers. -/
theorem Covered.push {entries : List α} {a : α} (h : Covered key lt entries a) (more : List α) :
    Covered key lt (entries ++ more) a := by
  obtain ⟨e, he, hkey, hcovers⟩ := h
  exact ⟨e, List.mem_append_left _ he, hkey, hcovers⟩

/-- A greater entry covers what the one before covered. -/
theorem Covered.replace (htrans : ∀ a b c, lt a b → lt b c → lt a c) {entries : List α} {a : α}
    (h : Covered key lt entries a) {index : Nat} {old new : α}
    (hindex : entries[index]? = some old) (hkey : key old = key new) (hlt : lt old new) :
    Covered key lt (entries.set index new) a := by
  obtain ⟨e, he, hsame, hcovers⟩ := h
  obtain ⟨i, hi⟩ := List.getElem?_of_mem he
  have hrange := (List.getElem?_eq_some_iff.mp hindex).1
  by_cases hhere : index = i
  · rw [← hhere, hindex, Option.some.injEq] at hi
    rw [← hi] at hsame hcovers
    have hnew : (entries.set index new)[index]? = some new := List.getElem?_set_self hrange
    refine ⟨new, List.mem_of_getElem? hnew, hkey.symm.trans hsame, Or.inr ?_⟩
    rcases hcovers with heq | hbelow
    · rw [heq]
      exact hlt
    · exact htrans a old new hbelow hlt
  · have hkept : (entries.set index new)[i]? = some e := by
      rw [List.getElem?_set_ne hhere]
      exact hi
    exact ⟨e, List.mem_of_getElem? hkept, hsame, hcovers⟩

/-- An element that is covered changes nothing. -/
theorem Greatest.skip {offered entries : List α} {a : α} (h : Greatest key lt offered entries)
    (hcovered : Covered key lt entries a) : Greatest key lt (offered ++ [a]) entries := by
  refine ⟨h.distinct, fun e he => List.mem_append_left _ (h.offers e he), ?_⟩
  intro b hb
  rcases List.mem_append.mp hb with hold | hnew
  · exact h.covers b hold
  · rw [List.mem_singleton.mp hnew]
    exact hcovered

/-- An element of a new key is added. -/
theorem Greatest.push {offered entries : List α} {a : α} (h : Greatest key lt offered entries)
    (hfree : ∀ e ∈ entries, key e ≠ key a) :
    Greatest key lt (offered ++ [a]) (entries ++ [a]) := by
  refine ⟨?_, ?_, ?_⟩
  · rw [List.map_append, List.nodup_append]
    refine ⟨h.distinct, List.nodup_singleton _, ?_⟩
    intro k hk k' hk' hsame
    obtain ⟨e, he, rfl⟩ := List.mem_map.mp hk
    rw [List.map_singleton, List.mem_singleton] at hk'
    exact hfree e he (hsame.trans hk')
  · intro e he
    rcases List.mem_append.mp he with hold | hnew
    · exact List.mem_append_left _ (h.offers e hold)
    · exact List.mem_append_right _ hnew
  · intro b hb
    rcases List.mem_append.mp hb with hold | hnew
    · exact (h.covers b hold).push [a]
    · rw [List.mem_singleton.mp hnew]
      exact ⟨a, List.mem_append_right _ (List.mem_singleton_self a), rfl, Or.inl rfl⟩

/-- A greater element of a known key takes the place of its entry. -/
theorem Greatest.replace (htrans : ∀ a b c, lt a b → lt b c → lt a c) {offered entries : List α}
    {a : α} (h : Greatest key lt offered entries) {index : Nat} {old : α}
    (hindex : entries[index]? = some old) (hkey : key old = key a) (hlt : lt old a) :
    Greatest key lt (offered ++ [a]) (entries.set index a) := by
  have hrange := (List.getElem?_eq_some_iff.mp hindex).1
  have hnew : a ∈ entries.set index a := by
    have hself : (entries.set index a)[index]? = some a := List.getElem?_set_self hrange
    exact List.mem_of_getElem? hself
  refine ⟨?_, ?_, ?_⟩
  · have hmap : (entries.set index a).map key = entries.map key := by
      rw [List.map_set, ← hkey]
      refine List.ext_getElem? ?_
      intro i
      by_cases hhere : index = i
      · rw [← hhere, List.getElem?_set_self (by rw [List.length_map]; exact hrange),
          List.getElem?_map, hindex]
        simp
      · rw [List.getElem?_set_ne hhere]
    rw [hmap]
    exact h.distinct
  · intro e he
    rcases List.mem_or_eq_of_mem_set he with hold | hsame
    · exact List.mem_append_left _ (h.offers e hold)
    · rw [hsame]
      exact List.mem_append_right _ (List.mem_singleton_self a)
  · intro b hb
    rcases List.mem_append.mp hb with hold | hlast
    · exact (h.covers b hold).replace htrans hindex hkey hlt
    · rw [List.mem_singleton.mp hlast]
      exact ⟨a, hnew, rfl, Or.inl rfl⟩

/-- Nothing that was offered for a key is above its entry. -/
theorem Greatest.le {offered entries : List α} (h : Greatest key lt offered entries) {e a : α}
    (he : e ∈ entries) (ha : a ∈ offered) (hkey : key e = key a) : a = e ∨ lt a e := by
  obtain ⟨found, hfound, hsame, hcovers⟩ := h.covers a ha
  have heq : found = e := eq_of_key h.distinct hfound he (hsame.trans hkey.symm)
  rw [heq] at hcovers
  exact hcovers

/-- The same offers have the same greatest elements, in whatever order they came. -/
theorem Greatest.perm (hasymm : ∀ a b, lt a b → ¬lt b a)
    {offered entries offered' entries' : List α} (h : Greatest key lt offered entries)
    (h' : Greatest key lt offered' entries') (hsame : ∀ a, a ∈ offered ↔ a ∈ offered') :
    entries.Perm entries' := by
  have hsub : ∀ {offered entries offered' entries' : List α}, Greatest key lt offered entries →
      Greatest key lt offered' entries' → (∀ a, a ∈ offered ↔ a ∈ offered') →
      ∀ e ∈ entries, e ∈ entries' := by
    intro offered entries offered' entries' h h' hsame e he
    obtain ⟨e', he', hkey, hcovers⟩ := h'.covers e ((hsame e).mp (h.offers e he))
    rcases hcovers with heq | hbelow
    · rw [heq]
      exact he'
    · rcases h.le he ((hsame e').mpr (h'.offers e' he')) hkey.symm with heq | habove
      · rw [heq] at he'
        exact he'
      · exact absurd habove (hasymm e e' hbelow)
  refine (List.perm_ext_iff_of_nodup h.distinct.of_map h'.distinct.of_map).mpr ?_
  intro e
  constructor
  · exact hsub h h' hsame e
  · exact hsub h' h (fun a => (hsame a).symm) e

end KeyedMax
