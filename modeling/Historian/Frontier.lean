import Mathlib

namespace Frontier

variable {α : Type} [DecidableEq α] {next : α → List α}

/-- The nodes that a search has met, and those among them that it has still to expand. -/
structure State (α : Type) where
  visited : Finset α
  queue : List α

def State.push (state : State α) (x : α) : State α :=
  if x ∈ state.visited then state else ⟨insert x state.visited, state.queue ++ [x]⟩

def State.pushAll (state : State α) (xs : List α) : State α := xs.foldl State.push state

/-- The nodes that are expanded in so many rounds, and the state behind these. -/
def expand (next : α → List α) : Nat → State α → List α × State α
  | 0, state => ([], state)
  | fuel + 1, state =>
    match state.queue with
    | [] => ([], state)
    | x :: rest =>
      let found := expand next fuel (State.pushAll ⟨state.visited, rest⟩ (next x))
      (x :: found.1, found.2)

/-- The nodes behind a node, with the node itself. -/
def Reaches (next : α → List α) : α → α → Prop := Relation.ReflTransGen fun x y => y ∈ next x

theorem mem_visited_pushAll {state : State α} {xs : List α} {y : α} :
    y ∈ (state.pushAll xs).visited ↔ y ∈ state.visited ∨ y ∈ xs := by
  induction xs generalizing state with
  | nil => exact (or_iff_left List.not_mem_nil).symm
  | cons x xs ih =>
    change y ∈ ((state.push x).pushAll xs).visited ↔ _
    rw [ih, List.mem_cons]
    unfold State.push
    split
    next hx =>
      constructor
      · rintro (h | h)
        · exact Or.inl h
        · exact Or.inr (Or.inr h)
      · rintro (h | rfl | h)
        · exact Or.inl h
        · exact Or.inl hx
        · exact Or.inr h
    next hx =>
      rw [Finset.mem_insert]
      constructor
      · rintro ((h | h) | h)
        · exact Or.inr (Or.inl h)
        · exact Or.inl h
        · exact Or.inr (Or.inr h)
      · rintro (h | h | h)
        · exact Or.inl (Or.inr h)
        · exact Or.inl (Or.inl h)
        · exact Or.inr h

/-- What is pushed and was not met before waits behind the rest of the queue. -/
theorem queue_pushAll (state : State α) (xs : List α) : ∃ added,
    (state.pushAll xs).queue = state.queue ++ added ∧
      ∀ y, y ∈ added ↔ y ∈ xs ∧ y ∉ state.visited := by
  induction xs generalizing state with
  | nil => exact ⟨[], (List.append_nil _).symm, by simp⟩
  | cons x xs ih =>
    change ∃ added, ((state.push x).pushAll xs).queue = _ ∧ _
    by_cases hx : x ∈ state.visited
    · have hpush : state.push x = state := if_pos hx
      obtain ⟨added, hqueue, hadded⟩ := ih state
      rw [hpush]
      refine ⟨added, hqueue, ?_⟩
      intro y
      rw [hadded, List.mem_cons]
      constructor
      · exact fun h => ⟨Or.inr h.1, h.2⟩
      · rintro ⟨rfl | h, hnew⟩
        · exact absurd hx hnew
        · exact ⟨h, hnew⟩
    · have hpush : state.push x = ⟨insert x state.visited, state.queue ++ [x]⟩ := if_neg hx
      obtain ⟨added, hqueue, hadded⟩ := ih ⟨insert x state.visited, state.queue ++ [x]⟩
      rw [hpush]
      refine ⟨x :: added, ?_, ?_⟩
      · rw [hqueue, List.append_assoc]
        rfl
      · intro y
        rw [List.mem_cons, hadded, List.mem_cons, Finset.mem_insert]
        constructor
        · rintro (rfl | ⟨h, hnew⟩)
          · exact ⟨Or.inl rfl, hx⟩
          · exact ⟨Or.inr h, fun hvisited => hnew (Or.inr hvisited)⟩
        · rintro ⟨rfl | h, hnew⟩
          · exact Or.inl rfl
          · by_cases heq : y = x
            · exact Or.inl heq
            · exact Or.inr ⟨h, fun hor => hor.elim heq hnew⟩

/-- Pushing takes from the nodes not met what it adds to the queue. -/
theorem measure_pushAll {nodes : Finset α} {state : State α} {xs : List α}
    (hxs : ∀ x ∈ xs, x ∈ nodes) :
    (nodes \ (state.pushAll xs).visited).card + (state.pushAll xs).queue.length =
      (nodes \ state.visited).card + state.queue.length := by
  induction xs generalizing state with
  | nil => rfl
  | cons x xs ih =>
    obtain ⟨hx, hrest⟩ := List.forall_mem_cons.mp hxs
    change (nodes \ ((state.push x).pushAll xs).visited).card +
      ((state.push x).pushAll xs).queue.length = _
    rw [ih hrest]
    unfold State.push
    split
    next => rfl
    next hnew =>
      have hmem : x ∈ nodes \ state.visited := Finset.mem_sdiff.mpr ⟨hx, hnew⟩
      have hcard := Finset.card_erase_of_mem hmem
      have hpositive := Finset.card_pos.mpr ⟨x, hmem⟩
      rw [Finset.sdiff_insert, List.length_append, List.length_singleton, hcard]
      omega

/-- In as many rounds as there are nodes to be met or expanded, the queue is used up. -/
theorem expand_exhausts {nodes : Finset α}
    (hnext : ∀ x ∈ nodes, ∀ y ∈ next x, y ∈ nodes) {fuel : Nat} {state : State α}
    (hqueue : ∀ x ∈ state.queue, x ∈ nodes)
    (hfuel : (nodes \ state.visited).card + state.queue.length ≤ fuel) :
    (expand next fuel state).2.queue = [] := by
  induction fuel generalizing state with
  | zero =>
    change state.queue = []
    exact List.eq_nil_of_length_eq_zero (by omega)
  | succ fuel ih =>
    unfold expand
    cases hq : state.queue with
    | nil => exact hq
    | cons x rest =>
      rw [hq] at hqueue hfuel
      obtain ⟨hx, hrest⟩ := List.forall_mem_cons.mp hqueue
      apply ih
      · intro y hy
        obtain ⟨added, heq, hadded⟩ := queue_pushAll ⟨state.visited, rest⟩ (next x)
        rw [heq] at hy
        rcases List.mem_append.mp hy with hy | hy
        · exact hrest y hy
        · exact hnext x hx y ((hadded y).mp hy).1
      · rw [measure_pushAll (hnext x hx)]
        rw [List.length_cons] at hfuel
        change (nodes \ state.visited).card + rest.length ≤ fuel
        omega

/-- What is expanded was met before it, or is behind something that was. -/
theorem expanded_of_queue {P : α → Prop} (hnext : ∀ x, P x → ∀ y ∈ next x, P y) {fuel : Nat}
    {state : State α} (hqueue : ∀ x ∈ state.queue, P x) :
    ∀ x ∈ (expand next fuel state).1, P x := by
  induction fuel generalizing state with
  | zero => exact fun x hx => absurd hx List.not_mem_nil
  | succ fuel ih =>
    unfold expand
    cases hq : state.queue with
    | nil => exact fun x hx => absurd hx List.not_mem_nil
    | cons x rest =>
      rw [hq] at hqueue
      obtain ⟨hx, hrest⟩ := List.forall_mem_cons.mp hqueue
      rw [List.forall_mem_cons]
      refine ⟨hx, ih ?_⟩
      intro y hy
      obtain ⟨added, heq, hadded⟩ := queue_pushAll ⟨state.visited, rest⟩ (next x)
      rw [heq] at hy
      rcases List.mem_append.mp hy with hy | hy
      · exact hrest y hy
      · exact hnext x hx y ((hadded y).mp hy).1

/-- A search that ends has expanded its queue and whatever is behind an expanded node. -/
theorem expanded_closed {fuel : Nat} {state : State α}
    (hend : (expand next fuel state).2.queue = []) :
    (∀ x ∈ state.queue, x ∈ (expand next fuel state).1) ∧
      ∀ x ∈ (expand next fuel state).1, ∀ y ∈ next x,
        y ∈ state.visited ∨ y ∈ (expand next fuel state).1 := by
  induction fuel generalizing state with
  | zero =>
    change state.queue = [] at hend
    rw [hend]
    exact ⟨fun x hx => absurd hx List.not_mem_nil, fun x hx => absurd hx List.not_mem_nil⟩
  | succ fuel ih =>
    unfold expand at hend ⊢
    cases hq : state.queue with
    | nil => exact ⟨fun x hx => absurd hx List.not_mem_nil, fun x hx => absurd hx List.not_mem_nil⟩
    | cons x rest =>
      rw [hq] at hend
      obtain ⟨hqueue, hclosed⟩ := ih hend
      obtain ⟨added, heq, hadded⟩ := queue_pushAll ⟨state.visited, rest⟩ (next x)
      rw [heq] at hqueue
      -- a node behind `x` was met before, or is expanded in a later round
      have hbehind : ∀ y ∈ next x, y ∈ state.visited ∨
          y ∈ (expand next fuel (State.pushAll ⟨state.visited, rest⟩ (next x))).1 := by
        intro y hy
        by_cases hmet : y ∈ state.visited
        · exact Or.inl hmet
        · exact Or.inr (hqueue y (List.mem_append_right _ ((hadded y).mpr ⟨hy, hmet⟩)))
      constructor
      · intro y hy
        rcases List.mem_cons.mp hy with rfl | hy
        · exact List.mem_cons_self
        · exact List.mem_cons_of_mem _ (hqueue y (List.mem_append_left _ hy))
      · intro z hz y hy
        have hmet : y ∈ state.visited ∨
            y ∈ (expand next fuel (State.pushAll ⟨state.visited, rest⟩ (next x))).1 := by
          rcases List.mem_cons.mp hz with rfl | hz
          · exact hbehind y hy
          · rcases hclosed z hz y hy with hvisited | hexpanded
            · rcases mem_visited_pushAll.mp hvisited with hvisited | hpushed
              · exact Or.inl hvisited
              · exact hbehind y hpushed
            · exact Or.inr hexpanded
        exact hmet.imp_right (List.mem_cons_of_mem _)

/-- A search from one node expands the nodes behind it. -/
theorem mem_expanded {root x : α} {fuel : Nat}
    (hend : (expand next fuel ⟨{root}, [root]⟩).2.queue = []) :
    x ∈ (expand next fuel ⟨{root}, [root]⟩).1 ↔ Reaches next root x := by
  constructor
  · intro h
    refine expanded_of_queue ?_ ?_ x h
    · intro y hy z hz
      exact Relation.ReflTransGen.tail hy hz
    · intro y hy
      rw [List.mem_singleton.mp hy]
      exact Relation.ReflTransGen.refl
  · intro h
    obtain ⟨hqueue, hclosed⟩ := expanded_closed hend
    have hroot := hqueue root (List.mem_singleton_self root)
    induction h with
    | refl => exact hroot
    | tail _ hstep ih =>
      rcases hclosed _ ih _ hstep with hmet | hexpanded
      · rw [Finset.mem_singleton.mp hmet]
        exact hroot
      · exact hexpanded

end Frontier
