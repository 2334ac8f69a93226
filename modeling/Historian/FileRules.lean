import Historian.Files

namespace Files

variable {ν β ε α γ : Type} [DecidableEq ν]

theorem lookup_put (d : Directory ν β) (name other : ν) (content : β) :
    (Effect.apply d (.put name content)).lookup other =
      if other = name then some content else d.lookup other := by
  change (d.insert name content).lookup other = _
  split
  next h => rw [h, Finmap.lookup_insert]
  next h => rw [Finmap.lookup_insert_of_ne _ h]

theorem lookup_remove (d : Directory ν β) (name other : ν) :
    (Effect.apply d (.remove name)).lookup other =
      if other = name then none else d.lookup other := by
  change (d.erase name).lookup other = _
  split
  next h => rw [h, Finmap.lookup_erase]
  next h => rw [Finmap.lookup_erase_ne h]

/-- The renamed file is found under its new name; the old one is free. -/
theorem lookup_rename {d : Directory ν β} {source target : ν} {content : β}
    (h : d.lookup source = some content) (other : ν) :
    (Effect.apply d (.rename source target)).lookup other =
      if other = target then some content
      else if other = source then none else d.lookup other := by
  have happly : Effect.apply d (.rename source target) =
      (d.erase source).insert target content := by
    rw [Effect.apply, h]
  rw [happly]
  split
  next heq => rw [heq, Finmap.lookup_insert]
  next hne =>
    rw [Finmap.lookup_insert_of_ne _ hne]
    split
    next heq => rw [heq, Finmap.lookup_erase]
    next hsource => rw [Finmap.lookup_erase_ne hsource]

/-- Whether an effect can change what is found under a name. -/
def Effect.Touches : Effect ν β → ν → Prop
  | .put name _, other => other = name
  | .rename source target, other => other = source ∨ other = target
  | .remove name, other => other = name

theorem lookup_untouched {d : Directory ν β} {effect : Effect ν β} {name : ν}
    (h : ¬effect.Touches name) : (effect.apply d).lookup name = d.lookup name := by
  cases effect with
  | put other content =>
    rw [lookup_put]
    exact if_neg h
  | remove other =>
    rw [lookup_remove]
    exact if_neg h
  | rename source target =>
    obtain ⟨hsource, htarget⟩ := not_or.mp h
    cases hfound : d.lookup source with
    | none => rw [Effect.apply, hfound]
    | some content => rw [lookup_rename hfound, if_neg htarget, if_neg hsource]

theorem lookup_applyAll_untouched {d : Directory ν β} {effects : List (Effect ν β)} {name : ν}
    (h : ∀ effect ∈ effects, ¬effect.Touches name) :
    (applyAll d effects).lookup name = d.lookup name := by
  induction effects generalizing d with
  | nil => rfl
  | cons effect rest ih =>
    rw [applyAll_cons, ih fun other hother => h other (List.mem_cons_of_mem _ hother),
      lookup_untouched (h effect List.mem_cons_self)]

/-- The directory satisfies `P` wherever a run through the effects stops. -/
def Throughout (P : Directory ν β → Prop) : Directory ν β → List (Effect ν β) → Prop
  | d, [] => P d
  | d, effect :: rest => P d ∧ Throughout P (effect.apply d) rest

theorem throughout_head {P : Directory ν β → Prop} {d : Directory ν β}
    {effects : List (Effect ν β)} (h : Throughout P d effects) : P d := by
  cases effects with
  | nil => exact h
  | cons effect rest => exact h.1

theorem throughout_append {P : Directory ν β → Prop} {d : Directory ν β}
    {first second : List (Effect ν β)} :
    Throughout P d (first ++ second) ↔
      Throughout P d first ∧ Throughout P (applyAll d first) second := by
  induction first generalizing d with
  | nil =>
    rw [List.nil_append, applyAll_nil]
    exact ⟨fun h => ⟨throughout_head h, h⟩, fun h => h.2⟩
  | cons effect rest ih =>
    rw [List.cons_append, Throughout, Throughout, ih, applyAll_cons, and_assoc]

theorem Throughout.after {P : Directory ν β → Prop} {d : Directory ν β}
    {effects : List (Effect ν β)} (h : Throughout P d effects) : P (applyAll d effects) := by
  induction effects generalizing d with
  | nil => exact h
  | cons effect rest ih => exact ih h.2

/-- Every stop of a run leaves what the first effects up to it have made. -/
theorem throughout_iff {P : Directory ν β → Prop} {d : Directory ν β}
    {effects : List (Effect ν β)} :
    Throughout P d effects ↔ ∀ done, done <+: effects → P (applyAll d done) := by
  constructor
  · intro h done hdone
    obtain ⟨rest, rfl⟩ := hdone
    exact (throughout_append.mp h).1.after
  · intro h
    induction effects generalizing d with
    | nil => exact h [] (List.prefix_refl _)
    | cons effect rest ih =>
      refine ⟨h [] List.nil_prefix, ih ?_⟩
      intro done hdone
      exact h (effect :: done) ((List.prefix_cons_inj effect).mpr hdone)

theorem Throughout.mono {P Q : Directory ν β → Prop} {d : Directory ν β}
    {effects : List (Effect ν β)} (hPQ : ∀ d, P d → Q d) (h : Throughout P d effects) :
    Throughout Q d effects := by
  induction effects generalizing d with
  | nil => exact hPQ d h
  | cons effect rest ih => exact ⟨hPQ d h.1, ih h.2⟩

/-- From `d` the program keeps `P` at every stop, and ends in `Q` when it succeeds. -/
structure Action.Ensures (P : Directory ν β → Prop) (a : Action ν β ε α)
    (Q : α → Directory ν β → Prop) (d : Directory ν β) : Prop where
  throughout : Throughout P d (a d).2
  result : ∀ x, (a d).1 = .ok x → Q x (applyAll d (a d).2)

section Rules

variable {P : Directory ν β → Prop} {d : Directory ν β}

theorem ensures_pure {x : α} {Q : α → Directory ν β → Prop} (hP : P d) (hQ : Q x d) :
    Action.Ensures P (pure x : Action ν β ε α) Q d := by
  refine ⟨hP, ?_⟩
  intro y hy
  cases hy
  exact hQ

theorem ensures_look {r : Directory ν β → Except ε α} {Q : α → Directory ν β → Prop} (hP : P d)
    (hQ : ∀ x, r d = .ok x → Q x d) : Action.Ensures P (look r) Q d := ⟨hP, hQ⟩

theorem ensures_emit {effect : Effect ν β} {Q : Unit → Directory ν β → Prop} (hP : P d)
    (hnext : P (effect.apply d)) (hQ : Q () (effect.apply d)) :
    Action.Ensures P (emit effect : Action ν β ε Unit) Q d :=
  ⟨⟨hP, hnext⟩, fun _ _ => hQ⟩

theorem ensures_bind {a : Action ν β ε α} {k : α → Action ν β ε γ}
    {R : α → Directory ν β → Prop} {Q : γ → Directory ν β → Prop}
    (ha : Action.Ensures P a R d) (hk : ∀ x d', R x d' → Action.Ensures P (k x) Q d') :
    Action.Ensures P (a >>= k) Q d := by
  obtain ⟨hthroughout, hresult⟩ := ha
  have hrun := run_bind a k d
  rcases h : a d with ⟨r, effects⟩
  rw [h] at hthroughout hresult hrun
  cases r with
  | error e =>
    dsimp only at hrun
    refine ⟨?_, ?_⟩
    · rw [hrun]
      exact hthroughout
    · rw [hrun]
      intro x hx
      cases hx
  | ok x =>
    have hnext := hk x _ (hresult x rfl)
    dsimp only at hrun hnext
    refine ⟨?_, ?_⟩
    · rw [hrun]
      exact throughout_append.mpr ⟨hthroughout, hnext.throughout⟩
    · rw [hrun]
      intro y hy
      rw [applyAll_append]
      exact hnext.result y hy

theorem ensures_look_bind {r : Directory ν β → Except ε α} {k : α → Action ν β ε γ}
    {Q : γ → Directory ν β → Prop} (hP : P d)
    (hk : ∀ x, r d = .ok x → Action.Ensures P (k x) Q d) :
    Action.Ensures P (look r >>= k) Q d := by
  have hlook : Action.Ensures P (look r) (fun x d' => r d = .ok x ∧ d' = d) d :=
    ensures_look hP fun x hx => ⟨hx, rfl⟩
  refine ensures_bind hlook ?_
  intro x d' hx
  rw [hx.2]
  exact hk x hx.1

theorem ensures_ensure_bind {r : Except ε α} {k : α → Action ν β ε γ}
    {Q : γ → Directory ν β → Prop} (hP : P d)
    (hk : ∀ x, r = .ok x → Action.Ensures P (k x) Q d) :
    Action.Ensures P (ensure r >>= k) Q d := ensures_look_bind hP hk

theorem ensures_emit_bind {effect : Effect ν β} {k : Unit → Action ν β ε γ}
    {Q : γ → Directory ν β → Prop} (hP : P d)
    (hk : Action.Ensures P (k ()) Q (effect.apply d)) :
    Action.Ensures P (emit effect >>= k) Q d := by
  have hnext := throughout_head hk.throughout
  have hemit : Action.Ensures P (emit effect : Action ν β ε Unit)
      (fun _ d' => d' = effect.apply d) d := ensures_emit hP hnext rfl
  refine ensures_bind hemit ?_
  intro x d' hd'
  rw [hd']
  exact hk

theorem Action.Ensures.mono {a : Action ν β ε α} {Q R : α → Directory ν β → Prop}
    (h : Action.Ensures P a Q d) (hQR : ∀ x d', Q x d' → R x d') : Action.Ensures P a R d :=
  ⟨h.throughout, fun x hx => hQR x _ (h.result x hx)⟩

theorem ensures_removeIfPresent {name : ν} {Q : Unit → Directory ν β → Prop} (hP : P d)
    (hnext : P (Effect.apply d (.remove name))) (hsame : d.lookup name = none → Q () d)
    (hQ : Q () (Effect.apply d (.remove name))) :
    Action.Ensures P (removeIfPresent name : Action ν β ε Unit) Q d := by
  unfold removeIfPresent
  cases h : d.lookup name with
  | none =>
    refine ⟨?_, fun _ _ => ?_⟩
    · simpa [h, Throughout] using hP
    · simpa [h] using hsame h
  | some content =>
    refine ⟨?_, fun _ _ => ?_⟩
    · simpa [h, Throughout] using And.intro hP hnext
    · simpa [h] using hQ

end Rules

/-- None of the program's changes touches a name of `S`. -/
def Action.Avoids (S : ν → Prop) (a : Action ν β ε α) : Prop :=
  ∀ d, ∀ effect ∈ (a d).2, ∀ name, S name → ¬effect.Touches name

section Avoidance

variable {S : ν → Prop}

omit [DecidableEq ν] in
theorem avoids_look (r : Directory ν β → Except ε α) : Action.Avoids S (look r) := by
  intro d effect heffect
  cases heffect

omit [DecidableEq ν] in
theorem avoids_ensure (r : Except ε α) : Action.Avoids S (ensure r : Action ν β ε α) :=
  avoids_look fun _ => r

theorem avoids_pure (x : α) : Action.Avoids S (pure x : Action ν β ε α) :=
  avoids_look fun _ => .ok x

omit [DecidableEq ν] in
theorem avoids_emit {effect : Effect ν β} (h : ∀ name, S name → ¬effect.Touches name) :
    Action.Avoids S (emit effect : Action ν β ε Unit) := by
  intro d other hother
  have heq : other = effect := List.mem_singleton.mp hother
  rw [heq]
  exact h

theorem avoids_bind {a : Action ν β ε α} {k : α → Action ν β ε γ} (ha : a.Avoids S)
    (hk : ∀ x, (k x).Avoids S) : Action.Avoids S (a >>= k) := by
  intro d effect heffect
  have hrun := run_bind a k d
  have hfirst := ha d
  rcases h : a d with ⟨r, effects⟩
  rw [h] at hrun hfirst
  rw [hrun] at heffect
  cases r with
  | error e => exact hfirst effect heffect
  | ok x =>
    rcases List.mem_append.mp heffect with hmem | hmem
    · exact hfirst effect hmem
    · exact hk x _ effect hmem

omit [DecidableEq ν] in
theorem avoids_mapError {ε' : Type} {a : Action ν β ε α} {f : ε → ε'} (h : a.Avoids S) :
    (a.mapError f).Avoids S := h

theorem avoids_removeEach {names : List ν} (h : ∀ name ∈ names, ¬S name) :
    Action.Avoids S (removeEach names : Action ν β ε Unit) := by
  induction names with
  | nil => exact avoids_pure ()
  | cons name rest ih =>
    refine avoids_bind ?_ fun _ => ih fun other hother => h other (List.mem_cons_of_mem _ hother)
    intro d effect heffect other hother
    unfold removeIfPresent at heffect
    split at heffect
    next =>
      rw [List.mem_singleton.mp heffect]
      rintro rfl
      exact h _ List.mem_cons_self hother
    next => cases heffect

/-- Wherever the program stops, the names of `S` are as they were. -/
theorem Action.Avoids.lookup {a : Action ν β ε α} (h : a.Avoids S) {d : Directory ν β}
    {done : List (Effect ν β)} (hdone : done <+: (a d).2) {name : ν} (hname : S name) :
    (applyAll d done).lookup name = d.lookup name := by
  apply lookup_applyAll_untouched
  intro effect heffect
  exact h d effect (hdone.subset heffect) name hname

/-- A program that avoids all names that `P` depends on keeps `P` at every stop. -/
theorem Action.Avoids.ensures {a : Action ν β ε α} (h : a.Avoids S) {P : Directory ν β → Prop}
    {d : Directory ν β}
    (hP : ∀ d', (∀ name, S name → d'.lookup name = d.lookup name) → P d') :
    Action.Ensures P a (fun _ d' => ∀ name, S name → d'.lookup name = d.lookup name) d := by
  refine ⟨throughout_iff.mpr ?_, ?_⟩
  · intro done hdone
    exact hP _ fun name hname => h.lookup hdone hname
  · intro x _ name hname
    exact h.lookup (List.prefix_refl _) hname

end Avoidance

/-- A program fails in the read in front of it, or behind it. -/
theorem look_bind_error {r : Directory ν β → Except ε α} {k : α → Action ν β ε γ}
    {d : Directory ν β} {e : ε} (h : ((look r >>= k) d).1 = .error e) :
    r d = .error e ∨ ∃ x, r d = .ok x ∧ (k x d).1 = .error e := by
  rw [run_look_bind] at h
  cases hr : r d with
  | error e' =>
    rw [hr] at h
    cases h
    exact Or.inl rfl
  | ok x =>
    rw [hr] at h
    exact Or.inr ⟨x, rfl, h⟩

theorem ensure_bind_error {r : Except ε α} {k : α → Action ν β ε γ} {d : Directory ν β} {e : ε}
    (h : ((ensure r >>= k) d).1 = .error e) :
    r = .error e ∨ ∃ x, r = .ok x ∧ (k x d).1 = .error e := look_bind_error h

/-- Whatever the directory, a value that the program ends with satisfies `Q`. -/
def Action.Yields (a : Action ν β ε α) (Q : α → Prop) : Prop := ∀ d x, (a d).1 = .ok x → Q x

section Values

variable {Q : α → Prop} {R : γ → Prop}

theorem yields_pure {x : α} (h : Q x) : Action.Yields (pure x : Action ν β ε α) Q := by
  intro d y hy
  cases hy
  exact h

theorem yields_bind {a : Action ν β ε α} {k : α → Action ν β ε γ} (ha : a.Yields Q)
    (hk : ∀ x, Q x → (k x).Yields R) : Action.Yields (a >>= k) R := by
  intro d y hy
  have hrun := run_bind a k d
  rcases h : a d with ⟨r, effects⟩
  rw [h] at hrun
  rw [hrun] at hy
  cases r with
  | error e => cases hy
  | ok x => exact hk x (ha d x (by rw [h])) _ y hy

/-- A first part of which nothing is needed. -/
theorem yields_then {a : Action ν β ε α} {k : α → Action ν β ε γ} (hk : ∀ x, (k x).Yields R) :
    Action.Yields (a >>= k) R :=
  yields_bind (Q := fun _ => True) (fun _ _ _ => trivial) fun x _ => hk x

omit [DecidableEq ν] in
theorem yields_mapError {ε' : Type} {a : Action ν β ε α} {f : ε → ε'} (h : a.Yields Q) :
    (a.mapError f).Yields Q := by
  intro d x hx
  apply h d x
  unfold Action.mapError at hx
  cases hr : (a d).1 with
  | error e =>
    rw [hr] at hx
    cases hx
  | ok y =>
    rw [hr] at hx
    cases hx
    rfl

end Values

section Composition

variable {P P' : Directory ν β → Prop} {Q Q' : α → Directory ν β → Prop} {d : Directory ν β}

theorem Action.Ensures.weaken {a : Action ν β ε α} (h : Action.Ensures P a Q d)
    (hP : ∀ d', P d' → P' d') (hQ : ∀ x d', Q x d' → Q' x d') : Action.Ensures P' a Q' d :=
  ⟨h.throughout.mono hP, fun x hx => hQ x _ (h.result x hx)⟩

theorem Action.Ensures.and {a : Action ν β ε α} (h : Action.Ensures P a Q d)
    (h' : Action.Ensures P' a Q' d) :
    Action.Ensures (fun d' => P d' ∧ P' d') a (fun x d' => Q x d' ∧ Q' x d') d := by
  refine ⟨throughout_iff.mpr ?_, fun x hx => ⟨h.result x hx, h'.result x hx⟩⟩
  intro done hdone
  exact ⟨throughout_iff.mp h.throughout done hdone, throughout_iff.mp h'.throughout done hdone⟩

/-- The names that a program avoids are, at every stop and at its end, as they were. -/
theorem Action.Ensures.frame {a : Action ν β ε α} {S : ν → Prop} (h : Action.Ensures P a Q d)
    (havoids : a.Avoids S) :
    Action.Ensures (fun d' => P d' ∧ ∀ name, S name → d'.lookup name = d.lookup name) a
      (fun x d' => Q x d' ∧ ∀ name, S name → d'.lookup name = d.lookup name) d :=
  h.and (havoids.ensures fun _ hsame => hsame)

theorem Action.Ensures.yields {a : Action ν β ε α} {R : α → Prop} (h : Action.Ensures P a Q d)
    (hyields : a.Yields R) : Action.Ensures P a (fun x d' => Q x d' ∧ R x) d :=
  ⟨h.throughout, fun x hx => ⟨h.result x hx, hyields d x hx⟩⟩

end Composition

/-- Whatever the directory, an error that the program ends with satisfies `P`. -/
def Action.Raises (a : Action ν β ε α) (P : ε → Prop) : Prop := ∀ d e, (a d).1 = .error e → P e

section Errors

variable {P : ε → Prop}

omit [DecidableEq ν] in
theorem raises_look {r : Directory ν β → Except ε α} (h : ∀ d, Checks.Fails (r d) P) :
    Action.Raises (look r) P := h

omit [DecidableEq ν] in
theorem raises_ensure {r : Except ε α} (h : Checks.Fails r P) :
    Action.Raises (ensure r : Action ν β ε α) P := fun _ => h

theorem raises_pure (x : α) : Action.Raises (pure x : Action ν β ε α) P := by
  intro d e he
  cases he

omit [DecidableEq ν] in
theorem raises_emit (effect : Effect ν β) : Action.Raises (emit effect : Action ν β ε Unit) P := by
  intro d e he
  cases he

theorem raises_bind {a : Action ν β ε α} {k : α → Action ν β ε γ} (ha : a.Raises P)
    (hk : ∀ x, (k x).Raises P) : Action.Raises (a >>= k) P := by
  intro d e he
  have hrun := run_bind a k d
  rcases h : a d with ⟨r, effects⟩
  rw [h] at hrun
  rw [hrun] at he
  cases r with
  | error e' =>
    cases he
    apply ha d e
    rw [h]
  | ok x => exact hk x _ e he

theorem raises_removeEach (names : List ν) :
    Action.Raises (removeEach names : Action ν β ε Unit) P := by
  induction names with
  | nil => exact raises_pure ()
  | cons name rest ih =>
    refine raises_bind ?_ fun _ => ih
    intro d e he
    cases he

omit [DecidableEq ν] in
theorem raises_mapError {ε' : Type} {a : Action ν β ε α} {f : ε → ε'} {P : ε' → Prop}
    (h : a.Raises fun e => P (f e)) : (a.mapError f).Raises P := by
  intro d e he
  obtain ⟨e', he', rfl⟩ := Checks.mapError_error.mp he
  exact h d e' he'

end Errors

end Files
