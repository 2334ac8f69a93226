import Historian.PolicyGraph

namespace Historian.Policy

open Historian

def noteIf (c : Prop) [Decidable c] (message : Text) (violations : TextSet) : TextSet :=
  if c then insert message violations else violations

/-- Two names with an arrow between them. -/
def arrow (source target : Text) : Text := source ++ (" -> ".toList ++ target)

def checkDependencyFree (config : PolicyConfig) (byName : List (Text × PackageNode))
    (violations : TextSet) (name : Text) : TextSet :=
  if name ∉ config.native then
    insert ("dependency-free package ".toList ++ (quoted name ++
      " is not configured as native".toList)) violations
  else
    match named byName name with
    | none => violations
    | some package =>
      noteIf (package.dependencies ≠ []) ("dependency-free native package ".toList ++
        (quoted name ++ " has resolved dependencies".toList)) violations

/-- The checks of an exception, with the pairs that have been met before it. -/
def checkException (config : PolicyConfig) (state : List (Text × Text) × TextSet)
    (exception : ForbiddenDependencyException) : List (Text × Text) × TextSet :=
  let edge := quoted (arrow exception.source exception.target)
  let violations := noteIf ((exception.source, exception.target) ∈ state.1)
    ("forbidden dependency exception ".toList ++ (edge ++ " is duplicated".toList)) state.2
  let violations := noteIf (exception.source ∉ config.native)
    ("forbidden dependency exception source ".toList ++ (quoted exception.source ++
      " is not a native package".toList)) violations
  let violations := noteIf (isForbidden exception.target config = false)
    ("forbidden dependency exception target ".toList ++ (quoted exception.target ++
      " is not forbidden".toList)) violations
  let violations := noteIf (exception.defaultFeatures = true)
    ("forbidden dependency exception ".toList ++ (edge ++
      " must disable default features".toList)) violations
  let violations := noteIf (exception.features = ∅)
    ("forbidden dependency exception ".toList ++ (edge ++
      " must name at least one allowed feature".toList)) violations
  ((exception.source, exception.target) :: state.1, violations)

def validateDependencyLaws (graph : PackageGraph) (byName : List (Text × PackageNode))
    (violations : TextSet) : TextSet :=
  let config := graph.config
  let violations := noteIf (config.dependencyFreeNative = ∅)
    "policy must explicitly name at least one dependency-free native package".toList violations
  let violations :=
    (ascending config.dependencyFreeNative).foldl (checkDependencyFree config byName) violations
  (config.exceptions.foldl (checkException config) ([], violations)).2

def configuredRole (configured : List (Text × Role)) (name : Text) : Option Role :=
  (configured.find? (·.1 = name)).map Prod.snd

/-- A name of a policy role; the last role of a name stays. -/
def assignRole (byName : List (Text × PackageNode)) (role : Role)
    (state : List (Text × Role) × TextSet) (name : Text) : List (Text × Role) × TextSet :=
  let violations :=
    match configuredRole state.1 name with
    | none => state.2
    | some previous =>
      insert ("workspace package ".toList ++ (quoted name ++ (" is assigned to both ".toList ++
        (quoted previous.asStr ++ (" and ".toList ++ (quoted role.asStr ++
          " policy roles".toList)))))) state.2
  let violations := noteIf (named byName name = none) ("policy role ".toList ++
    (quoted role.asStr ++ (" names unknown workspace package ".toList ++ quoted name))) violations
  ((name, role) :: state.1, violations)

/-- Native packages and adapters are the product. -/
def checkProduct (package : PackageNode) (violations : TextSet) : TextSet :=
  let violations := noteIf (package.unsafePolicy ≠ some "forbid".toList)
    ("product package ".toList ++ (quoted package.name ++ (" must declare ".toList ++
      quoted "package.metadata.och.unsafe-policy = \"forbid\"".toList))) violations
  noteIf (package.missingDocsPolicy ≠ some "deny".toList)
    ("product package ".toList ++ (quoted package.name ++ (" must declare ".toList ++
      quoted "package.metadata.och.missing-docs-policy = \"deny\"".toList))) violations

def checkDefault (graph : PackageGraph) (package : PackageNode) (declared : Role)
    (violations : TextSet) : TextSet :=
  let isDefault := package.id ∈ graph.defaultMembers
  let violations := noteIf (isDefault ∧ declared ≠ .native)
    ("default workspace member ".toList ++ (quoted package.name ++ (" has role ".toList ++
      (quoted declared.asStr ++
        "; adapters and tooling cannot be implicit defaults".toList)))) violations
  noteIf (declared = .native ∧ ¬isDefault) ("native package ".toList ++ (quoted package.name ++
    " is not selected as a default workspace member".toList)) violations

def checkPackage (graph : PackageGraph) (configured : List (Text × Role)) (violations : TextSet)
    (package : PackageNode) : TextSet :=
  match package.role with
  | none =>
    insert ("workspace package ".toList ++ (quoted package.name ++ (" is missing a valid ".toList ++
      quoted "package.metadata.och.role".toList))) violations
  | some declared =>
    let violations :=
      match configuredRole configured package.name with
      | none =>
        insert ("workspace package ".toList ++ (quoted package.name ++ (" has role ".toList ++
          (quoted declared.asStr ++
            " but is absent from workspace role ownership".toList)))) violations
      | some expected =>
        noteIf (expected ≠ declared) ("workspace package ".toList ++ (quoted package.name ++
          (" declares role ".toList ++ (quoted declared.asStr ++
            (" but policy ownership says ".toList ++ quoted expected.asStr))))) violations
    let violations :=
      if declared = .native ∨ declared = .adapter then checkProduct package violations
      else violations
    checkDefault graph package declared violations

def assignRoles (config : PolicyConfig) (byName : List (Text × PackageNode))
    (violations : TextSet) : List (Text × Role) × TextSet :=
  let state := (ascending config.native).foldl (assignRole byName .native) ([], violations)
  let state := (ascending config.adapters).foldl (assignRole byName .adapter) state
  (ascending config.tools).foldl (assignRole byName .tooling) state

def validateOwnership (graph : PackageGraph) (byName : List (Text × PackageNode))
    (violations : TextSet) : TextSet :=
  let state := assignRoles graph.config byName violations
  (byName.map Prod.snd).foldl (checkPackage graph state.1) state.2

theorem noteIf_empty {c : Prop} [Decidable c] {message : Text} {violations : TextSet} :
    noteIf c message violations = ∅ ↔ violations = ∅ ∧ ¬c := by
  unfold noteIf
  split
  next h =>
    constructor
    · exact fun hempty => absurd hempty (Finset.insert_ne_empty _ _)
    · exact fun hboth => absurd h hboth.2
  next h => exact (and_iff_left h).symm

/-- A loop of checks is silent when each of them is. -/
theorem foldl_empty {α : Type} {step : TextSet → α → TextSet} {P : α → Prop}
    (hstep : ∀ violations x, step violations x = ∅ ↔ violations = ∅ ∧ P x) {xs : List α}
    {violations : TextSet} :
    xs.foldl step violations = ∅ ↔ violations = ∅ ∧ ∀ x ∈ xs, P x := by
  induction xs generalizing violations with
  | nil =>
    rw [List.foldl_nil]
    exact (and_iff_left (List.forall_mem_nil _)).symm
  | cons x xs ih =>
    rw [List.foldl_cons, ih, hstep, List.forall_mem_cons, and_assoc]

theorem checkDependencyFree_empty {config : PolicyConfig} {byName : List (Text × PackageNode)}
    {violations : TextSet} {name : Text} :
    checkDependencyFree config byName violations name = ∅ ↔ violations = ∅ ∧
      name ∈ config.native ∧
        ∀ package, named byName name = some package → package.dependencies = [] := by
  unfold checkDependencyFree
  split
  next h =>
    constructor
    · exact fun hempty => absurd hempty (Finset.insert_ne_empty _ _)
    · exact fun hall => absurd hall.2.1 h
  next h =>
    have hnative := not_not.mp h
    cases named byName name with
    | none =>
      constructor
      · exact fun hempty => ⟨hempty, hnative, fun package h => nomatch h⟩
      · exact fun hall => hall.1
    | some package =>
      simp only [noteIf_empty, not_not, Option.some.injEq, forall_eq']
      constructor
      · exact fun hboth => ⟨hboth.1, hnative, hboth.2⟩
      · exact fun hall => ⟨hall.1, hall.2.2⟩

/-- What an exception has to be. -/
structure LawfulException (config : PolicyConfig) (exception : ForbiddenDependencyException) :
    Prop where
  source : exception.source ∈ config.native
  target : isForbidden exception.target config = true
  defaultFeatures : exception.defaultFeatures = false
  features : exception.features ≠ ∅

theorem checkException_empty {config : PolicyConfig} {state : List (Text × Text) × TextSet}
    {exception : ForbiddenDependencyException} :
    (checkException config state exception).2 = ∅ ↔ state.2 = ∅ ∧
      (exception.source, exception.target) ∉ state.1 ∧ LawfulException config exception := by
  unfold checkException
  simp only [noteIf_empty, not_not, Bool.not_eq_false, Bool.not_eq_true]
  constructor
  · rintro ⟨⟨⟨⟨⟨hempty, hfresh⟩, hsource⟩, htarget⟩, hdefault⟩, hfeatures⟩
    exact ⟨hempty, hfresh, hsource, htarget, hdefault, hfeatures⟩
  · rintro ⟨hempty, hfresh, hsource, htarget, hdefault, hfeatures⟩
    exact ⟨⟨⟨⟨⟨hempty, hfresh⟩, hsource⟩, htarget⟩, hdefault⟩, hfeatures⟩

def ForbiddenDependencyException.pair (exception : ForbiddenDependencyException) : Text × Text :=
  (exception.source, exception.target)

/-- The exceptions are all in order, and no two of them are about the same edge. -/
theorem checkExceptions_empty {config : PolicyConfig}
    {exceptions : List ForbiddenDependencyException} {state : List (Text × Text) × TextSet} :
    (exceptions.foldl (checkException config) state).2 = ∅ ↔ state.2 = ∅ ∧
      (∀ exception ∈ exceptions, LawfulException config exception) ∧
      (exceptions.map ForbiddenDependencyException.pair).Nodup ∧
      ∀ exception ∈ exceptions, exception.pair ∉ state.1 := by
  induction exceptions generalizing state with
  | nil =>
    constructor
    · exact fun h => ⟨h, List.forall_mem_nil _, List.nodup_nil, List.forall_mem_nil _⟩
    · exact fun h => h.1
  | cons exception exceptions ih =>
    have hpairs : (checkException config state exception).1 = exception.pair :: state.1 := rfl
    rw [List.foldl_cons, ih, checkException_empty, hpairs, List.map_cons, List.nodup_cons,
      List.forall_mem_cons, List.forall_mem_cons]
    constructor
    · rintro ⟨⟨hempty, hfresh, hlawful⟩, hall, hnodup, hnew⟩
      refine ⟨hempty, ⟨hlawful, hall⟩, ⟨?_, hnodup⟩, hfresh, ?_⟩
      · intro hmem
        obtain ⟨other, hother, heq⟩ := List.mem_map.mp hmem
        exact hnew other hother (heq ▸ List.mem_cons_self)
      · intro other hother hold
        exact hnew other hother (List.mem_cons_of_mem _ hold)
    · rintro ⟨hempty, ⟨hlawful, hall⟩, ⟨hunique, hnodup⟩, hfresh, hnew⟩
      refine ⟨⟨hempty, hfresh, hlawful⟩, hall, hnodup, ?_⟩
      intro other hother hmem
      rcases List.mem_cons.mp hmem with heq | hold
      · exact hunique (heq ▸ List.mem_map_of_mem hother)
      · exact hnew other hother hold

theorem mem_exceptions {config : PolicyConfig} {exception : ForbiddenDependencyException} :
    exception ∈ config.exceptions ↔ exception ∈ config.forbiddenExceptions :=
  Finset.mem_sort _

theorem validateDependencyLaws_empty {graph : PackageGraph} {byName : List (Text × PackageNode)}
    {violations : TextSet} :
    validateDependencyLaws graph byName violations = ∅ ↔ violations = ∅ ∧
      graph.config.dependencyFreeNative ≠ ∅ ∧
      (∀ name ∈ graph.config.dependencyFreeNative, name ∈ graph.config.native ∧
        ∀ package, named byName name = some package → package.dependencies = []) ∧
      (∀ exception ∈ graph.config.forbiddenExceptions, LawfulException graph.config exception) ∧
      (graph.config.exceptions.map ForbiddenDependencyException.pair).Nodup := by
  have hstep : ∀ violations name,
      checkDependencyFree graph.config byName violations name = ∅ ↔ violations = ∅ ∧
        name ∈ graph.config.native ∧
          ∀ package, named byName name = some package → package.dependencies = [] :=
    fun _ _ => checkDependencyFree_empty
  have hnames : ∀ violations, (ascending graph.config.dependencyFreeNative).foldl
      (checkDependencyFree graph.config byName) violations = ∅ ↔ violations = ∅ ∧
        ∀ name ∈ ascending graph.config.dependencyFreeNative, name ∈ graph.config.native ∧
          ∀ package, named byName name = some package → package.dependencies = [] :=
    fun _ => foldl_empty hstep
  unfold validateDependencyLaws
  simp only [checkExceptions_empty, hnames, noteIf_empty, mem_ascending, mem_exceptions]
  constructor
  · rintro ⟨⟨⟨hempty, hsome⟩, hfree⟩, hall, hnodup, -⟩
    exact ⟨hempty, hsome, hfree, hall, hnodup⟩
  · rintro ⟨hempty, hsome, hfree, hall, hnodup⟩
    exact ⟨⟨⟨hempty, hsome⟩, hfree⟩, hall, hnodup, fun _ _ => List.not_mem_nil⟩

theorem configuredRole_cons {configured : List (Text × Role)} {name other : Text} {role : Role} :
    configuredRole ((name, role) :: configured) other =
      if name = other then some role else configuredRole configured other := by
  unfold configuredRole
  by_cases h : name = other
  · rw [List.find?_cons_of_pos (by simpa using h), if_pos h]
    rfl
  · rw [List.find?_cons_of_neg (by simpa using h), if_neg h]

theorem assignRole_empty {byName : List (Text × PackageNode)} {role : Role}
    {state : List (Text × Role) × TextSet} {name : Text} :
    (assignRole byName role state name).2 = ∅ ↔ state.2 = ∅ ∧
      configuredRole state.1 name = none ∧ named byName name ≠ none := by
  unfold assignRole
  simp only [noteIf_empty]
  cases configuredRole state.1 name with
  | none =>
    constructor
    · exact fun h => ⟨h.1, rfl, h.2⟩
    · exact fun h => ⟨h.1, h.2.2⟩
  | some previous =>
    constructor
    · exact fun h => absurd h.1 (Finset.insert_ne_empty _ _)
    · exact fun h => nomatch h.2.1

/-- The names of one role are new and known, and have that role from then on. -/
theorem assignRole_foldl {byName : List (Text × PackageNode)} {role : Role} {names : List Text}
    (hnodup : names.Nodup) {state : List (Text × Role) × TextSet} :
    ((names.foldl (assignRole byName role) state).2 = ∅ ↔ state.2 = ∅ ∧ ∀ name ∈ names,
      configuredRole state.1 name = none ∧ named byName name ≠ none) ∧
    ∀ name, configuredRole (names.foldl (assignRole byName role) state).1 name =
      if name ∈ names then some role else configuredRole state.1 name := by
  induction names generalizing state with
  | nil =>
    refine ⟨?_, fun name => (if_neg List.not_mem_nil).symm⟩
    exact (and_iff_left (List.forall_mem_nil _)).symm
  | cons first names ih =>
    obtain ⟨hfirst, hrest⟩ := List.nodup_cons.mp hnodup
    obtain ⟨hempty, hrole⟩ := @ih hrest (assignRole byName role state first)
    have hstate : (assignRole byName role state first).1 = (first, role) :: state.1 := rfl
    rw [List.foldl_cons]
    constructor
    · rw [hempty, assignRole_empty, hstate, List.forall_mem_cons]
      have hothers : ∀ name ∈ names,
          configuredRole ((first, role) :: state.1) name = configuredRole state.1 name := by
        intro name hname
        rw [configuredRole_cons, if_neg]
        rintro rfl
        exact hfirst hname
      constructor
      · rintro ⟨⟨hv, hnew, hknown⟩, hall⟩
        refine ⟨hv, ⟨hnew, hknown⟩, ?_⟩
        intro name hname
        have h := hall name hname
        rw [hothers name hname] at h
        exact h
      · rintro ⟨hv, ⟨hnew, hknown⟩, hall⟩
        refine ⟨⟨hv, hnew, hknown⟩, ?_⟩
        intro name hname
        rw [hothers name hname]
        exact hall name hname
    · intro name
      rw [hrole, hstate, configuredRole_cons]
      by_cases hmem : name ∈ names
      · rw [if_pos hmem, if_pos (List.mem_cons_of_mem _ hmem)]
      · rw [if_neg hmem]
        by_cases heq : first = name
        · rw [if_pos heq, if_pos (heq ▸ List.mem_cons_self)]
        · rw [if_neg heq, if_neg]
          rintro hcons
          rcases List.mem_cons.mp hcons with rfl | h
          · exact heq rfl
          · exact hmem h

/-- The set of a role. -/
def PolicyConfig.names (config : PolicyConfig) : Role → TextSet
  | .native => config.native
  | .adapter => config.adapters
  | .tooling => config.tools

theorem ascending_nodup (set : TextSet) : (ascending set).Nodup := Finset.sort_nodup set _

/-- The roles are assigned without a complaint when no name has two of them and all are known; the
role of a name is then the one whose set it is in. -/
theorem assignRoles_spec {config : PolicyConfig} {byName : List (Text × PackageNode)}
    {violations : TextSet} :
    ((assignRoles config byName violations).2 = ∅ ↔ violations = ∅ ∧
      (∀ role role' name, name ∈ config.names role → name ∈ config.names role' → role = role') ∧
      ∀ role, ∀ name ∈ config.names role, named byName name ≠ none) ∧
    ((assignRoles config byName violations).2 = ∅ → ∀ name role,
      configuredRole (assignRoles config byName violations).1 name = some role ↔
        name ∈ config.names role) := by
  obtain ⟨hempty, hrole⟩ := @assignRole_foldl byName .native _ (ascending_nodup config.native)
    ([], violations)
  obtain ⟨hempty', hrole'⟩ := @assignRole_foldl byName .adapter _
    (ascending_nodup config.adapters)
    ((ascending config.native).foldl (assignRole byName .native) ([], violations))
  obtain ⟨hempty'', hrole''⟩ := @assignRole_foldl byName .tooling _
    (ascending_nodup config.tools)
    ((ascending config.adapters).foldl (assignRole byName .adapter)
      ((ascending config.native).foldl (assignRole byName .native) ([], violations)))
  have hnone (name : Text) : configuredRole [] name = none := rfl
  have hadapter (name : Text) : (if name ∈ config.native then some Role.native else none) = none ↔
      name ∉ config.native := by
    split <;> simp [*]
  have htool (name : Text) : (if name ∈ config.adapters then some Role.adapter
      else if name ∈ config.native then some Role.native else none) = none ↔
      name ∉ config.adapters ∧ name ∉ config.native := by
    split <;> simp [*]
  simp only [mem_ascending, hnone, true_and] at hempty hrole
  simp only [mem_ascending, hrole, hempty, hadapter] at hempty' hrole'
  simp only [mem_ascending, hrole', hempty', htool] at hempty'' hrole''
  unfold assignRoles
  simp only [hempty'', hrole'']
  constructor
  · constructor
    · rintro ⟨⟨⟨hv, hnative⟩, hadapters⟩, htools⟩
      refine ⟨hv, ?_, ?_⟩
      · intro role role' name h h'
        cases role with
        | native =>
          cases role' with
          | native => rfl
          | adapter => exact absurd h (hadapters name h').1
          | tooling => exact absurd h (htools name h').1.2
        | adapter =>
          cases role' with
          | native => exact absurd h' (hadapters name h).1
          | adapter => rfl
          | tooling => exact absurd h (htools name h').1.1
        | tooling =>
          cases role' with
          | native => exact absurd h' (htools name h).1.2
          | adapter => exact absurd h' (htools name h).1.1
          | tooling => rfl
      · intro role name h
        cases role with
        | native => exact hnative name h
        | adapter => exact (hadapters name h).2
        | tooling => exact (htools name h).2
    · rintro ⟨hv, hdisjoint, hknown⟩
      refine ⟨⟨⟨hv, hknown .native⟩, ?_⟩, ?_⟩
      · intro name h
        refine ⟨fun h' => ?_, hknown .adapter name h⟩
        exact nomatch hdisjoint .native .adapter name h' h
      · intro name h
        refine ⟨⟨fun h' => ?_, fun h' => ?_⟩, hknown .tooling name h⟩
        · exact nomatch hdisjoint .adapter .tooling name h' h
        · exact nomatch hdisjoint .native .tooling name h' h
  · rintro ⟨⟨-, hadapters⟩, htools⟩ name role
    by_cases htool : name ∈ config.tools
    · rw [if_pos htool, Option.some.injEq]
      obtain ⟨⟨hnotAdapter, hnotNative⟩, -⟩ := htools name htool
      cases role with
      | native => exact iff_of_false (fun h => nomatch h) hnotNative
      | adapter => exact iff_of_false (fun h => nomatch h) hnotAdapter
      | tooling => exact iff_of_true rfl htool
    · rw [if_neg htool]
      by_cases hadapter : name ∈ config.adapters
      · rw [if_pos hadapter, Option.some.injEq]
        cases role with
        | native => exact iff_of_false (fun h => nomatch h) (hadapters name hadapter).1
        | adapter => exact iff_of_true rfl hadapter
        | tooling => exact iff_of_false (fun h => nomatch h) htool
      · rw [if_neg hadapter]
        by_cases hnative : name ∈ config.native
        · rw [if_pos hnative, Option.some.injEq]
          cases role with
          | native => exact iff_of_true rfl hnative
          | adapter => exact iff_of_false (fun h => nomatch h) hadapter
          | tooling => exact iff_of_false (fun h => nomatch h) htool
        · rw [if_neg hnative]
          cases role with
          | native => exact iff_of_false (fun h => nomatch h) hnative
          | adapter => exact iff_of_false (fun h => nomatch h) hadapter
          | tooling => exact iff_of_false (fun h => nomatch h) htool

/-- What a package of the workspace has to declare. -/
structure LawfulPackage (graph : PackageGraph) (package : PackageNode) : Prop where
  owned : ∃ role, package.role = some role ∧ package.name ∈ graph.config.names role
  guarded : package.role = some .native ∨ package.role = some .adapter →
    package.unsafePolicy = some "forbid".toList ∧ package.missingDocsPolicy = some "deny".toList
  default : package.id ∈ graph.defaultMembers ↔ package.role = some .native

theorem checkProduct_empty {package : PackageNode} {violations : TextSet} :
    checkProduct package violations = ∅ ↔ violations = ∅ ∧
      package.unsafePolicy = some "forbid".toList ∧
        package.missingDocsPolicy = some "deny".toList := by
  unfold checkProduct
  simp only [noteIf_empty, not_not, and_assoc]

theorem checkDefault_empty {graph : PackageGraph} {package : PackageNode} {declared : Role}
    {violations : TextSet} : checkDefault graph package declared violations = ∅ ↔
      violations = ∅ ∧ (package.id ∈ graph.defaultMembers ↔ declared = .native) := by
  unfold checkDefault
  simp only [noteIf_empty, and_assoc]
  refine and_congr_right fun _ => ?_
  by_cases hdefault : package.id ∈ graph.defaultMembers
  · by_cases hnative : declared = .native
    · simp [hdefault, hnative]
    · simp [hdefault, hnative]
  · by_cases hnative : declared = .native
    · simp [hdefault, hnative]
    · simp [hdefault, hnative]

theorem checkPackage_empty {graph : PackageGraph} {configured : List (Text × Role)}
    (hconfigured : ∀ name role, configuredRole configured name = some role ↔
      name ∈ graph.config.names role) {violations : TextSet} {package : PackageNode} :
    checkPackage graph configured violations package = ∅ ↔
      violations = ∅ ∧ LawfulPackage graph package := by
  unfold checkPackage
  cases hrole : package.role with
  | none =>
    constructor
    · exact fun h => absurd h (Finset.insert_ne_empty _ _)
    · rintro ⟨-, ⟨role, h, -⟩, -, -⟩
      rw [hrole] at h
      exact nomatch h
  | some declared =>
    have howned : (match configuredRole configured package.name with
        | none => insert ("workspace package ".toList ++ (quoted package.name ++
            (" has role ".toList ++ (quoted declared.asStr ++
              " but is absent from workspace role ownership".toList)))) violations
        | some expected => noteIf (expected ≠ declared) ("workspace package ".toList ++
            (quoted package.name ++ (" declares role ".toList ++ (quoted declared.asStr ++
              (" but policy ownership says ".toList ++ quoted expected.asStr))))) violations) = ∅ ↔
        violations = ∅ ∧ package.name ∈ graph.config.names declared := by
      rw [← hconfigured]
      cases configuredRole configured package.name with
      | none =>
        constructor
        · exact fun h => absurd h (Finset.insert_ne_empty _ _)
        · exact fun h => nomatch h.2
      | some expected => simp only [noteIf_empty, not_not, Option.some.injEq]
    simp only [checkDefault_empty]
    constructor
    · rintro ⟨hempty, hdefault⟩
      split at hempty
      next hproduct =>
        obtain ⟨hempty, hguarded⟩ := checkProduct_empty.mp hempty
        obtain ⟨hv, hmem⟩ := howned.mp hempty
        refine ⟨hv, ⟨declared, hrole, hmem⟩, fun _ => hguarded, ?_⟩
        rw [hrole, Option.some.injEq]
        exact hdefault
      next hother =>
        obtain ⟨hv, hmem⟩ := howned.mp hempty
        refine ⟨hv, ⟨declared, hrole, hmem⟩, ?_, ?_⟩
        · rw [hrole, Option.some.injEq, Option.some.injEq]
          exact fun h => absurd h hother
        · rw [hrole, Option.some.injEq]
          exact hdefault
    · rintro ⟨hv, ⟨role, hsame, hmem⟩, hguarded, hdefault⟩
      rw [hrole, Option.some.injEq] at hsame
      subst hsame
      rw [hrole, Option.some.injEq] at hdefault
      rw [hrole, Option.some.injEq, Option.some.injEq] at hguarded
      refine ⟨?_, hdefault⟩
      split
      next hproduct => exact checkProduct_empty.mpr ⟨howned.mpr ⟨hv, hmem⟩, hguarded hproduct⟩
      next => exact howned.mpr ⟨hv, hmem⟩

/-- A check keeps the violations that it finds. -/
theorem checkPackage_silent {graph : PackageGraph} {configured : List (Text × Role)}
    {violations : TextSet} {package : PackageNode}
    (h : checkPackage graph configured violations package = ∅) : violations = ∅ := by
  unfold checkPackage at h
  split at h
  next => exact absurd h (Finset.insert_ne_empty _ _)
  next declared _ =>
    obtain ⟨h, -⟩ := checkDefault_empty.mp h
    have hinner : (match configuredRole configured package.name with
        | none => insert ("workspace package ".toList ++ (quoted package.name ++
            (" has role ".toList ++ (quoted declared.asStr ++
              " but is absent from workspace role ownership".toList)))) violations
        | some expected => noteIf (expected ≠ declared) ("workspace package ".toList ++
            (quoted package.name ++ (" declares role ".toList ++ (quoted declared.asStr ++
              (" but policy ownership says ".toList ++ quoted expected.asStr))))) violations) =
        ∅ := by
      split at h
      next => exact (checkProduct_empty.mp h).1
      next => exact h
    split at hinner
    next => exact absurd hinner (Finset.insert_ne_empty _ _)
    next => exact (noteIf_empty.mp hinner).1

theorem foldl_silent {α : Type} {step : TextSet → α → TextSet}
    (hstep : ∀ violations x, step violations x = ∅ → violations = ∅) {xs : List α}
    {violations : TextSet} (h : xs.foldl step violations = ∅) : violations = ∅ := by
  induction xs generalizing violations with
  | nil => exact h
  | cons x xs ih => exact hstep _ x (ih h)

theorem validateOwnership_empty {graph : PackageGraph} {byName : List (Text × PackageNode)}
    {violations : TextSet} :
    validateOwnership graph byName violations = ∅ ↔ violations = ∅ ∧
      (∀ role role' name, name ∈ graph.config.names role → name ∈ graph.config.names role' →
        role = role') ∧
      (∀ role, ∀ name ∈ graph.config.names role, named byName name ≠ none) ∧
      ∀ package ∈ byName.map Prod.snd, LawfulPackage graph package := by
  obtain ⟨hempty, hrole⟩ := @assignRoles_spec graph.config byName violations
  unfold validateOwnership
  by_cases hassigned : (assignRoles graph.config byName violations).2 = ∅
  · have hstep : ∀ violations' package, checkPackage graph
        (assignRoles graph.config byName violations).1 violations' package = ∅ ↔
          violations' = ∅ ∧ LawfulPackage graph package :=
      fun _ _ => checkPackage_empty (hrole hassigned)
    rw [foldl_empty hstep, hempty, and_assoc, and_assoc]
  · constructor
    · intro h
      exact absurd (foldl_silent (fun _ _ => checkPackage_silent) h) hassigned
    · rintro ⟨hv, hdisjoint, hknown, -⟩
      exact absurd (hempty.mpr ⟨hv, hdisjoint, hknown⟩) hassigned

end Historian.Policy
