import Historian.PolicyWalk

namespace Historian.Policy

open Historian Frontier

/-- The features of a set, each of them named once. -/
def Names (features : List Text) (set : TextSet) : Prop :=
  features.Nodup ∧ [] ∉ features ∧ ∀ feature, feature ∈ features ↔ feature ∈ set

theorem checkedFeatures_some {features : List Text} {result set : TextSet} :
    checkedFeatures result features = some set ↔ features.Nodup ∧ [] ∉ features ∧
      (∀ feature ∈ features, feature ∉ result) ∧
        ∀ feature, feature ∈ set ↔ feature ∈ result ∨ feature ∈ features := by
  induction features generalizing result with
  | nil =>
    change some result = some set ↔ _
    rw [Option.some.injEq]
    constructor
    · rintro rfl
      refine ⟨List.nodup_nil, List.not_mem_nil, List.forall_mem_nil _, ?_⟩
      exact fun feature => (or_iff_left List.not_mem_nil).symm
    · rintro ⟨-, -, -, hset⟩
      ext feature
      rw [hset]
      exact (or_iff_left List.not_mem_nil).symm
  | cons feature features ih =>
    unfold checkedFeatures
    split
    next hbad =>
      constructor
      · exact fun h => nomatch h
      · rintro ⟨-, hempty, hnew, -⟩
        rcases hbad with rfl | hbad
        · exact absurd List.mem_cons_self hempty
        · exact absurd hbad (hnew feature List.mem_cons_self)
    next hgood =>
      obtain ⟨hnonempty, hfresh⟩ := not_or.mp hgood
      rw [ih, List.nodup_cons]
      constructor
      · rintro ⟨hnodup, hempty, hnew, hset⟩
        refine ⟨⟨?_, hnodup⟩, ?_, ?_, ?_⟩
        · exact fun h => hnew feature h (Finset.mem_insert_self _ _)
        · intro h
          rcases List.mem_cons.mp h with h | h
          · exact hnonempty h.symm
          · exact hempty h
        · intro other hother
          rcases List.mem_cons.mp hother with rfl | hother
          · exact hfresh
          · exact fun h => hnew other hother (Finset.mem_insert_of_mem h)
        · intro other
          rw [hset, Finset.mem_insert, List.mem_cons]
          grind
      · rintro ⟨⟨hunique, hnodup⟩, hempty, hnew, hset⟩
        refine ⟨hnodup, fun h => hempty (List.mem_cons_of_mem _ h), ?_, ?_⟩
        · intro other hother hmem
          rcases Finset.mem_insert.mp hmem with rfl | hmem
          · exact hunique hother
          · exact hnew other (List.mem_cons_of_mem _ hother) hmem
        · intro other
          rw [hset, Finset.mem_insert, List.mem_cons]
          grind

theorem checkedFeatureSet_some {features : List Text} {set : TextSet} :
    checkedFeatureSet features = some set ↔ Names features set := by
  unfold checkedFeatureSet Names
  rw [checkedFeatures_some]
  simp only [Finset.notMem_empty, not_false_eq_true, implies_true, true_and, false_or, iff_comm]

/-- The check passes, and has nothing to say, when the condition holds. -/
def Reports (check : Bool × TextSet → Bool × TextSet) (P : Prop) : Prop :=
  ∀ state, ((check state).1 = true ↔ state.1 = true ∧ P) ∧
    ((check state).2 = ∅ ↔ state.2 = ∅ ∧ P)

theorem reports_failIf (c : Prop) [Decidable c] (message : Text) :
    Reports (failIf c message) ¬c := by
  intro state
  unfold failIf
  split
  next h =>
    refine ⟨iff_of_false Bool.false_ne_true fun hboth => hboth.2 h, ?_⟩
    exact iff_of_false (Finset.insert_ne_empty _ _) fun hboth => hboth.2 h
  next h => exact ⟨(and_iff_left h).symm, (and_iff_left h).symm⟩

theorem Reports.then {first second : Bool × TextSet → Bool × TextSet} {P Q : Prop}
    (hfirst : Reports first P) (hsecond : Reports second Q) :
    Reports (fun state => second (first state)) (P ∧ Q) := by
  intro state
  obtain ⟨hvalid, hsilent⟩ := hfirst state
  obtain ⟨hvalid', hsilent'⟩ := hsecond (first state)
  rw [hvalid', hsilent', hvalid, hsilent, and_assoc, and_assoc]
  exact ⟨Iff.rfl, Iff.rfl⟩

theorem Reports.congr {check : Bool × TextSet → Bool × TextSet} {P Q : Prop}
    (h : Reports check P) (hiff : P ↔ Q) : Reports check Q := by
  rw [← propext hiff]
  exact h

theorem reports_checkFeatures (exception : ForbiddenDependencyException) (features : List Text)
    (malformed : Text) (different : TextSet → Text) :
    Reports (checkFeatures exception features malformed different)
      (Names features exception.features) := by
  intro state
  unfold checkFeatures
  rw [← checkedFeatureSet_some]
  cases checkedFeatureSet features with
  | none =>
    constructor
    · exact iff_of_false Bool.false_ne_true fun hboth => nomatch hboth.2
    · exact iff_of_false (Finset.insert_ne_empty _ _) fun hboth => nomatch hboth.2
  | some set =>
    have h := (reports_failIf (set ≠ exception.features) (different set)).congr not_not
    rw [Option.some.injEq]
    exact h state

/-- A declaration that agrees with the exception. -/
structure LawfulDeclaration (exception : ForbiddenDependencyException)
    (declaration : DependencyDeclaration) : Prop where
  kind : declaration.kind = .normal
  required : declaration.isOptional = false
  unconditional : declaration.unconditional = true
  defaultFeatures : declaration.usesDefaultFeatures = exception.defaultFeatures
  features : Names declaration.features exception.features

theorem reports_checkDeclaration (exception : ForbiddenDependencyException)
    (declaration : DependencyDeclaration) :
    Reports (checkDeclaration exception declaration)
      (LawfulDeclaration exception declaration) := by
  have hkind := reports_failIf (declaration.kind ≠ .normal)
  have hrequired := reports_failIf (declaration.isOptional = true)
  have hunconditional := reports_failIf (declaration.unconditional = false)
  have hdefault := reports_failIf (declaration.usesDefaultFeatures ≠ exception.defaultFeatures)
  have hfeatures := reports_checkFeatures exception declaration.features
  refine Reports.congr (((((hkind _).then (hrequired _)).then (hunconditional _)).then
    (hdefault _)).then (hfeatures _ _)) ?_
  simp only [not_not, Bool.not_eq_true, Bool.not_eq_false]
  constructor
  · rintro ⟨⟨⟨⟨hkind, hrequired⟩, hunconditional⟩, hdefault⟩, hfeatures⟩
    exact ⟨hkind, hrequired, hunconditional, hdefault, hfeatures⟩
  · rintro ⟨hkind, hrequired, hunconditional, hdefault, hfeatures⟩
    exact ⟨⟨⟨⟨hkind, hrequired⟩, hunconditional⟩, hdefault⟩, hfeatures⟩

/-- The edge is declared once and resolved as the exception has it. -/
structure Declared (exception : ForbiddenDependencyException) (dependency : DependencyEdge)
    (target : PackageNode) : Prop where
  declaration : ∃ declaration, dependency.declarations = [declaration] ∧
    LawfulDeclaration exception declaration
  resolved : Names target.resolvedFeatures exception.features

/-- An exception that may be used at all. -/
def Usable (exception : ForbiddenDependencyException) : Prop :=
  exception.defaultFeatures = false ∧ exception.features ≠ ∅

theorem validateForbiddenExceptionEdge_spec (exception : ForbiddenDependencyException)
    (dependency : DependencyEdge) (target : PackageNode) (violations : TextSet) :
    ((validateForbiddenExceptionEdge exception dependency target violations).1 = true ↔
      Usable exception ∧ Declared exception dependency target) ∧
    ((validateForbiddenExceptionEdge exception dependency target violations).2 = ∅ ↔
      violations = ∅ ∧ Declared exception dependency target) := by
  have hvalid : (!exception.defaultFeatures && !decide (exception.features = ∅)) = true ↔
      Usable exception := by
    simp [Usable]
  have hresolved (malformed : Text) (different : TextSet → Text) :=
    reports_checkFeatures exception target.resolvedFeatures malformed different
  unfold validateForbiddenExceptionEdge
  split
  next declaration hone =>
    have hdeclared : Declared exception dependency target ↔
        LawfulDeclaration exception declaration ∧
          Names target.resolvedFeatures exception.features := by
      constructor
      · rintro ⟨⟨other, hother, hlawful⟩, hresolved⟩
        rw [hone, List.singleton_inj] at hother
        exact ⟨hother ▸ hlawful, hresolved⟩
      · exact fun h => ⟨⟨declaration, hone, h.1⟩, h.2⟩
    obtain ⟨hpass, hsilent⟩ := ((reports_checkDeclaration exception declaration).then
      (hresolved _ _)) (_, violations)
    rw [hdeclared, ← hvalid]
    exact ⟨hpass, hsilent⟩
  next declarations hmany =>
    have hnever : ¬Declared exception dependency target := by
      rintro ⟨⟨declaration, hone, -⟩, -⟩
      exact hmany declaration hone
    obtain ⟨hpass, hsilent⟩ := hresolved _ _ (false, insert _ violations)
    constructor
    · exact iff_of_false (fun h => nomatch (hpass.mp h).1) fun h => hnever h.2
    · refine iff_of_false (fun h => ?_) fun h => hnever h.2
      exact Finset.insert_ne_empty _ _ (hsilent.mp h).1

/-- A package that no native package may reach. -/
def Outside (target : PackageNode) : Prop :=
  target.workspaceMember = true ∧ (target.role = some .adapter ∨ target.role = some .tooling)

instance (target : PackageNode) : Decidable (Outside target) :=
  inferInstanceAs (Decidable (_ ∧ _))

/-- The exception permits the edge, which leaves the root itself. -/
def Permits (graph : PackageGraph) (root : PackageNode) (direct : Prop)
    (dependency : DependencyEdge) (target : PackageNode)
    (exception : ForbiddenDependencyException) : Prop :=
  direct ∧ configuredException graph.config root target = some exception ∧
    Declared exception dependency target

def LawfulTarget (graph : PackageGraph) (root : PackageNode) (direct : Prop)
    (dependency : DependencyEdge) (target : PackageNode) : Prop :=
  ¬Outside target ∧ (isForbidden target.name graph.config = true →
    ∃ exception, Permits graph root direct dependency target exception)

/-- The exception is used by the edge. -/
def UsedBy (graph : PackageGraph) (root : PackageNode) (direct : Prop)
    (dependency : DependencyEdge) (target : PackageNode)
    (exception : ForbiddenDependencyException) : Prop :=
  isForbidden target.name graph.config = true ∧
    Permits graph root direct dependency target exception ∧ Usable exception

theorem checkTarget_spec (graph : PackageGraph) (root : PackageNode) (direct : Bool)
    (dependency : DependencyEdge) (target : PackageNode) (renderedPath : Text)
    (findings : Findings) :
    ((checkTarget graph root direct dependency target renderedPath findings).violations = ∅ ↔
      findings.violations = ∅ ∧ LawfulTarget graph root (direct = true) dependency target) ∧
    ∀ exception,
      exception ∈
        (checkTarget graph root direct dependency target renderedPath findings).usedExceptions ↔
      exception ∈ findings.usedExceptions ∨
        UsedBy graph root (direct = true) dependency target exception := by
  unfold checkTarget LawfulTarget UsedBy
  -- the direction of the edge is checked first, which leaves the exceptions alone
  generalize hstart : (if target.workspaceMember = true ∧
    (target.role = some .adapter ∨ target.role = some .tooling) then _ else findings) = start
  have hsilent : start.violations = ∅ ↔ findings.violations = ∅ ∧ ¬Outside target := by
    rw [← hstart]
    split
    next h => exact iff_of_false (Finset.insert_ne_empty _ _) fun hboth => hboth.2 h
    next h => exact (and_iff_left h).symm
  have hused : start.usedExceptions = findings.usedExceptions := by
    rw [← hstart]
    split
    next => rfl
    next => rfl
  cases isForbidden target.name graph.config with
  | false =>
    simp only [Bool.false_eq_true, if_false, false_and, or_false, false_implies, and_true, hused,
      implies_true]
    exact hsilent
  | true =>
    simp only [if_true, true_and, forall_const]
    rw [← and_assoc, ← hsilent]
    unfold Permits
    cases configuredException graph.config root target with
    | none =>
      constructor
      · exact iff_of_false (Finset.insert_ne_empty _ _) fun h => nomatch h.2.choose_spec.2.1
      · intro exception
        rw [or_iff_left fun h => nomatch h.1.2.1]
        exact iff_of_eq (congrArg (exception ∈ ·) hused)
    | some configured =>
      cases direct with
      | false =>
        constructor
        · exact iff_of_false (Finset.insert_ne_empty _ _) fun h => nomatch h.2.choose_spec.1
        · intro exception
          rw [or_iff_left fun h => nomatch h.1.1]
          exact iff_of_eq (congrArg (exception ∈ ·) hused)
      | true =>
        obtain ⟨hpass, hempty⟩ := validateForbiddenExceptionEdge_spec configured dependency target
          start.violations
        simp only [hempty, hused, Option.some.injEq, true_and, exists_eq_left']
        intro exception
        split
        next h =>
          obtain ⟨husable, hdeclared⟩ := hpass.mp h
          rw [Finset.mem_insert, or_comm]
          refine or_congr_right ⟨?_, fun h => h.1.1.symm⟩
          rintro rfl
          exact ⟨⟨rfl, hdeclared⟩, husable⟩
        next h =>
          refine (or_iff_left ?_).symm
          rintro ⟨⟨rfl, hdeclared⟩, husable⟩
          exact h (hpass.mpr ⟨husable, hdeclared⟩)

/-- Each package is stored under its own id. -/
def PackageGraph.OwnIds (graph : PackageGraph) : Prop :=
  ∀ entry ∈ graph.packages, entry.2.id = entry.1

section Walks

variable {graph : PackageGraph} {root : PackageNode}

theorem get_eq_some {id : Text} {package : PackageNode} :
    graph.get id = some package ↔ (id, package) ∈ graph.packages := by
  unfold PackageGraph.get
  constructor
  · intro h
    obtain ⟨entry, hfind, rfl⟩ := Option.map_eq_some_iff.mp h
    have hid : entry.1 = id := by simpa using List.find?_some hfind
    rw [← hid]
    exact List.mem_of_find?_eq_some hfind
  · intro h
    cases hfind : graph.packages.find? (·.1 = id) with
    | none => exact absurd (List.find?_eq_none.mp hfind _ h) (by simp)
    | some entry =>
      have hid : entry.1 = id := by simpa using List.find?_some hfind
      -- two entries of one key are the same entry
      have hkeys : (graph.packages.map Prod.fst).Nodup :=
        List.pairwise_map.mpr (graph.ordered.imp ne_of_lt)
      have hsame := List.inj_on_of_nodup_map hkeys (List.mem_of_find?_eq_some hfind) h hid
      rw [hsame]
      rfl

theorem PackageGraph.OwnIds.id (hids : graph.OwnIds) {id : Text} {package : PackageNode}
    (h : graph.get id = some package) : package.id = id :=
  hids _ (get_eq_some.mp h)

/-- What is met and what waits, without the paths. -/
def Walk.frontier (walk : Walk) : State Text := ⟨walk.visited, walk.queue.map Prod.fst⟩

/-- The known packages at the ends of edges. -/
def PackageGraph.targets (graph : PackageGraph) (dependencies : List DependencyEdge) : List Text :=
  (dependencies.map DependencyEdge.packageId).filter fun id => (graph.get id).isSome

def LawfulEdge (graph : PackageGraph) (root : PackageNode) (direct : Prop)
    (dependency : DependencyEdge) : Prop :=
  ∃ target, graph.get dependency.packageId = some target ∧
    LawfulTarget graph root direct dependency target

def UsingEdge (graph : PackageGraph) (root : PackageNode) (direct : Prop)
    (exception : ForbiddenDependencyException) (dependency : DependencyEdge) : Prop :=
  ∃ target, graph.get dependency.packageId = some target ∧
    UsedBy graph root direct dependency target exception

theorem checkEdge_spec (package : PackageNode) (path : List Text) (walk : Walk)
    (dependency : DependencyEdge) :
    ((checkEdge graph root package path walk dependency).findings.violations = ∅ ↔
      walk.findings.violations = ∅ ∧
        LawfulEdge graph root (path.length = 1 ∧ package.id = root.id) dependency) ∧
    ∀ exception,
      exception ∈ (checkEdge graph root package path walk dependency).findings.usedExceptions ↔
      exception ∈ walk.findings.usedExceptions ∨
        UsingEdge graph root (path.length = 1 ∧ package.id = root.id) exception dependency := by
  unfold checkEdge LawfulEdge UsingEdge
  cases graph.get dependency.packageId with
  | none =>
    constructor
    · exact iff_of_false (Finset.insert_ne_empty _ _) fun h => nomatch h.2.choose_spec.1
    · intro exception
      exact (or_iff_left fun h => nomatch h.choose_spec.1).symm
  | some target =>
    simp only [Option.some.injEq, exists_eq_left']
    obtain ⟨hsilent, hused⟩ := checkTarget_spec graph root
      (decide (path.length = 1 ∧ package.id = root.id)) dependency target
        (" -> ".toList.intercalate (path ++ [pathName dependency target])) walk.findings
    rw [decide_eq_true_eq] at hsilent hused
    exact ⟨hsilent, hused⟩

theorem checkEdge_frontier (hids : graph.OwnIds) (package : PackageNode) (path : List Text)
    (walk : Walk) (dependency : DependencyEdge) :
    (checkEdge graph root package path walk dependency).frontier =
      walk.frontier.pushAll (graph.targets [dependency]) := by
  unfold checkEdge PackageGraph.targets
  cases hget : graph.get dependency.packageId with
  | none => simp [hget, State.pushAll, Walk.frontier]
  | some target =>
    have hid := hids.id hget
    simp only [List.map_cons, List.map_nil, List.filter_cons, hget, Option.isSome_some, if_true,
      List.filter_nil, State.pushAll, List.foldl_cons, List.foldl_nil, State.push, Walk.frontier,
      hid]
    split
    next hmet => rw [Finset.insert_eq_of_mem hmet]
    next => rw [List.map_append]; rfl

/-- What holds of the paths in the queue. -/
structure Paths (root : PackageNode) (walk : Walk) : Prop where
  met : root.id ∈ walk.visited
  paths : ∀ entry ∈ walk.queue, entry.2 ≠ [] ∧ (entry.2.length = 1 ↔ entry.1 = root.id)

theorem checkEdge_paths {package : PackageNode} {path : List Text} {walk : Walk}
    {dependency : DependencyEdge} (hpath : path ≠ []) (h : Paths root walk) :
    Paths root (checkEdge graph root package path walk dependency) := by
  unfold checkEdge
  split
  next => exact ⟨h.met, h.paths⟩
  next target _ =>
    refine ⟨Finset.mem_insert_of_mem h.met, ?_⟩
    intro entry hentry
    change entry ∈ (if target.id ∈ walk.visited then walk.queue
      else walk.queue ++ [(target.id, path ++ [pathName dependency target])]) at hentry
    split at hentry
    next => exact h.paths entry hentry
    next hnew =>
      rcases List.mem_append.mp hentry with hentry | hentry
      · exact h.paths entry hentry
      · -- a longer path, and not to the root, which was met before
        rw [List.mem_singleton.mp hentry]
        have hlength := List.length_pos_iff.mpr hpath
        refine ⟨List.append_ne_nil_of_right_ne_nil _ (List.cons_ne_nil _ _), ?_⟩
        rw [List.length_append, List.length_singleton]
        refine iff_of_false (by omega) ?_
        intro heq
        have hid : target.id = root.id := heq
        exact hnew (hid ▸ h.met)

theorem targets_cons (dependency : DependencyEdge) (dependencies : List DependencyEdge) :
    graph.targets (dependency :: dependencies) =
      graph.targets [dependency] ++ graph.targets dependencies := by
  unfold PackageGraph.targets
  rw [← List.filter_append]
  rfl

/-- A round checks every edge of its package and puts the targets behind the queue. -/
theorem checkEdges_spec (hids : graph.OwnIds) {package : PackageNode} {path : List Text}
    (hpath : path ≠ []) {dependencies : List DependencyEdge} {walk : Walk}
    (h : Paths root walk) :
    ((dependencies.foldl (checkEdge graph root package path) walk).findings.violations = ∅ ↔
      walk.findings.violations = ∅ ∧ ∀ dependency ∈ dependencies,
        LawfulEdge graph root (path.length = 1 ∧ package.id = root.id) dependency) ∧
    (∀ exception, exception ∈
        (dependencies.foldl (checkEdge graph root package path) walk).findings.usedExceptions ↔
      exception ∈ walk.findings.usedExceptions ∨ ∃ dependency ∈ dependencies,
        UsingEdge graph root (path.length = 1 ∧ package.id = root.id) exception dependency) ∧
    (dependencies.foldl (checkEdge graph root package path) walk).frontier =
      walk.frontier.pushAll (graph.targets dependencies) ∧
    Paths root (dependencies.foldl (checkEdge graph root package path) walk) := by
  induction dependencies generalizing walk with
  | nil =>
    refine ⟨(and_iff_left (List.forall_mem_nil _)).symm, ?_, rfl, h⟩
    intro exception
    exact (or_iff_left fun ⟨_, hmem, _⟩ => List.not_mem_nil hmem).symm
  | cons dependency dependencies ih =>
    obtain ⟨hsilent, hused⟩ := @checkEdge_spec graph root package path walk dependency
    obtain ⟨hsilent', hused', hfrontier, hpaths⟩ :=
      ih (@checkEdge_paths graph root package path walk dependency hpath h)
    rw [List.foldl_cons]
    refine ⟨?_, ?_, ?_, hpaths⟩
    · rw [hsilent', hsilent, List.forall_mem_cons, and_assoc]
    · intro exception
      rw [hused', hused, List.exists_mem_cons_iff, or_assoc]
    · rw [hfrontier, checkEdge_frontier hids, targets_cons dependency dependencies]
      exact (List.foldl_append ..).symm

theorem mem_sortedDependencies {package : PackageNode} {dependency : DependencyEdge} :
    dependency ∈ sortedDependencies package ↔ dependency ∈ package.dependencies :=
  List.mem_mergeSort

/-- The packages right behind a package. -/
def following (graph : PackageGraph) (id : Text) : List Text :=
  match graph.get id with
  | none => []
  | some package => graph.targets (sortedDependencies package)

def LawfulNode (graph : PackageGraph) (root : PackageNode) (id : Text) : Prop :=
  ∃ package, graph.get id = some package ∧ ∀ dependency ∈ package.dependencies,
    LawfulEdge graph root (id = root.id) dependency

def UsingNode (graph : PackageGraph) (root : PackageNode)
    (exception : ForbiddenDependencyException) (id : Text) : Prop :=
  ∃ package, graph.get id = some package ∧ ∃ dependency ∈ package.dependencies,
    UsingEdge graph root (id = root.id) exception dependency

/-- The walk looks at every edge of every package that the search expands. -/
theorem walkRounds_spec (hids : graph.OwnIds) {fuel : Nat} {walk : Walk} (h : Paths root walk)
    (hend : (expand (following graph) fuel walk.frontier).2.queue = []) :
    ∃ walk', walkRounds graph root fuel walk = some walk' ∧
      (walk'.findings.violations = ∅ ↔ walk.findings.violations = ∅ ∧
        ∀ id ∈ (expand (following graph) fuel walk.frontier).1, LawfulNode graph root id) ∧
      ∀ exception, exception ∈ walk'.findings.usedExceptions ↔
        exception ∈ walk.findings.usedExceptions ∨
          ∃ id ∈ (expand (following graph) fuel walk.frontier).1,
            UsingNode graph root exception id := by
  induction fuel generalizing walk with
  | zero =>
    have hqueue : walk.queue = [] := List.map_eq_nil_iff.mp hend
    refine ⟨walk, if_pos hqueue, (and_iff_left (List.forall_mem_nil _)).symm, ?_⟩
    intro exception
    exact (or_iff_left fun ⟨_, hmem, _⟩ => List.not_mem_nil hmem).symm
  | succ fuel ih =>
    cases hqueue : walk.queue with
    | nil =>
      have hfrontier : walk.frontier = ⟨walk.visited, []⟩ := by
        unfold Walk.frontier
        rw [hqueue]
        rfl
      refine ⟨walk, ?_, ?_, ?_⟩
      · unfold walkRounds
        rw [hqueue]
      · rw [hfrontier]
        exact (and_iff_left (List.forall_mem_nil _)).symm
      · intro exception
        rw [hfrontier]
        exact (or_iff_left fun ⟨_, hmem, _⟩ => List.not_mem_nil hmem).symm
    | cons first rest =>
      obtain ⟨id, path⟩ := first
      have hfrontier : walk.frontier = ⟨walk.visited, id :: rest.map Prod.fst⟩ := by
        unfold Walk.frontier
        rw [hqueue]
        rfl
      have hpaths := h.paths
      rw [hqueue] at hpaths
      obtain ⟨⟨hpath, hroot⟩, hrest⟩ := List.forall_mem_cons.mp hpaths
      rw [hfrontier] at hend ⊢
      simp only [expand] at hend ⊢
      rw [List.forall_mem_cons]
      unfold walkRounds
      simp only [hqueue]
      cases hget : graph.get id with
      | none =>
        have hnothing : following graph id = [] := by
          unfold following
          rw [hget]
        rw [hnothing] at hend ⊢
        obtain ⟨walk', hwalk, hsilent, hused⟩ := @ih { walk with
          queue := rest
          findings := walk.findings.note
            ("Cargo resolve graph references unknown package id ".toList ++ quoted id) }
          ⟨h.met, hrest⟩ hend
        refine ⟨walk', hwalk, ?_, ?_⟩
        · rw [hsilent]
          refine iff_of_false (fun hboth => Finset.insert_ne_empty _ _ hboth.1) ?_
          rintro ⟨-, ⟨package, hpackage, -⟩, -⟩
          rw [hget] at hpackage
          exact nomatch hpackage
        · intro exception
          rw [hused, List.exists_mem_cons_iff]
          refine or_congr_right (or_iff_right ?_).symm
          rintro ⟨package, hpackage, -⟩
          rw [hget] at hpackage
          exact nomatch hpackage
      | some package =>
        have hfollowing : following graph id = graph.targets (sortedDependencies package) := by
          unfold following
          rw [hget]
        have hdirect : (path.length = 1 ∧ package.id = root.id) ↔ id = root.id := by
          rw [hids.id hget]
          exact ⟨fun hboth => hboth.2, fun hid => ⟨hroot.mpr hid, hid⟩⟩
        have hlawful : LawfulNode graph root id ↔ ∀ dependency ∈ sortedDependencies package,
            LawfulEdge graph root (path.length = 1 ∧ package.id = root.id) dependency := by
          unfold LawfulNode
          simp only [hget, Option.some.injEq, exists_eq_left', mem_sortedDependencies, hdirect]
        have husing (exception : ForbiddenDependencyException) :
            UsingNode graph root exception id ↔ ∃ dependency ∈ sortedDependencies package,
              UsingEdge graph root (path.length = 1 ∧ package.id = root.id) exception
                dependency := by
          unfold UsingNode
          simp only [hget, Option.some.injEq, exists_eq_left', mem_sortedDependencies, hdirect]
        have hstart : Paths root { walk with queue := rest } := ⟨h.met, hrest⟩
        obtain ⟨hsilent, hused, hfrontier', hpaths'⟩ := @checkEdges_spec graph root hids package
          path hpath (sortedDependencies package) { walk with queue := rest } hstart
        rw [hfollowing] at hend ⊢
        have hpush : Walk.frontier { walk with queue := rest } =
            ⟨walk.visited, rest.map Prod.fst⟩ := rfl
        rw [← hpush, ← hfrontier'] at hend ⊢
        obtain ⟨walk', hwalk, hsilent', hused'⟩ := ih hpaths' hend
        refine ⟨walk', hwalk, ?_, ?_⟩
        · rw [hsilent', hsilent, hlawful, and_assoc]
        · intro exception
          rw [hused', hused, List.exists_mem_cons_iff, husing, or_assoc]

/-- The packages at both ends of an edge. -/
def PackageGraph.Edge (graph : PackageGraph) (source target : PackageNode) : Prop :=
  ∃ dependency ∈ source.dependencies, graph.get dependency.packageId = some target

def PackageGraph.Reachable (graph : PackageGraph) : PackageNode → PackageNode → Prop :=
  Relation.ReflTransGen graph.Edge

theorem mem_following {id behind : Text} : behind ∈ following graph id ↔
    ∃ package target, graph.get id = some package ∧ graph.get behind = some target ∧
      ∃ dependency ∈ package.dependencies, dependency.packageId = behind := by
  unfold following
  cases graph.get id with
  | none => exact iff_of_false List.not_mem_nil fun h => nomatch h.choose_spec.choose_spec.1
  | some package =>
    simp only [PackageGraph.targets, List.mem_filter, List.mem_map, mem_sortedDependencies,
      Option.isSome_iff_exists, Option.some.injEq, exists_and_left, exists_eq_left']
    rw [exists_and_right]
    exact and_comm

theorem stored_of_reachable (hids : graph.OwnIds) (hroot : graph.get root.id = some root)
    {package : PackageNode} (h : graph.Reachable root package) :
    graph.get package.id = some package := by
  rcases h.cases_tail with heq | ⟨before, -, dependency, -, hstored⟩
  · rw [heq]
    exact hroot
  · rw [hids.id hstored]
    exact hstored

/-- The search reaches the packages behind the root. -/
theorem reaches_iff (hids : graph.OwnIds) (hroot : graph.get root.id = some root) {id : Text} :
    Reaches (following graph) root.id id ↔
      ∃ package, graph.get id = some package ∧ graph.Reachable root package := by
  constructor
  · intro h
    induction h with
    | refl => exact ⟨root, hroot, Relation.ReflTransGen.refl⟩
    | tail _ hstep ih =>
      obtain ⟨package, hpackage, hreachable⟩ := ih
      obtain ⟨other, target, hother, htarget, dependency, hdependency, rfl⟩ :=
        mem_following.mp hstep
      rw [hpackage] at hother
      rw [← Option.some.inj hother] at hdependency
      exact ⟨target, htarget, hreachable.tail ⟨dependency, hdependency, htarget⟩⟩
  · rintro ⟨package, hpackage, hreachable⟩
    induction hreachable generalizing id with
    | refl =>
      rw [← hids.id hpackage]
      exact Relation.ReflTransGen.refl
    | @tail source target hsource hedge ih =>
      obtain ⟨dependency, hdependency, htarget⟩ := hedge
      have hstored := stored_of_reachable hids hroot hsource
      have hsame : dependency.packageId = id := by
        rw [← hids.id htarget, hids.id hpackage]
      exact (ih hstored).tail
        (mem_following.mpr ⟨source, target, hstored, hpackage, dependency, hdependency, hsame⟩)

/-- Every edge behind the root is in order. -/
def LawfulRoot (graph : PackageGraph) (root : PackageNode) : Prop :=
  ∀ package, graph.Reachable root package → ∀ dependency ∈ package.dependencies,
    LawfulEdge graph root (package = root) dependency

def UsingRoot (graph : PackageGraph) (root : PackageNode)
    (exception : ForbiddenDependencyException) : Prop :=
  ∃ dependency ∈ root.dependencies, UsingEdge graph root True exception dependency

theorem usingEdge_direct {direct : Prop} {exception : ForbiddenDependencyException}
    {dependency : DependencyEdge} : UsingEdge graph root direct exception dependency ↔
      direct ∧ UsingEdge graph root True exception dependency := by
  unfold UsingEdge UsedBy Permits
  constructor
  · rintro ⟨target, htarget, hforbidden, ⟨hdirect, hpermits⟩, husable⟩
    exact ⟨hdirect, target, htarget, hforbidden, ⟨trivial, hpermits⟩, husable⟩
  · rintro ⟨hdirect, target, htarget, hforbidden, ⟨-, hpermits⟩, husable⟩
    exact ⟨target, htarget, hforbidden, ⟨hdirect, hpermits⟩, husable⟩

theorem length_packages (ids : List Text) (hids : ids = graph.packages.map Prod.fst) {id : Text}
    (h : id ∈ ids) : (ids.toFinset \ {id}).card + 1 ≤ graph.packages.length := by
  have hcard := List.toFinset_card_le ids
  have hlength : ids.length = graph.packages.length := by
    rw [hids, List.length_map]
  have hone := Finset.card_sdiff_add_card_inter ids.toFinset {id}
  have hinter : ids.toFinset ∩ {id} = {id} :=
    Finset.inter_eq_right.mpr (Finset.singleton_subset_iff.mpr (List.mem_toFinset.mpr h))
  rw [hinter, Finset.card_singleton] at hone
  omega

/-- One round for each package is enough for a walk, cycles or not, and it checks every edge behind
its root. -/
theorem walkNativeClosure_spec (hids : graph.OwnIds) (hroot : graph.get root.id = some root)
    (findings : Findings) :
    ∃ findings', walkNativeClosure graph root findings = some findings' ∧
      (findings'.violations = ∅ ↔ findings.violations = ∅ ∧ LawfulRoot graph root) ∧
      ∀ exception, exception ∈ findings'.usedExceptions ↔
        exception ∈ findings.usedExceptions ∨ UsingRoot graph root exception := by
  have hkey {id : Text} {package : PackageNode} (h : graph.get id = some package) :
      id ∈ graph.packages.map Prod.fst := List.mem_map_of_mem (get_eq_some.mp h)
  have hend : (expand (following graph) graph.packages.length
      ⟨{root.id}, [root.id]⟩).2.queue = [] := by
    refine @expand_exhausts _ _ _ (graph.packages.map Prod.fst).toFinset ?_ _ _ ?_ ?_
    · intro id _ behind hbehind
      obtain ⟨_, target, -, htarget, -⟩ := mem_following.mp hbehind
      exact List.mem_toFinset.mpr (hkey htarget)
    · intro id hid
      rw [List.mem_singleton.mp hid]
      exact List.mem_toFinset.mpr (hkey hroot)
    · exact length_packages _ rfl (hkey hroot)
  have hexpanded (id : Text) :
      id ∈ (expand (following graph) graph.packages.length ⟨{root.id}, [root.id]⟩).1 ↔
        ∃ package, graph.get id = some package ∧ graph.Reachable root package := by
    rw [mem_expanded hend, reaches_iff hids hroot]
  have hstart : Paths root ⟨{root.id}, [(root.id, [root.name])],
      { findings with closure := insert root.id findings.closure }⟩ := by
    refine ⟨Finset.mem_singleton_self _, ?_⟩
    intro entry hentry
    rw [List.mem_singleton.mp hentry]
    exact ⟨List.cons_ne_nil _ _, iff_of_true rfl rfl⟩
  have hdirect {id : Text} {package : PackageNode} (h : graph.get id = some package) :
      id = root.id ↔ package = root := by
    constructor
    · intro heq
      rw [heq, hroot] at h
      exact (Option.some.inj h).symm
    · intro heq
      rw [← hids.id h, heq]
  obtain ⟨walk, hwalk, hsilent, hused⟩ := walkRounds_spec hids hstart hend
  refine ⟨walk.findings, ?_, ?_, ?_⟩
  · unfold walkNativeClosure
    rw [hwalk]
    rfl
  · rw [hsilent]
    refine and_congr_right fun _ => ?_
    constructor
    · intro h package hreachable
      have hstored := stored_of_reachable hids hroot hreachable
      obtain ⟨other, hother, hedges⟩ :=
        h package.id ((hexpanded _).mpr ⟨package, hstored, hreachable⟩)
      rw [hstored] at hother
      rw [hdirect hstored, ← Option.some.inj hother] at hedges
      exact hedges
    · intro h id hid
      obtain ⟨package, hstored, hreachable⟩ := (hexpanded id).mp hid
      refine ⟨package, hstored, ?_⟩
      rw [hdirect hstored]
      exact h package hreachable
  · intro exception
    rw [hused]
    refine or_congr_right ?_
    constructor
    · rintro ⟨id, -, package, hstored, dependency, hdependency, husing⟩
      obtain ⟨hid, husing⟩ := usingEdge_direct.mp husing
      rw [(hdirect hstored).mp hid] at hdependency
      exact ⟨dependency, hdependency, husing⟩
    · rintro ⟨dependency, hdependency, husing⟩
      refine ⟨root.id, (hexpanded _).mpr ⟨root, hroot, Relation.ReflTransGen.refl⟩, ?_⟩
      exact ⟨root, hroot, dependency, hdependency, usingEdge_direct.mpr ⟨rfl, husing⟩⟩

end Walks

/-- A package of the workspace. -/
def PackageGraph.Member (graph : PackageGraph) (package : PackageNode) : Prop :=
  package ∈ graph.values ∧ package.workspaceMember = true

def PackageGraph.UniqueNames (graph : PackageGraph) : Prop :=
  ∀ package other, graph.Member package → graph.Member other → package.name = other.name →
    package = other

/-- Among packages whose names differ each stays under its name. -/
theorem mem_byName {packages : List PackageNode} {byName : List (Text × PackageNode)}
    (hunique : ∀ package ∈ packages, ∀ other ∈ packages, package.name = other.name →
      package = other) {name : Text} {package : PackageNode} :
    (name, package) ∈ packages.foldl (fun byName package =>
        byName.filter (·.1 ≠ package.name) ++ [(package.name, package)]) byName ↔
      (package ∈ packages ∧ package.name = name) ∨
        ((name, package) ∈ byName ∧ ∀ other ∈ packages, other.name ≠ name) := by
  induction packages generalizing byName with
  | nil =>
    rw [List.foldl_nil]
    simp
  | cons first packages ih =>
    have hrest : ∀ package ∈ packages, ∀ other ∈ packages, package.name = other.name →
        package = other :=
      fun package hpackage other hother =>
        hunique package (List.mem_cons_of_mem _ hpackage) other (List.mem_cons_of_mem _ hother)
    rw [List.foldl_cons, ih hrest, List.mem_append, List.mem_filter, List.mem_singleton,
      List.forall_mem_cons, List.mem_cons, Prod.mk.injEq, decide_eq_true_eq]
    constructor
    · rintro (⟨hmem, hname⟩ | ⟨⟨hmem, hne⟩ | ⟨hname, hpackage⟩, hothers⟩)
      · exact Or.inl ⟨Or.inr hmem, hname⟩
      · exact Or.inr ⟨hmem, fun heq => hne heq.symm, hothers⟩
      · exact Or.inl ⟨Or.inl hpackage, hpackage ▸ hname.symm⟩
    · rintro (⟨rfl | hmem, hname⟩ | ⟨hmem, hfirst, hothers⟩)
      · by_cases hagain : package ∈ packages
        · exact Or.inl ⟨hagain, hname⟩
        · refine Or.inr ⟨Or.inr ⟨hname.symm, rfl⟩, ?_⟩
          intro other hother heq
          have hsame := hunique package List.mem_cons_self other
            (List.mem_cons_of_mem _ hother) (hname.trans heq.symm)
          exact hagain (hsame ▸ hother)
      · exact Or.inl ⟨hmem, hname⟩
      · exact Or.inr ⟨Or.inl ⟨hmem, fun heq => hfirst heq.symm⟩, hothers⟩

theorem mem_workspaceByName {graph : PackageGraph} (hnames : graph.UniqueNames) {name : Text}
    {package : PackageNode} :
    (name, package) ∈ workspaceByName graph ↔ graph.Member package ∧ package.name = name := by
  have hmember (package : PackageNode) :
      package ∈ graph.values.filter (·.workspaceMember) ↔ graph.Member package :=
    List.mem_filter
  have hunique : ∀ package ∈ graph.values.filter (·.workspaceMember),
      ∀ other ∈ graph.values.filter (·.workspaceMember), package.name = other.name →
        package = other := by
    intro package hpackage other hother
    exact hnames package other ((hmember _).mp hpackage) ((hmember _).mp hother)
  unfold workspaceByName
  rw [mem_byName hunique, hmember]
  exact or_iff_left fun h => List.not_mem_nil h.1

theorem named_workspaceByName {graph : PackageGraph} (hnames : graph.UniqueNames) {name : Text}
    {package : PackageNode} :
    named (workspaceByName graph) name = some package ↔
      graph.Member package ∧ package.name = name := by
  unfold named
  constructor
  · intro h
    obtain ⟨entry, hfind, rfl⟩ := Option.map_eq_some_iff.mp h
    have hname : entry.1 = name := by simpa using List.find?_some hfind
    exact (mem_workspaceByName hnames).mp (hname ▸ List.mem_of_find?_eq_some hfind)
  · rintro ⟨hmember, hname⟩
    have hmem := (mem_workspaceByName hnames).mpr ⟨hmember, hname⟩
    cases hfind : (workspaceByName graph).find? (·.1 = name) with
    | none => exact absurd (List.find?_eq_none.mp hfind _ hmem) (by simp)
    | some entry =>
      have hentry : entry.1 = name := by simpa using List.find?_some hfind
      obtain ⟨hother, hsame⟩ :=
        (mem_workspaceByName hnames).mp (show (entry.1, entry.2) ∈ _ from
          List.mem_of_find?_eq_some hfind)
      exact congrArg some
        (hnames _ _ hother hmember (hsame.trans (hentry.trans hname.symm)))

theorem mem_values_workspaceByName {graph : PackageGraph} (hnames : graph.UniqueNames)
    {package : PackageNode} :
    package ∈ (workspaceByName graph).map Prod.snd ↔ graph.Member package := by
  constructor
  · intro h
    obtain ⟨⟨name, other⟩, hmem, rfl⟩ := List.mem_map.mp h
    exact ((mem_workspaceByName hnames).mp hmem).1
  · intro h
    exact List.mem_map_of_mem ((mem_workspaceByName hnames).mpr ⟨h, rfl⟩)

theorem stored_of_member {graph : PackageGraph} (hids : graph.OwnIds) {package : PackageNode}
    (h : graph.Member package) : graph.get package.id = some package := by
  obtain ⟨entry, hentry, rfl⟩ := List.mem_map.mp h.1
  rw [hids entry hentry]
  exact get_eq_some.mpr hentry

/-- The walks from the roots of some names. -/
theorem walkRoots_spec {graph : PackageGraph} (hids : graph.OwnIds) (hnames : graph.UniqueNames)
    {names : List Text} {findings : Findings} :
    ∃ findings', names.foldlM (walkRoot graph (workspaceByName graph)) findings = some findings' ∧
      (findings'.violations = ∅ ↔ findings.violations = ∅ ∧
        ∀ name ∈ names, ∀ root, graph.Member root ∧ root.name = name → LawfulRoot graph root) ∧
      ∀ exception, exception ∈ findings'.usedExceptions ↔
        exception ∈ findings.usedExceptions ∨
          ∃ name ∈ names, ∃ root, (graph.Member root ∧ root.name = name) ∧
            UsingRoot graph root exception := by
  induction names generalizing findings with
  | nil =>
    refine ⟨findings, rfl, (and_iff_left (List.forall_mem_nil _)).symm, ?_⟩
    intro exception
    exact (or_iff_left fun ⟨_, hmem, _⟩ => List.not_mem_nil hmem).symm
  | cons name names ih =>
    rw [List.foldlM_cons]
    unfold walkRoot
    simp only [List.forall_mem_cons, List.exists_mem_cons_iff]
    cases hnamed : named (workspaceByName graph) name with
    | none =>
      have hnone (root : PackageNode) : ¬(graph.Member root ∧ root.name = name) := by
        intro h
        rw [(named_workspaceByName hnames).mpr h] at hnamed
        exact nomatch hnamed
      obtain ⟨findings', hwalks, hsilent, hused⟩ := @ih findings
      refine ⟨findings', hwalks, ?_, ?_⟩
      · rw [hsilent, and_iff_right fun root h => absurd h (hnone root)]
      · intro exception
        rw [hused]
        exact or_congr_right (or_iff_right fun ⟨root, h, _⟩ => hnone root h).symm
    | some root =>
      have hroot (other : PackageNode) :
          graph.Member other ∧ other.name = name ↔ root = other := by
        rw [← named_workspaceByName hnames, hnamed, Option.some.injEq]
      obtain ⟨hmember, -⟩ := (hroot root).mpr rfl
      obtain ⟨found, hwalk, hsilent, hused⟩ :=
        walkNativeClosure_spec hids (stored_of_member hids hmember) findings
      obtain ⟨findings', hwalks, hsilent', hused'⟩ := @ih found
      refine ⟨findings', ?_, ?_, ?_⟩
      · change (walkNativeClosure graph root findings).bind _ = _
        rw [hwalk]
        exact hwalks
      · simp only [hsilent', hsilent, hroot, forall_eq', and_assoc]
      · intro exception
        simp only [hused', hused, hroot, exists_eq_left', or_assoc]

/-- A package of the workspace that the policy names as native. -/
def PackageGraph.NativeRoot (graph : PackageGraph) (root : PackageNode) : Prop :=
  graph.Member root ∧ root.name ∈ graph.config.native

/-- The root has an exception for an edge of its own. -/
def Excepts (graph : PackageGraph) (root : PackageNode) (dependency : DependencyEdge)
    (target : PackageNode) (exception : ForbiddenDependencyException) : Prop :=
  exception ∈ graph.config.forbiddenExceptions ∧ exception.source = root.name ∧
    exception.target = target.name ∧ Declared exception dependency target

/-- An edge ends in a known package that is not outside, and not forbidden without an exception. -/
def EdgeLaw (graph : PackageGraph) (root package : PackageNode) (dependency : DependencyEdge) :
    Prop :=
  ∃ target, graph.get dependency.packageId = some target ∧ ¬Outside target ∧
    (isForbidden target.name graph.config = true →
      package = root ∧ ∃ exception, Excepts graph root dependency target exception)

/-- No two exceptions are about the same edge. -/
def UniquePairs (config : PolicyConfig) : Prop :=
  ∀ exception ∈ config.forbiddenExceptions, ∀ other ∈ config.forbiddenExceptions,
    exception.pair = other.pair → exception = other

/-- The law of the dependency policy. -/
structure Lawful (graph : PackageGraph) : Prop where
  disjoint : ∀ role role' name, name ∈ graph.config.names role →
    name ∈ graph.config.names role' → role = role'
  known : ∀ role, ∀ name ∈ graph.config.names role,
    ∃ package, graph.Member package ∧ package.name = name
  packages : ∀ package, graph.Member package → LawfulPackage graph package
  dependencyFree : graph.config.dependencyFreeNative ≠ ∅
  free : ∀ name ∈ graph.config.dependencyFreeNative, name ∈ graph.config.native ∧
    ∀ package, graph.Member package → package.name = name → package.dependencies = []
  exceptions : ∀ exception ∈ graph.config.forbiddenExceptions,
    LawfulException graph.config exception
  unique : UniquePairs graph.config
  edges : ∀ root, graph.NativeRoot root → ∀ package, graph.Reachable root package →
    ∀ dependency ∈ package.dependencies, EdgeLaw graph root package dependency
  used : ∀ exception ∈ graph.config.forbiddenExceptions, ∃ root, graph.NativeRoot root ∧
    ∃ dependency ∈ root.dependencies, ∃ target,
      graph.get dependency.packageId = some target ∧ Excepts graph root dependency target exception

theorem nodup_pairs {config : PolicyConfig} :
    (config.exceptions.map ForbiddenDependencyException.pair).Nodup ↔ UniquePairs config := by
  unfold UniquePairs
  simp only [← mem_exceptions]
  constructor
  · intro h exception hexception other hother heq
    exact List.inj_on_of_nodup_map h hexception hother heq
  · intro h
    exact List.Nodup.map_on h (Finset.sort_nodup _ _)

theorem configuredException_some {config : PolicyConfig} (hunique : UniquePairs config)
    {root target : PackageNode} {exception : ForbiddenDependencyException} :
    configuredException config root target = some exception ↔
      exception ∈ config.forbiddenExceptions ∧ exception.source = root.name ∧
        exception.target = target.name := by
  unfold configuredException
  constructor
  · intro h
    have hnamed := List.find?_some h
    rw [decide_eq_true_eq] at hnamed
    exact ⟨mem_exceptions.mp (List.mem_of_find?_eq_some h), hnamed⟩
  · rintro ⟨hexception, hsource, htarget⟩
    cases hfind : config.exceptions.find? fun exception =>
        exception.source = root.name ∧ exception.target = target.name with
    | none =>
      have hnone := List.find?_eq_none.mp hfind exception (mem_exceptions.mpr hexception)
      exact absurd (decide_eq_true ⟨hsource, htarget⟩) hnone
    | some other =>
      have hnamed := List.find?_some hfind
      rw [decide_eq_true_eq] at hnamed
      have hother := mem_exceptions.mp (List.mem_of_find?_eq_some hfind)
      have hpair : other.pair = exception.pair := by
        unfold ForbiddenDependencyException.pair
        rw [hnamed.1, hnamed.2, hsource, htarget]
      rw [hunique other hother exception hexception hpair]

/-- With one exception for an edge at most, the walk applies the one that the law asks for. -/
theorem permits_iff {graph : PackageGraph} (hunique : UniquePairs graph.config)
    {root target : PackageNode} {direct : Prop} {dependency : DependencyEdge}
    {exception : ForbiddenDependencyException} :
    Permits graph root direct dependency target exception ↔
      direct ∧ Excepts graph root dependency target exception := by
  unfold Permits Excepts
  rw [configuredException_some hunique, and_assoc, and_assoc]

theorem lawfulRoot_iff {graph : PackageGraph} (hunique : UniquePairs graph.config)
    {root : PackageNode} : LawfulRoot graph root ↔ ∀ package, graph.Reachable root package →
      ∀ dependency ∈ package.dependencies, EdgeLaw graph root package dependency := by
  unfold LawfulRoot LawfulEdge LawfulTarget EdgeLaw
  simp only [permits_iff hunique, exists_and_left]

/-- A lawful exception is used by a root when the root has an edge that it permits. -/
theorem usingRoot_iff {graph : PackageGraph} (hunique : UniquePairs graph.config)
    {root : PackageNode} {exception : ForbiddenDependencyException}
    (hlawful : LawfulException graph.config exception) :
    UsingRoot graph root exception ↔ ∃ dependency ∈ root.dependencies, ∃ target,
      graph.get dependency.packageId = some target ∧
        Excepts graph root dependency target exception := by
  unfold UsingRoot UsingEdge UsedBy
  simp only [permits_iff hunique, true_and]
  constructor
  · rintro ⟨dependency, hdependency, target, htarget, -, hexcepts, -⟩
    exact ⟨dependency, hdependency, target, htarget, hexcepts⟩
  · rintro ⟨dependency, hdependency, target, htarget, hexcepts⟩
    have hforbidden := hlawful.target
    rw [hexcepts.2.2.1] at hforbidden
    exact ⟨dependency, hdependency, target, htarget, hforbidden, hexcepts,
      hlawful.defaultFeatures, hlawful.features⟩

theorem insert_empty {α : Type} {message : α → Text} (violations : TextSet) (x : α) :
    insert (message x) violations = ∅ ↔ violations = ∅ ∧ False :=
  iff_of_false (Finset.insert_ne_empty _ _) fun h => h.2

/-- The check ends for every graph, and accepts those that keep the law. -/
theorem checkGraph_lawful {graph : PackageGraph} (hids : graph.OwnIds)
    (hnames : graph.UniqueNames) : ∃ result, checkGraph graph = some result ∧
      ((∃ summary, result = .ok summary) ↔ Lawful graph) := by
  obtain ⟨findings, hwalks, hsilent, hused⟩ := @walkRoots_spec graph hids hnames
    (ascending graph.config.native) ⟨∅, ∅, validateDependencyLaws graph (workspaceByName graph)
      (validateOwnership graph (workspaceByName graph) ∅)⟩
  rw [validateDependencyLaws_empty, validateOwnership_empty, nodup_pairs] at hsilent
  simp only [true_and, mem_ascending, mem_values_workspaceByName hnames,
    named_workspaceByName hnames, ne_eq, Option.eq_none_iff_forall_ne_some, not_forall,
    not_not] at hsilent
  simp only [Finset.notMem_empty, false_or, mem_ascending] at hused
  generalize hunused : (graph.config.exceptions.filter (· ∉ findings.usedExceptions)).foldl
    (fun violations exception => insert ("forbidden dependency exception ".toList ++
      (quoted (arrow exception.source exception.target) ++ " is unused".toList)) violations)
    findings.violations = violations
  have hviolations : violations = ∅ ↔ findings.violations = ∅ ∧
      ∀ exception ∈ graph.config.forbiddenExceptions, exception ∈ findings.usedExceptions := by
    rw [← hunused, foldl_empty insert_empty]
    simp only [List.mem_filter, decide_eq_true_eq, mem_exceptions, imp_false, not_and, not_not]
  have hlaw : violations = ∅ ↔ Lawful graph := by
    rw [hviolations, hsilent]
    constructor
    · rintro ⟨⟨⟨⟨hdisjoint, hknown, hpackages⟩, hsome, hfree, hexceptions, hunique⟩, hroots⟩, hall⟩
      refine ⟨hdisjoint, hknown, hpackages, hsome, ?_, hexceptions, hunique, ?_, ?_⟩
      · intro name hname
        obtain ⟨hnative, hnone⟩ := hfree name hname
        exact ⟨hnative, fun package hmember hpackage => hnone package ⟨hmember, hpackage⟩⟩
      · intro root hroot
        exact (lawfulRoot_iff hunique).mp (hroots root.name hroot.2 root ⟨hroot.1, rfl⟩)
      · intro exception hexception
        obtain ⟨name, hname, root, ⟨hmember, rfl⟩, husing⟩ :=
          (hused exception).mp (hall exception hexception)
        exact ⟨root, ⟨hmember, hname⟩,
          (usingRoot_iff hunique (hexceptions exception hexception)).mp husing⟩
    · intro h
      refine ⟨⟨⟨⟨h.disjoint, h.known, h.packages⟩, h.dependencyFree, ?_, h.exceptions, h.unique⟩,
        ?_⟩, ?_⟩
      · intro name hname
        obtain ⟨hnative, hnone⟩ := h.free name hname
        exact ⟨hnative, fun package hboth => hnone package hboth.1 hboth.2⟩
      · rintro name hname root ⟨hmember, rfl⟩
        exact (lawfulRoot_iff h.unique).mpr (h.edges root ⟨hmember, hname⟩)
      · intro exception hexception
        obtain ⟨root, ⟨hmember, hname⟩, husing⟩ := h.used exception hexception
        exact (hused exception).mpr ⟨root.name, hname, root, ⟨hmember, rfl⟩,
          (usingRoot_iff h.unique (h.exceptions exception hexception)).mpr husing⟩
  unfold checkGraph
  simp only [hwalks, Option.bind_eq_bind, Option.bind_some, hunused]
  by_cases hempty : violations = ∅
  · rw [if_pos hempty]
    exact ⟨_, rfl, iff_of_true ⟨_, rfl⟩ (hlaw.mp hempty)⟩
  · rw [if_neg hempty]
    refine ⟨_, rfl, iff_of_false ?_ fun h => hempty (hlaw.mpr h)⟩
    rintro ⟨summary, h⟩
    exact nomatch h

def cyclicRoot : PackageNode :=
  ⟨['a'], ['n'], true, some .native, some "forbid".toList, some "deny".toList,
    [⟨['b'], ['x'], []⟩], []⟩

def cyclicTarget : PackageNode :=
  ⟨['b'], ['x'], false, none, none, none, [⟨['a'], ['n'], []⟩, ⟨['d'], ['y'], []⟩], []⟩

def freePackage : PackageNode :=
  ⟨['c'], ['f'], true, some .native, some "forbid".toList, some "deny".toList, [], []⟩

def farPackage : PackageNode := ⟨['d'], ['y'], false, none, none, none, [], []⟩

/-- A native package and one from outside the workspace depend on each other, and the second one
on a further package. -/
def cyclicGraph (forbidden : TextSet) : PackageGraph where
  packages :=
    [(['a'], cyclicRoot), (['b'], cyclicTarget), (['c'], freePackage), (['d'], farPackage)]
  ordered := by decide
  defaultMembers := {['a'], ['c']}
  config := ⟨{['n'], ['f']}, ∅, ∅, {['f']}, ∅, forbidden, ∅⟩

theorem member_cyclicGraph {forbidden : TextSet} {package : PackageNode} :
    (cyclicGraph forbidden).Member package ↔ package = cyclicRoot ∨ package = freePackage := by
  constructor
  · rintro ⟨hvalue, hworkspace⟩
    simp only [PackageGraph.values, cyclicGraph, List.map_cons, List.map_nil, List.mem_cons,
      List.not_mem_nil, or_false] at hvalue
    rcases hvalue with rfl | rfl | rfl | rfl
    · exact .inl rfl
    · cases hworkspace
    · exact .inr rfl
    · cases hworkspace
  · rintro (rfl | rfl)
    · exact ⟨.head _, rfl⟩
    · exact ⟨.tail _ (.tail _ (.head _)), rfl⟩

theorem cyclicGraph_ownIds (forbidden : TextSet) : (cyclicGraph forbidden).OwnIds := by
  simp [PackageGraph.OwnIds, cyclicGraph, cyclicRoot, cyclicTarget, freePackage, farPackage]

theorem cyclicGraph_uniqueNames (forbidden : TextSet) : (cyclicGraph forbidden).UniqueNames := by
  intro package other hpackage hother hname
  rcases member_cyclicGraph.mp hpackage with rfl | rfl <;>
    rcases member_cyclicGraph.mp hother with rfl | rfl
  · rfl
  · cases hname
  · cases hname
  · rfl

theorem cyclicGraph_lawful : Lawful (cyclicGraph ∅) where
  disjoint role role' name hrole hrole' := by
    cases role <;> cases role' <;>
      simp_all [PolicyConfig.names, cyclicGraph]
  known role name hname := by
    cases role with
    | native =>
      simp only [PolicyConfig.names, cyclicGraph, Finset.mem_insert, Finset.mem_singleton] at hname
      rcases hname with rfl | rfl
      · exact ⟨cyclicRoot, member_cyclicGraph.mpr (.inl rfl), rfl⟩
      · exact ⟨freePackage, member_cyclicGraph.mpr (.inr rfl), rfl⟩
    | adapter => simp [PolicyConfig.names, cyclicGraph] at hname
    | tooling => simp [PolicyConfig.names, cyclicGraph] at hname
  packages package hpackage := by
    rcases member_cyclicGraph.mp hpackage with rfl | rfl
    · exact ⟨⟨.native, rfl, by simp [PolicyConfig.names, cyclicGraph, cyclicRoot]⟩,
        fun _ => ⟨rfl, rfl⟩, by simp [cyclicGraph, cyclicRoot]⟩
    · exact ⟨⟨.native, rfl, by simp [PolicyConfig.names, cyclicGraph, freePackage]⟩,
        fun _ => ⟨rfl, rfl⟩, by simp [cyclicGraph, freePackage]⟩
  dependencyFree := by simp [cyclicGraph]
  free name hname := by
    have hfree : name = ['f'] := by simpa [cyclicGraph] using hname
    refine ⟨by simp [cyclicGraph, hfree], fun package hpackage hown => ?_⟩
    rcases member_cyclicGraph.mp hpackage with rfl | rfl
    · cases hown.trans hfree
    · rfl
  exceptions exception hexception := by simp [cyclicGraph] at hexception
  unique exception hexception := by simp [cyclicGraph] at hexception
  edges root hroot package hreach dependency hdependency := by
    have hunforbidden (name : Text) : isForbidden name (cyclicGraph ∅).config = false := by
      simp [isForbidden, cyclicGraph, ascending]
    have hvalue : package ∈ (cyclicGraph ∅).values := by
      cases hreach with
      | refl => exact hroot.1.1
      | tail _ hedge =>
        obtain ⟨_, _, hget⟩ := hedge
        exact List.mem_map_of_mem (get_eq_some.mp hget)
    simp only [PackageGraph.values, cyclicGraph, List.map_cons, List.map_nil, List.mem_cons,
      List.not_mem_nil, or_false] at hvalue
    rcases hvalue with rfl | rfl | rfl | rfl
    · obtain rfl := List.mem_singleton.mp hdependency
      exact ⟨cyclicTarget, rfl, by decide, by simp [hunforbidden]⟩
    · rcases List.mem_cons.mp hdependency with rfl | hrest
      · exact ⟨cyclicRoot, rfl, by decide, by simp [hunforbidden]⟩
      · obtain rfl := List.mem_singleton.mp hrest
        exact ⟨farPackage, rfl, by decide, by simp [hunforbidden]⟩
    · cases hdependency
    · cases hdependency
  used exception hexception := by simp [cyclicGraph] at hexception

/-- The further package is behind an edge of the second one, for which no exception is made. -/
theorem cyclicGraph_forbidden : ¬Lawful (cyclicGraph {['y']}) := by
  intro h
  have hroot : (cyclicGraph {['y']}).NativeRoot cyclicRoot :=
    ⟨member_cyclicGraph.mpr (.inl rfl), by simp [cyclicGraph, cyclicRoot]⟩
  have hreach : (cyclicGraph {['y']}).Reachable cyclicRoot cyclicTarget :=
    .single ⟨⟨['b'], ['x'], []⟩, .head _, rfl⟩
  obtain ⟨target, htarget, -, hforbids⟩ :=
    h.edges cyclicRoot hroot cyclicTarget hreach ⟨['d'], ['y'], []⟩ (.tail _ (.head _))
  cases htarget
  have hforbidden : isForbidden farPackage.name (cyclicGraph {['y']}).config = true := by
    simp [isForbidden, cyclicGraph, farPackage]
  exact absurd (hforbids hforbidden).1 (by decide)

/-- The check ends on the cycle. It accepts the graph, and no longer does once the package behind
the cycle is forbidden. -/
theorem checkGraph_cyclic :
    (∃ summary, checkGraph (cyclicGraph ∅) = some (.ok summary)) ∧
      ∃ error, checkGraph (cyclicGraph {['y']}) = some (.error error) := by
  obtain ⟨accepted, haccepted, hok⟩ :=
    checkGraph_lawful (cyclicGraph_ownIds ∅) (cyclicGraph_uniqueNames ∅)
  obtain ⟨summary, rfl⟩ := hok.mpr cyclicGraph_lawful
  obtain ⟨refused, hrefused, herror⟩ :=
    checkGraph_lawful (cyclicGraph_ownIds {['y']}) (cyclicGraph_uniqueNames {['y']})
  refine ⟨⟨summary, haccepted⟩, ?_⟩
  cases refused with
  | ok found => exact absurd (herror.mp ⟨found, rfl⟩) cyclicGraph_forbidden
  | error error => exact ⟨error, hrefused⟩

end Historian.Policy
