import Historian.Frontier
import Historian.PolicyChecks

namespace Historian.Policy

open Historian

def failIf (c : Prop) [Decidable c] (message : Text) (state : Bool × TextSet) : Bool × TextSet :=
  if c then (false, insert message state.2) else state

/-- The features of a list have to be exactly those of the exception. -/
def checkFeatures (exception : ForbiddenDependencyException) (features : List Text)
    (malformed : Text) (different : TextSet → Text) (state : Bool × TextSet) : Bool × TextSet :=
  match checkedFeatureSet features with
  | none => (false, insert malformed state.2)
  | some features => failIf (features ≠ exception.features) (different features) state

def checkDeclaration (exception : ForbiddenDependencyException)
    (declaration : DependencyDeclaration) (state : Bool × TextSet) : Bool × TextSet :=
  let edge := "forbidden dependency exception ".toList ++
    quoted (arrow exception.source exception.target)
  let state := failIf (declaration.kind ≠ .normal)
    (edge ++ " requires a normal manifest dependency".toList) state
  let state := failIf (declaration.isOptional = true)
    (edge ++ " requires a non-optional manifest dependency".toList) state
  let state := failIf (declaration.unconditional = false)
    (edge ++ " requires an unconditional manifest dependency".toList) state
  let state := failIf (declaration.usesDefaultFeatures ≠ exception.defaultFeatures)
    (edge ++ (" requires manifest ".toList ++ quoted "default-features = false".toList)) state
  checkFeatures exception declaration.features
    (edge ++ " manifest declaration contains an empty or duplicate feature".toList)
    (fun features => edge ++ (" manifest features are ".toList ++ (renderFeatures features ++
      ("; expected exactly ".toList ++ renderFeatures exception.features)))) state

def validateForbiddenExceptionEdge (exception : ForbiddenDependencyException)
    (dependency : DependencyEdge) (target : PackageNode) (violations : TextSet) :
    Bool × TextSet :=
  let edge := quoted (arrow exception.source exception.target)
  let valid := !exception.defaultFeatures && !decide (exception.features = ∅)
  let state :=
    match dependency.declarations with
    | [declaration] => checkDeclaration exception declaration (valid, violations)
    | declarations =>
      (false, insert ("forbidden dependency exception ".toList ++ (edge ++
        (" requires exactly one matching direct manifest declaration; found ".toList ++
          Nat.toDigits 10 declarations.length))) violations)
  let identity := "resolved package identity ".toList ++ quoted target.name
  checkFeatures exception target.resolvedFeatures
    (identity ++ " reports an empty or duplicate enabled feature".toList)
    (fun features => identity ++ (" enables features ".toList ++ (renderFeatures features ++
      ("; exception ".toList ++ (edge ++ (" permits exactly ".toList ++
        renderFeatures exception.features)))))) state

/-- What the walks from the roots collect. -/
structure Findings where
  closure : TextSet
  usedExceptions : Finset ForbiddenDependencyException
  violations : TextSet

def Findings.note (findings : Findings) (message : Text) : Findings :=
  { findings with violations := insert message findings.violations }

structure Walk where
  visited : TextSet
  queue : List (Text × List Text)
  findings : Findings

def configuredException (config : PolicyConfig) (root target : PackageNode) :
    Option ForbiddenDependencyException :=
  config.exceptions.find? fun exception =>
    exception.source = root.name ∧ exception.target = target.name

/-- The checks of an edge whose target is known. -/
def checkTarget (graph : PackageGraph) (root : PackageNode) (direct : Bool)
    (dependency : DependencyEdge) (target : PackageNode) (renderedPath : Text)
    (findings : Findings) : Findings :=
  let findings :=
    if target.workspaceMember = true ∧
        (target.role = some .adapter ∨ target.role = some .tooling) then
      findings.note ("native dependency direction reaches workspace ".toList ++
        (target.role.elim "unowned".toList Role.asStr ++ (" package ".toList ++
          (quoted target.name ++ (": ".toList ++ renderedPath)))))
    else findings
  if isForbidden target.name graph.config then
    match configuredException graph.config root target, direct with
    | some exception, true =>
      let checked := validateForbiddenExceptionEdge exception dependency target findings.violations
      { findings with
        usedExceptions :=
          if checked.1 then insert exception findings.usedExceptions else findings.usedExceptions
        violations := checked.2 }
    | _, _ =>
      findings.note ("forbidden package identity ".toList ++ (quoted target.name ++
        (" is in the native closure: ".toList ++ renderedPath)))
  else findings

def pathName (dependency : DependencyEdge) (target : PackageNode) : Text :=
  if dependency.dependencyName = target.name then target.name
  else dependency.dependencyName ++ (" (package ".toList ++ (target.name ++ [')']))

def checkEdge (graph : PackageGraph) (root package : PackageNode) (path : List Text) (walk : Walk)
    (dependency : DependencyEdge) : Walk :=
  match graph.get dependency.packageId with
  | none =>
    let message := "dependency ".toList ++ (quoted dependency.dependencyName ++
      (" from ".toList ++ (quoted package.name ++ (" references unknown package id ".toList ++
        quoted dependency.packageId))))
    { walk with findings := walk.findings.note message }
  | some target =>
    let dependencyPath := path ++ [pathName dependency target]
    let findings := checkTarget graph root (path.length = 1 ∧ package.id = root.id) dependency
      target (" -> ".toList.intercalate dependencyPath) walk.findings
    { visited := insert target.id walk.visited
      queue :=
        if target.id ∈ walk.visited then walk.queue
        else walk.queue ++ [(target.id, dependencyPath)]
      findings := { findings with closure := insert target.id findings.closure } }

def edgeOrder (left right : DependencyEdge) : Bool :=
  left.dependencyName < right.dependencyName ||
    (left.dependencyName = right.dependencyName && left.packageId ≤ right.packageId)

def sortedDependencies (package : PackageNode) : List DependencyEdge :=
  package.dependencies.mergeSort edgeOrder

/-- The loop over the queue; a walk whose queue outlasts the fuel has no result. -/
def walkRounds (graph : PackageGraph) (root : PackageNode) : Nat → Walk → Option Walk
  | 0, walk => if walk.queue = [] then some walk else none
  | fuel + 1, walk =>
    match walk.queue with
    | [] => some walk
    | (packageId, path) :: rest =>
      match graph.get packageId with
      | none =>
        let message :=
          "Cargo resolve graph references unknown package id ".toList ++ quoted packageId
        walkRounds graph root fuel
          { walk with queue := rest, findings := walk.findings.note message }
      | some package =>
        walkRounds graph root fuel
          ((sortedDependencies package).foldl (checkEdge graph root package path)
            { walk with queue := rest })

/-- A walk visits every package once, so one round for each of them is enough. -/
def walkNativeClosure (graph : PackageGraph) (root : PackageNode) (findings : Findings) :
    Option Findings := do
  let walk ← walkRounds graph root graph.packages.length
    ⟨{root.id}, [(root.id, [root.name])],
      { findings with closure := insert root.id findings.closure }⟩
  pure walk.findings

def walkRoot (graph : PackageGraph) (byName : List (Text × PackageNode)) (findings : Findings)
    (name : Text) : Option Findings :=
  match named byName name with
  | none => some findings
  | some root => walkNativeClosure graph root findings

def checkGraph (graph : PackageGraph) : Option (Except PolicyError PolicySummary) := do
  let byName := workspaceByName graph
  let violations := validateOwnership graph byName ∅
  let violations := validateDependencyLaws graph byName violations
  let findings ← (ascending graph.config.native).foldlM (walkRoot graph byName) ⟨∅, ∅, violations⟩
  let unused := graph.config.exceptions.filter (· ∉ findings.usedExceptions)
  let violations := unused.foldl (fun violations exception =>
    insert ("forbidden dependency exception ".toList ++
      (quoted (arrow exception.source exception.target) ++ " is unused".toList)) violations)
    findings.violations
  if violations = ∅ then
    pure (.ok ⟨graph.config.native.card, findings.closure.card⟩)
  else pure (.error ⟨ascending violations⟩)

end Historian.Policy
