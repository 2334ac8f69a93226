import Historian.Bounded

namespace Historian.Policy

open Historian

/-- Strings are ordered by their scalars, which is the order of their bytes. -/
abbrev TextSet := Finset Text

/-- The strings of a set in ascending order, as a loop over the set meets them. -/
def ascending (set : TextSet) : List Text := set.sort (· ≤ ·)

theorem mem_ascending {set : TextSet} {name : Text} : name ∈ ascending set ↔ name ∈ set :=
  Finset.mem_sort _

inductive Role where
  | native | adapter | tooling
  deriving DecidableEq, Repr

def Role.asStr : Role → Text
  | .native => "native".toList
  | .adapter => "adapter".toList
  | .tooling => "tooling".toList

inductive ManifestDependencyKind where
  | normal | other
  deriving DecidableEq, Repr

structure DependencyDeclaration where
  kind : ManifestDependencyKind
  isOptional : Bool
  unconditional : Bool
  usesDefaultFeatures : Bool
  features : List Text
  deriving DecidableEq

structure DependencyEdge where
  packageId : Text
  dependencyName : Text
  declarations : List DependencyDeclaration
  deriving DecidableEq

structure PackageNode where
  id : Text
  name : Text
  workspaceMember : Bool
  role : Option Role
  unsafePolicy : Option Text
  missingDocsPolicy : Option Text
  dependencies : List DependencyEdge
  resolvedFeatures : List Text
  deriving DecidableEq

structure ForbiddenDependencyException where
  source : Text
  target : Text
  defaultFeatures : Bool
  features : TextSet
  deriving DecidableEq

/-- The fields of an exception in the order in which two exceptions are compared. -/
def ForbiddenDependencyException.key (exception : ForbiddenDependencyException) :
    Text ×ₗ Text ×ₗ Bool ×ₗ List Text :=
  toLex (exception.source, toLex (exception.target,
    toLex (exception.defaultFeatures, ascending exception.features)))

theorem ForbiddenDependencyException.key_inj :
    Function.Injective ForbiddenDependencyException.key := by
  intro a b h
  have hfields := Prod.mk.inj (toLex.injective h)
  have hrest := Prod.mk.inj (toLex.injective hfields.2)
  have hlast := Prod.mk.inj (toLex.injective hrest.2)
  have hfeatures : a.features = b.features := by
    ext feature
    rw [← mem_ascending, hlast.2, mem_ascending]
  cases a
  cases b
  simp_all

instance : LinearOrder ForbiddenDependencyException :=
  LinearOrder.lift' ForbiddenDependencyException.key ForbiddenDependencyException.key_inj

structure PolicyConfig where
  native : TextSet
  adapters : TextSet
  tools : TextSet
  dependencyFreeNative : TextSet
  forbiddenExceptions : Finset ForbiddenDependencyException
  forbidden : TextSet
  forbiddenPrefixes : TextSet

def PolicyConfig.exceptions (config : PolicyConfig) : List ForbiddenDependencyException :=
  config.forbiddenExceptions.sort (· ≤ ·)

/-- The packages by their keys, in ascending order. -/
structure PackageGraph where
  packages : List (Text × PackageNode)
  ordered : packages.Pairwise fun entry other => entry.1 < other.1
  defaultMembers : TextSet
  config : PolicyConfig

def PackageGraph.get (graph : PackageGraph) (id : Text) : Option PackageNode :=
  (graph.packages.find? (·.1 = id)).map Prod.snd

def PackageGraph.values (graph : PackageGraph) : List PackageNode := graph.packages.map Prod.snd

structure PolicySummary where
  nativeRootCount : Nat
  nativeClosurePackageCount : Nat
  deriving DecidableEq

structure PolicyError where
  messages : List Text
  deriving DecidableEq

/-- A text between backquotes. -/
def quoted (text : Text) : Text := '\x60' :: (text ++ ['\x60'])

def isForbidden (packageName : Text) (config : PolicyConfig) : Bool :=
  packageName ∈ config.forbidden ||
    (ascending config.forbiddenPrefixes).any fun start => start.isPrefixOf packageName

/-- The features of a list without an empty or a repeated one. -/
def checkedFeatures : TextSet → List Text → Option TextSet
  | result, [] => some result
  | result, feature :: rest =>
    if feature = [] ∨ feature ∈ result then none
    else checkedFeatures (insert feature result) rest

def checkedFeatureSet (features : List Text) : Option TextSet := checkedFeatures ∅ features

def renderFeatures (features : TextSet) : Text :=
  '[' :: (", ".toList.intercalate ((ascending features).map quoted) ++ [']'])

/-- The packages of the workspace by their names; of two packages of one name the later stays. -/
def workspaceByName (graph : PackageGraph) : List (Text × PackageNode) :=
  (graph.values.filter (·.workspaceMember)).foldl
    (fun byName package => byName.filter (·.1 ≠ package.name) ++ [(package.name, package)]) []

def named (byName : List (Text × PackageNode)) (name : Text) : Option PackageNode :=
  (byName.find? (·.1 = name)).map Prod.snd

end Historian.Policy
