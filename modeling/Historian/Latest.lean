import Historian.Admission

namespace Historian

def maxPublishedSeries : Nat := 16

structure PublishedObservation where
  series : SeriesMetadata
  observation : Observation
  position : ProducerPosition
  deriving DecidableEq

/-- The entries are shared by every clone; `allocation` names the shared array. -/
structure LatestSnapshot where
  storeId : StoreId
  entries : List PublishedObservation
  allocation : Nat
  deriving DecidableEq

def LatestSnapshot.sharesEntriesWith (self other : LatestSnapshot) : Bool :=
  self.storeId = other.storeId ∧ self.allocation = other.allocation

structure LatestState where
  current : Option LatestSnapshot
  isSealed : Bool
  allocations : Nat
  deriving DecidableEq

def LatestState.new (storeId : StoreId) : LatestState := ⟨some ⟨storeId, [], 0⟩, false, 1⟩

inductive PublicationPlan where
  | noChange
  | advance (base : LatestSnapshot) (index : Option Nat) (candidate : PublishedObservation)
  deriving DecidableEq

inductive PreparedPublication where
  | noChange
  | advance (base next : LatestSnapshot)
  deriving DecidableEq

/-- A later position advances its series; an equal one must repeat the observation. -/
def planExisting (current : LatestSnapshot) (index : Nat)
    (published candidate : PublishedObservation) :
    Option PublicationPlan :=
  if published.series ≠ candidate.series then none
  else if published.position.lt candidate.position then
    some (.advance current (some index) candidate)
  else if candidate.position.lt published.position then some .noChange
  else if candidate.observation = published.observation then some .noChange
  else none

/-- A plan, or a publication fault. -/
def LatestState.plan (latest : LatestState) (candidate : Option PublishedObservation) :
    Option PublicationPlan :=
  match latest.current with
  | none => none
  | some current =>
    if latest.isSealed then none
    else
      match candidate with
      | none => some .noChange
      | some candidate =>
        match current.entries.findIdx? (·.series.seriesId = candidate.series.seriesId) with
        | some index =>
          match current.entries[index]? with
          | some published => planExisting current index published candidate
          | none => none
        | none =>
          if maxPublishedSeries ≤ current.entries.length then none
          else some (.advance current none candidate)

/-- Staging allocates the next array. -/
def LatestState.stage (latest : LatestState) : PublicationPlan → PreparedPublication × LatestState
  | .noChange => (.noChange, latest)
  | .advance base index candidate =>
    let entries := match index with
      | some index => base.entries.set index candidate
      | none => base.entries ++ [candidate]
    (.advance base ⟨base.storeId, entries, latest.allocations⟩,
      { latest with allocations := latest.allocations + 1 })

def LatestState.canComplete (latest : LatestState) (preparation : PreparedPublication) : Bool :=
  match latest.isSealed, latest.current with
  | false, some current =>
    match preparation with
    | .noChange => true
    | .advance base _ => current.sharesEntriesWith base
  | _, _ => false

def LatestState.commit (latest : LatestState) : PreparedPublication → LatestState
  | .noChange => latest
  | .advance _ next => { latest with current := some next }

/-- Sealing succeeds once. -/
def LatestState.seal (latest : LatestState) : Bool × LatestState :=
  if latest.current = none ∨ latest.isSealed then (false, latest)
  else (true, { latest with isSealed := true })

def LatestState.makeUnavailable (latest : LatestState) : LatestState :=
  { latest with current := none, isSealed := true }

end Historian
