import Historian.Observation

namespace Historian

open Wire Checks

def maxObservations : Nat := 256
def maxGaps : Nat := 64

inductive GapReason where
  | unknown | producerRestart | bufferOverflow | communicationFailure | sourceDataLoss
  | administrativeExclusion
  deriving DecidableEq, Repr

structure Gap where
  epoch : U128
  start : U128
  stop : U128
  reason : GapReason
  nonempty : start < stop
  deriving DecidableEq

def Gap.new (epoch start stop : U128) (reason : GapReason) : Except ModelError Gap :=
  if h : start < stop then .ok ⟨epoch, start, stop, reason, h⟩ else .error .emptyGap

def Gap.contains (gap : Gap) (epoch sequence : U128) : Bool :=
  gap.epoch == epoch && gap.start ≤ sequence && sequence < gap.stop

inductive EvidenceKind where
  | observed | noChange
  deriving DecidableEq, Repr

inductive Evidence where
  | observed (observations : List Observation) (gaps : List Gap)
  | noChange (interval : TimeInterval)
  deriving DecidableEq

/-- The two checks that every observation passes on its own, in the order of the list. The
identities already seen stand for the source's hash set. -/
def validateIdentities (mode : CollectionMode) :
    List ObservationId → List Observation → Except ModelError Unit
  | _, [] => .ok ()
  | seen, observation :: rest => do
    refuse (mode = .interval ∧ observation.interval = none) .missingObservationInterval
    refuse (mode ≠ .interval ∧ observation.interval ≠ none) .unexpectedObservationInterval
    refuse (observation.observationId ∈ seen) .duplicateObservationId
    validateIdentities mode (observation.observationId :: seen) rest

def Observation.positioned (observation : Observation) : Bool :=
  observation.producerPosition.isSome

/-- Adjacent pairs of a list, as the source's windows of two. -/
def windows {α : Type} (xs : List α) : List (α × α) := xs.zip xs.tail

def validatePositionOrder (pair : Observation × Observation) : Except ModelError Unit :=
  match pair.1.producerPosition, pair.2.producerPosition with
  | some previous, some current =>
    refuse (previous.lt current = false) .misorderedProducerPositions
  | _, _ => .error .mixedProducerPositions

def validateGapOrder (pair : Gap × Gap) : Except ModelError Unit := do
  let previous := pair.1
  let current := pair.2
  refuse (current.epoch < previous.epoch ∨
    (current.epoch = previous.epoch ∧ current.start < previous.start)) .misorderedGaps
  refuse (current.epoch = previous.epoch ∧ current.start < previous.stop) .overlappingGaps

/-- A gap the scan has passed once it reaches a position. -/
def Gap.before (gap : Gap) (position : ProducerPosition) : Bool :=
  gap.epoch < position.epoch || (gap.epoch == position.epoch && gap.stop ≤ position.sequence)

/-- The gaps still ahead are carried from one observation to the next, so that one scan of
each list suffices. -/
def validateObservationsOutsideGaps : List Gap → List Observation → Except ModelError Unit
  | _, [] => .ok ()
  | gaps, observation :: rest =>
    match observation.producerPosition with
    | none => .error .mixedProducerPositions
    | some position => do
      let ahead := gaps.dropWhile (·.before position)
      refuse (∃ gap ∈ ahead.head?, gap.contains position.epoch position.sequence = true)
        .observationInsideGap
      validateObservationsOutsideGaps ahead rest

def validateObserved (mode : CollectionMode) (observations : List Observation) (gaps : List Gap) :
    Except ModelError Unit := do
  refuse (maxObservations < observations.length) .tooManyObservations
  refuse (maxGaps < gaps.length) .tooManyGaps
  refuse (observations = [] ∧ gaps = []) .emptyObservedEvidence
  validateIdentities mode [] observations
  let positioned := observations.head?.map (·.positioned)
  refuse (∃ presence ∈ positioned, observations.any (·.positioned != presence) = true)
    .mixedProducerPositions
  if positioned = some true then (windows observations).forM validatePositionOrder else .ok ()
  (windows gaps).forM validateGapOrder
  if positioned = some true then validateObservationsOutsideGaps gaps observations else .ok ()

def Evidence.Valid (mode : CollectionMode) : Evidence → Prop
  | .observed observations gaps => validateObserved mode observations gaps = .ok ()
  | .noChange _ => mode = .changeOnly

/-- An envelope exists only around evidence that its mode admits. -/
structure CollectionEnvelope where
  series : SeriesMetadata
  evidence : Evidence
  isValid : evidence.Valid series.collectionMode
  deriving DecidableEq

def CollectionEnvelope.observed (series : SeriesMetadata) (observations : List Observation)
    (gaps : List Gap) : Except ModelError CollectionEnvelope :=
  match h : validateObserved series.collectionMode observations gaps with
  | .ok () => .ok ⟨series, .observed observations gaps, h⟩
  | .error e => .error e

def CollectionEnvelope.noChange (series : SeriesMetadata) (interval : TimeInterval) :
    Except ModelError CollectionEnvelope :=
  if h : series.collectionMode = .changeOnly then .ok ⟨series, .noChange interval, h⟩
  else .error .invalidNoChangeMode

def CollectionEnvelope.evidenceKind (envelope : CollectionEnvelope) : EvidenceKind :=
  match envelope.evidence with
  | .observed _ _ => .observed
  | .noChange _ => .noChange

def CollectionEnvelope.observations (envelope : CollectionEnvelope) : List Observation :=
  match envelope.evidence with
  | .observed observations _ => observations
  | .noChange _ => []

def CollectionEnvelope.gaps (envelope : CollectionEnvelope) : List Gap :=
  match envelope.evidence with
  | .observed _ gaps => gaps
  | .noChange _ => []

def CollectionEnvelope.noChangeEvidence (envelope : CollectionEnvelope) : Option TimeInterval :=
  match envelope.evidence with
  | .observed _ _ => none
  | .noChange interval => some interval

theorem Gap.new_ok {epoch start stop : U128} {reason : GapReason} {gap : Gap} :
    Gap.new epoch start stop reason = .ok gap ↔
      epoch = gap.epoch ∧ start = gap.start ∧ stop = gap.stop ∧ reason = gap.reason := by
  unfold Gap.new
  rw [dite_ok]
  constructor
  · rintro ⟨h, rfl⟩
    exact ⟨rfl, rfl, rfl, rfl⟩
  · rintro ⟨rfl, rfl, rfl, rfl⟩
    exact ⟨gap.nonempty, rfl⟩

theorem CollectionEnvelope.observed_ok {series : SeriesMetadata} {observations : List Observation}
    {gaps : List Gap} {envelope : CollectionEnvelope} :
    CollectionEnvelope.observed series observations gaps = .ok envelope ↔
      series = envelope.series ∧ envelope.evidence = .observed observations gaps := by
  unfold CollectionEnvelope.observed
  split
  next h =>
    constructor
    · intro he
      cases Except.ok.inj he
      exact ⟨rfl, rfl⟩
    · obtain ⟨_, _, _⟩ := envelope
      rintro ⟨rfl, rfl⟩
      rfl
  next e h =>
    constructor
    · intro he
      cases he
    · obtain ⟨_, _, hv⟩ := envelope
      rintro ⟨rfl, rfl⟩
      exact absurd (h.symm.trans hv) (by simp)

theorem CollectionEnvelope.noChange_ok {series : SeriesMetadata} {interval : TimeInterval}
    {envelope : CollectionEnvelope} :
    CollectionEnvelope.noChange series interval = .ok envelope ↔
      series = envelope.series ∧ envelope.evidence = .noChange interval := by
  obtain ⟨_, _, hv⟩ := envelope
  unfold CollectionEnvelope.noChange
  split
  next h =>
    constructor
    · intro he
      cases Except.ok.inj he
      exact ⟨rfl, rfl⟩
    · rintro ⟨rfl, rfl⟩
      rfl
  next h =>
    constructor
    · intro he
      cases he
    · rintro ⟨rfl, rfl⟩
      exact absurd hv h

/-- The bounds that the constructor enforces on an envelope's two lists. -/
theorem CollectionEnvelope.lengths_le (envelope : CollectionEnvelope) :
    envelope.observations.length ≤ maxObservations ∧ envelope.gaps.length ≤ maxGaps := by
  obtain ⟨series, evidence, hv⟩ := envelope
  cases evidence with
  | noChange interval => simp [CollectionEnvelope.observations, CollectionEnvelope.gaps]
  | observed observations gaps =>
    simp only [Evidence.Valid, validateObserved, then_ok, refuse_ok] at hv
    simp only [CollectionEnvelope.observations, CollectionEnvelope.gaps]
    omega

end Historian
