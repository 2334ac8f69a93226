import Historian.Identity
import Historian.Time

namespace Historian

open Wire Checks

def maxNativeStatusTokens : Nat := 16

inductive QualityLevel where
  | unknown | good | uncertain | bad | notEvaluated
  deriving DecidableEq, Repr

/-- Six flags in one byte; the two high bits are never set. -/
structure QualityFlags where
  bits : BitVec 8
  known : bits &&& 0xC0#8 = 0#8
  deriving DecidableEq

def QualityFlags.none : QualityFlags := ⟨0#8, by decide⟩

def QualityFlags.set (flags : QualityFlags) (flag : BitVec 8) (h : flag &&& 0xC0#8 = 0#8)
    (enabled : Bool) : QualityFlags :=
  if enabled then ⟨flags.bits ||| flag, by
    rw [BitVec.and_or_distrib_right, flags.known, h, BitVec.or_self]⟩
  else ⟨flags.bits &&& ~~~flag, by
    rw [BitVec.and_assoc, BitVec.and_comm (~~~flag), ← BitVec.and_assoc, flags.known,
      BitVec.zero_and]⟩

def QualityFlags.withStale (flags : QualityFlags) := flags.set 1#8 (by decide)
def QualityFlags.withInvalid (flags : QualityFlags) := flags.set 2#8 (by decide)
def QualityFlags.withSubstituted (flags : QualityFlags) := flags.set 4#8 (by decide)
def QualityFlags.withOverridden (flags : QualityFlags) := flags.set 8#8 (by decide)
def QualityFlags.withOutOfService (flags : QualityFlags) := flags.set 16#8 (by decide)
def QualityFlags.withCommunicationFailure (flags : QualityFlags) := flags.set 32#8 (by decide)

def QualityFlags.stale (flags : QualityFlags) : Bool := flags.bits &&& 1#8 != 0#8
def QualityFlags.invalid (flags : QualityFlags) : Bool := flags.bits &&& 2#8 != 0#8
def QualityFlags.substituted (flags : QualityFlags) : Bool := flags.bits &&& 4#8 != 0#8
def QualityFlags.overridden (flags : QualityFlags) : Bool := flags.bits &&& 8#8 != 0#8
def QualityFlags.outOfService (flags : QualityFlags) : Bool := flags.bits &&& 16#8 != 0#8
def QualityFlags.communicationFailure (flags : QualityFlags) : Bool := flags.bits &&& 32#8 != 0#8

structure Quality where
  level : QualityLevel
  flags : QualityFlags
  deriving DecidableEq

structure NativeStatus where
  tokens : List NativeStatusToken
  bounded : tokens.length ≤ maxNativeStatusTokens
  deriving DecidableEq

def NativeStatus.new (tokens : List NativeStatusToken) : Except ModelError NativeStatus :=
  if h : tokens.length ≤ maxNativeStatusTokens then .ok ⟨tokens, h⟩
  else .error .tooManyNativeStatusTokens

/-- The bit pattern of an IEEE 754 double; it is never interpreted here. -/
structure RealBits where
  bits : U64
  deriving DecidableEq

structure ContentIdentity where
  format : ContentFormat
  version : U128
  sha256 : Bytes
  sha256_length : sha256.length = 32
  deriving DecidableEq

structure ArtifactReference where
  artifactId : ArtifactId
  content : ContentIdentity
  deriving DecidableEq

structure StateValue where
  stateClass : StateClass
  member : StateMember
  deriving DecidableEq

inductive ExactValue where
  | real (value : RealBits)
  | signed (value : Int64)
  | unsigned (value : U64)
  | boolean (value : Bool)
  | state (value : StateValue)
  | text (value : ExactText)
  | artifact (value : ArtifactReference)
  | unavailable (reason : Option UnavailableReason)
  deriving DecidableEq

/-- Producer positions are ordered by epoch, then by sequence. -/
structure ProducerPosition where
  epoch : U128
  sequence : U128
  deriving DecidableEq

def ProducerPosition.lt (a b : ProducerPosition) : Bool :=
  a.epoch < b.epoch || (a.epoch == b.epoch && a.sequence < b.sequence)

inductive CollectionMode where
  | sampled | changeOnly | cumulative | interval | event
  deriving DecidableEq, Repr

structure SeriesMetadata where
  seriesId : SeriesId
  producerId : ProducerId
  collectionMode : CollectionMode
  deriving DecidableEq

structure Observation where
  observationId : ObservationId
  value : ExactValue
  times : ObservationTimes
  quality : Quality
  nativeStatus : NativeStatus
  producerPosition : Option ProducerPosition
  interval : Option TimeInterval
  deriving DecidableEq

theorem NativeStatus.new_ok {tokens : List NativeStatusToken} {status : NativeStatus} :
    NativeStatus.new tokens = .ok status ↔ tokens = status.tokens := by
  unfold NativeStatus.new
  rw [dite_ok]
  constructor
  · rintro ⟨h, rfl⟩
    rfl
  · rintro rfl
    exact ⟨status.bounded, rfl⟩

end Historian
