import Historian.Bounded

namespace Historian

open Checks

def nanosPerSecond : Nat := 1000000000

structure Timestamp where
  unixSeconds : Int64
  nanosecond : U32
  isNormal : nanosecond.val < nanosPerSecond
  deriving DecidableEq

def Timestamp.new (unixSeconds : Int64) (nanosecond : U32) : Except ModelError Timestamp :=
  if h : nanosecond.val < nanosPerSecond then .ok ⟨unixSeconds, nanosecond, h⟩
  else .error .invalidNanosecond

def Timestamp.lt (a b : Timestamp) : Bool :=
  a.unixSeconds < b.unixSeconds ||
    (a.unixSeconds == b.unixSeconds && a.nanosecond < b.nanosecond)

structure ObservationTimes where
  source : Option Timestamp
  receive : Timestamp
  effective : Timestamp
  deriving DecidableEq

structure TimeInterval where
  start : Timestamp
  stop : Timestamp
  nonempty : start.lt stop = true
  deriving DecidableEq

def TimeInterval.new (start stop : Timestamp) : Except ModelError TimeInterval :=
  if h : start.lt stop then .ok ⟨start, stop, h⟩ else .error .emptyTimeInterval

theorem Timestamp.new_ok {s : Int64} {n : U32} {t : Timestamp} :
    Timestamp.new s n = .ok t ↔ s = t.unixSeconds ∧ n = t.nanosecond := by
  unfold Timestamp.new
  rw [dite_ok]
  constructor
  · rintro ⟨h, rfl⟩
    exact ⟨rfl, rfl⟩
  · rintro ⟨rfl, rfl⟩
    exact ⟨t.isNormal, rfl⟩

theorem TimeInterval.new_ok {a b : Timestamp} {i : TimeInterval} :
    TimeInterval.new a b = .ok i ↔ a = i.start ∧ b = i.stop := by
  unfold TimeInterval.new
  rw [dite_ok]
  constructor
  · rintro ⟨h, rfl⟩
    exact ⟨rfl, rfl⟩
  · rintro ⟨rfl, rfl⟩
    exact ⟨i.nonempty, rfl⟩

end Historian
