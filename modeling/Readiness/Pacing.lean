import Readiness.Error

/-!
# Pacing — how often and how long a wait looks

* `Pacing` is an interval and a timeout with `0 < interval ≤ timeout`, and whether a failed
  observation ends the wait;
* `Pacing.make` builds one from two durations or says which of them is invalid;
* `Pacing.ofTimeout` shortens the standard interval to the timeout.
-/

namespace Readiness

/-- The cadence and the deadline of a wait. -/
structure Pacing where
  interval : Duration
  timeout : Duration
  -- A failed observation counts as one that does not satisfy the condition.
  retriesErrors : Bool
  interval_pos : 0 < interval.nanos
  interval_le_timeout : interval.nanos ≤ timeout.nanos
deriving DecidableEq, Repr

namespace Pacing

def defaultInterval : Duration := .ofSecs 2

def defaultTimeout : Duration := .ofSecs 600

/-- Two seconds between observations, for at most ten minutes. -/
def standard : Pacing :=
  ⟨defaultInterval, defaultTimeout, false, by decide, by decide⟩

instance : Inhabited Pacing := ⟨standard⟩

def make (interval timeout : Duration) : Except Error Pacing :=
  if timeout.nanos = 0 then .error (.validation "poll timeout must be greater than zero")
  else if zero : interval.nanos = 0 then
    .error (.validation "poll interval must be greater than zero")
  else if longer : timeout.nanos < interval.nanos then
    .error (.validation
      ("poll interval " ++ interval.render ++ " exceeds timeout " ++ timeout.render))
  else .ok ⟨interval, timeout, false, Nat.pos_of_ne_zero zero, Nat.le_of_not_lt longer⟩

/-- The standard interval, or the whole timeout when that is shorter. -/
def ofTimeout (timeout : Duration) : Except Error Pacing :=
  make (defaultInterval.min timeout) timeout

def retrying (pacing : Pacing) (retry : Bool) : Pacing := { pacing with retriesErrors := retry }

/-! ## Timers

Timers count whole milliseconds and round up, so the instants of a wait are these many milliseconds
after its start. -/

/-- Milliseconds between the end of an observation and the next one. -/
def intervalMillis (pacing : Pacing) : Nat := pacing.interval.timerMillis

/-- Milliseconds until no further observation starts. -/
def timeoutMillis (pacing : Pacing) : Nat := pacing.timeout.timerMillis

/-- Milliseconds until an observation under way is cut off. -/
def cutoffMillis (pacing : Pacing) : Nat := (pacing.timeout.add pacing.interval).timerMillis

theorem intervalMillis_pos (pacing : Pacing) : 0 < pacing.intervalMillis := by
  have := pacing.interval_pos
  simp only [intervalMillis, Duration.timerMillis]
  omega

end Pacing

end Readiness
