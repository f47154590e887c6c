/-!
# Durations — exact spans of time and their written form

A wait is described by spans of time that are kept to the nanosecond. This file holds

* `Duration`, a count of nanoseconds, with its constructors and views in seconds and milliseconds;
* `Duration.render`, the text used in messages: the largest unit with a nonzero whole part
  (`s`, `ms`, `µs`, `ns`) and a fraction without trailing zeros;
* `Duration.timerMillis`, the whole milliseconds after which a timer set for the span fires.
-/

namespace Readiness

/-- A span of time, counted in nanoseconds. -/
structure Duration where
  nanos : Nat
deriving DecidableEq, Repr, Inhabited

namespace Duration

instance : LE Duration := ⟨fun a b => a.nanos ≤ b.nanos⟩
instance : LT Duration := ⟨fun a b => a.nanos < b.nanos⟩

instance (a b : Duration) : Decidable (a ≤ b) := inferInstanceAs (Decidable (a.nanos ≤ b.nanos))
instance (a b : Duration) : Decidable (a < b) := inferInstanceAs (Decidable (a.nanos < b.nanos))

def zero : Duration := ⟨0⟩

def ofMillis (ms : Nat) : Duration := ⟨ms * 1000000⟩

def ofSecs (s : Nat) : Duration := ⟨s * 1000000000⟩

def ofParts (secs nanos : Nat) : Duration := ⟨secs * 1000000000 + nanos⟩

def add (a b : Duration) : Duration := ⟨a.nanos + b.nanos⟩

def min (a b : Duration) : Duration := if a ≤ b then a else b

def secs (d : Duration) : Nat := d.nanos / 1000000000

def subsecNanos (d : Duration) : Nat := d.nanos % 1000000000

def millis (d : Duration) : Nat := d.nanos / 1000000

/-- A timer counts whole milliseconds and never fires early, so it rounds the span up. -/
def timerMillis (d : Duration) : Nat := (d.nanos + 999999) / 1000000

/-! ## Written form -/

/-- The digits of `n`, padded on the left with zeros to `width`, less the zeros at the end. -/
def fractionDigits (width n : Nat) : List Char :=
  let digits := Nat.toDigits 10 n
  let padded := List.replicate (width - digits.length) '0' ++ digits
  (padded.reverse.dropWhile (· = '0')).reverse

/-- A whole part and a remainder out of `10 ^ width`, in the unit `unit`. -/
def renderIn (whole rest width : Nat) (unit : String) : String :=
  if rest = 0 then toString whole ++ unit
  else toString whole ++ "." ++ String.ofList (fractionDigits width rest) ++ unit

/-- The written form uses the largest unit whose whole part is not zero, and `0ns` for nothing. -/
def render (d : Duration) : String :=
  if 1000000000 ≤ d.nanos then renderIn (d.nanos / 1000000000) (d.nanos % 1000000000) 9 "s"
  else if 1000000 ≤ d.nanos then renderIn (d.nanos / 1000000) (d.nanos % 1000000) 6 "ms"
  else if 1000 ≤ d.nanos then renderIn (d.nanos / 1000) (d.nanos % 1000) 3 "µs"
  else renderIn d.nanos 0 0 "ns"

@[simp] theorem timerMillis_ofMillis (ms : Nat) : (ofMillis ms).timerMillis = ms := by
  simp only [timerMillis, ofMillis]
  omega

@[simp] theorem millis_ofMillis (ms : Nat) : (ofMillis ms).millis = ms := by
  simp only [millis, ofMillis]
  omega

end Duration

end Readiness
