import Readiness.Binary64

/-!
# Shortest — the fewest decimal digits that read back

A double stands for every real number that rounds to it. Among the decimals with the fewest digits
in that interval, `Binary64.shortest` is the one nearest to the double itself.

* `Interval` is the interval of a positive double, over one common denominator;
* `Interval.decimal?` looks for a decimal with a given number of digits in it;
* `Binary64.shortest` takes the first number of digits for which there is one. Seventeen always
  suffice.
-/

namespace Readiness

/-- The real numbers that round to a positive double. -/
structure Interval where
  low : Nat
  middle : Nat
  high : Nat
  den : Nat
  -- Both ends belong to the interval.
  closed : Bool

namespace Interval

/-- The interval of a positive double. Below a power of two the doubles are closer together. -/
def ofMagnitude (magnitude : Nat) : Interval :=
  let field := magnitude / Binary64.fractionCount
  let fraction := magnitude % Binary64.fractionCount
  let m := if field = 0 then fraction else fraction + Binary64.fractionCount
  let gap := if fraction = 0 && 1 < field then 1 else 2
  let e : Int := (max field 1 : Nat) - 1077
  let unit := Binary64.twoTo e.toNat
  ⟨(4 * m - gap) * unit, 4 * m * unit, (4 * m + 2) * unit, Binary64.twoTo (-e).toNat, m % 2 = 0⟩

/-- The power of ten of the first digit of a positive quotient. -/
def leadingExponent (num den : Nat) : Int :=
  if den ≤ num then ((Nat.toDigits 10 (num / den)).length : Int) - 1
  else
    let length := (Nat.toDigits 10 (den / num)).length
    if den ≤ num * Binary64.tenTo (length - 1) then 1 - (length : Int) else -(length : Int)

/-- Whether a quotient over the common denominator lies in the interval, with everything scaled. -/
def holds (interval : Interval) (scale x : Nat) : Bool :=
  if interval.closed then interval.low * scale ≤ x && x ≤ interval.high * scale
  else interval.low * scale < x && x < interval.high * scale

/-- The decimal with `count` digits in the interval that is nearest to its middle, as digits and a
power of ten. Of two equally near ones it is the even one. -/
def decimal? (interval : Interval) (count : Nat) : Option (Nat × Int) :=
  let exponent := leadingExponent interval.middle interval.den - count + 1
  let scale := Binary64.tenTo (-exponent).toNat
  let step := Binary64.tenTo exponent.toNat * interval.den
  let below := interval.middle * scale / step
  let above := below + 1
  let rest := interval.middle * scale % step
  let takesAbove := step < 2 * rest || (2 * rest = step && below % 2 = 1)
  match interval.holds scale (below * step), interval.holds scale (above * step) with
  | true, true => some (if takesAbove then above else below, exponent)
  | true, false => some (below, exponent)
  | false, true => some (above, exponent)
  | false, false => none

/-- The first decimal with `count` or more digits; `fuel` bounds the digits. -/
def search (interval : Interval) (count : Nat) : Nat → Nat × Int
  | 0 => (0, 0)
  | fuel + 1 => (interval.decimal? count).getD (interval.search (count + 1) fuel)

end Interval

namespace Binary64

/-- Moves trailing zeros of digits into the power of ten; `fuel` bounds their number. -/
def trim (digits : Nat) (exponent : Int) : Nat → Nat × Int
  | 0 => (digits, exponent)
  | fuel + 1 =>
      if digits != 0 && digits % 10 = 0 then trim (digits / 10) (exponent + 1) fuel
      else (digits, exponent)

def digitLimit : Nat := 17

/-- The digits and the power of ten of the shortest decimal of a finite double, without its
sign. -/
def shortest (x : Binary64) : Nat × Int :=
  if x.isZero then (0, 0)
  else
    let (digits, exponent) := (Interval.ofMagnitude x.magnitude).search 1 digitLimit
    trim digits exponent (digitLimit + 1)

end Binary64

end Readiness
