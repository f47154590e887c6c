/-!
# Binary64 — double precision numbers by their bits

A double is kept as its 64 bits: a sign, eleven bits of exponent and 52 of fraction.

* `Binary64.ofRatio` rounds a quotient of natural numbers to the nearest double, a tie to the even
  one, and past the greatest double to infinity;
* `Binary64.ofDecimal` is the double nearest to `digits * 10 ^ exponent`;
* `Binary64.mul` and `Binary64.div` are the rounded product and quotient of finite doubles.
-/

namespace Readiness

/-- A double precision number. -/
structure Binary64 where
  bits : UInt64
deriving DecidableEq, Repr, Inhabited

namespace Binary64

def twoTo (n : Nat) : Nat := Nat.pow 2 n

def tenTo (n : Nat) : Nat := Nat.pow 10 n

/-- The number of fractions at one exponent. -/
def fractionCount : Nat := 0x10000000000000

/-- The number of magnitudes; the sign is the bit above them. -/
def magnitudeCount : Nat := 0x8000000000000000

def hexDigits (x : Binary64) : List Char :=
  let digits := Nat.toDigits 16 x.bits.toNat
  List.replicate (16 - digits.length) '0' ++ digits

/-- `n / d` rounded to the nearest natural number, a tie to the even one. -/
def roundDiv (n d : Nat) : Nat :=
  let q := n / d
  let r := n % d
  if 2 * r > d || (2 * r = d && q % 2 = 1) then q + 1 else q

/-- The bits of positive infinity, which are above those of every finite magnitude. -/
def infinityBits : Nat := 0x7FF * fractionCount

def withSign (negative : Bool) (magnitude : Nat) : Binary64 :=
  ⟨UInt64.ofNat (if negative then magnitudeCount + magnitude else magnitude)⟩

/-- The quotient at the binary exponent `e`, that is `num / den / 2 ^ e`, rounded. -/
def scaled (num den : Nat) (e : Int) : Nat :=
  if 0 ≤ e then roundDiv num (den * twoTo e.toNat) else roundDiv (num * twoTo (-e).toNat) den

/-- The exponent at which a positive quotient has 53 bits, but at least that of the smallest
double. -/
def exponentOf (num den : Nat) : Int :=
  let guess : Int := (num.log2 : Int) - (den.log2 : Int) - 52
  let short : Bool :=
    if 0 ≤ guess then num < den * twoTo (52 + guess.toNat)
    else num * twoTo (-guess).toNat < den * fractionCount
  max (if short then guess - 1 else guess) (-1074)

/-- The double nearest to `num / den`. The exponent field and the 53 bits of the rounded quotient
add up to the bits of the result, also when the rounding carries. -/
def ofRatio (negative : Bool) (num den : Nat) : Binary64 :=
  if num = 0 then withSign negative 0
  else
    let e := exponentOf num den
    let magnitude := (e + 1074).toNat * fractionCount + scaled num den e
    withSign negative (min magnitude infinityBits)

/-- The double nearest to `digits * 10 ^ exponent`. Exponents so large or small that the result is
infinite or zero are cut short. -/
def ofDecimal (negative : Bool) (digits : Nat) (exponent : Int) : Binary64 :=
  let length : Int := (Nat.toDigits 10 digits).length
  if digits = 0 then withSign negative 0
  else if length + exponent > 400 then withSign negative infinityBits
  else if length + exponent < -400 then withSign negative 0
  else if 0 ≤ exponent then ofRatio negative (digits * tenTo exponent.toNat) 1
  else ofRatio negative digits (tenTo (-exponent).toNat)

def ofNat (n : Nat) : Binary64 := ofRatio false n 1

def isNegative (x : Binary64) : Bool := x.bits.toNat ≥ magnitudeCount

def magnitude (x : Binary64) : Nat := x.bits.toNat % magnitudeCount

/-- Neither an infinity nor a NaN. -/
def isFinite (x : Binary64) : Bool := x.magnitude < infinityBits

def isZero (x : Binary64) : Bool := x.magnitude = 0

def neg (x : Binary64) : Binary64 := withSign (!x.isNegative) x.magnitude

/-- The magnitude of a finite double as a quotient of natural numbers. -/
def ratio (x : Binary64) : Nat × Nat :=
  let field := x.magnitude / fractionCount
  let fraction := x.magnitude % fractionCount
  let m := if field = 0 then fraction else fraction + fractionCount
  let e : Int := (max field 1 : Nat) - 1075
  if 0 ≤ e then (m * twoTo e.toNat, 1) else (m, twoTo (-e).toNat)

def mul (x y : Binary64) : Binary64 :=
  let (a, b) := x.ratio
  let (c, d) := y.ratio
  ofRatio (x.isNegative != y.isNegative) (a * c) (b * d)

/-- The rounded quotient of two finite doubles, the second one not zero. -/
def div (x y : Binary64) : Binary64 :=
  let (a, b) := x.ratio
  let (c, d) := y.ratio
  ofRatio (x.isNegative != y.isNegative) (a * d) (b * c)

def nan : Binary64 := ⟨0x7FF8000000000000⟩

def infinity (negative : Bool) : Binary64 := withSign negative infinityBits

end Binary64

end Readiness
