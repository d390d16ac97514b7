/-
This file holds binary64 numbers as the rationals they stand for. Every operation computes the
exact rational and rounds it once, to the nearest number and on a tie to the even one.
-/

namespace EndSession.Number

/-- This is the nearest natural number of a quotient. A tie goes to the even neighbour. -/
def roundHalfEven (numerator denominator : Nat) : Nat :=
  let quotient := numerator / denominator
  let twice := 2 * (numerator % denominator)
  if twice < denominator then quotient
  else if denominator < twice then quotient + 1
  else if quotient % 2 = 0 then quotient else quotient + 1

/-- A binary64 number. A finite one is the rational it stands for; the zero with a sign stands
apart, since that sign is no part of a rational. -/
inductive Binary64 where
  | nan
  | infinity (negative : Bool)
  | negativeZero
  | finite (value : Rat)
deriving DecidableEq

namespace Binary64

/-- The power of two with an exponent of either sign. -/
def powerOfTwo (exponent : Int) : Rat :=
  if 0 ≤ exponent then (Nat.pow 2 exponent.toNat : Rat)
  else 1 / (Nat.pow 2 (-exponent).toNat : Rat)

/-- The exponent of the greatest power of two that is at most the positive value. -/
def binaryOrder (value : Rat) : Int :=
  let estimate : Int := (value.num.natAbs.log2 : Int) - (value.den.log2 : Int)
  if value < powerOfTwo estimate then estimate - 1 else estimate

/-- Neighbouring binary64 numbers of this size are this power of two apart: there are 53 binary
digits, and none below the exponent -1074. -/
def unitExponent (value : Rat) : Int :=
  max (binaryOrder value - 52) (-1074)

/-- Binary64 numbers end below this power of two. -/
def overflow : Rat := powerOfTwo 1024

/-- The nearest multiple of the unit of a positive value. -/
def roundMagnitude (value : Rat) : Rat :=
  let unit := powerOfTwo (unitExponent value)
  let count := value / unit
  (roundHalfEven count.num.natAbs count.den : Rat) * unit

/-- The binary64 number nearest to a rational. What is out of range becomes an infinity. -/
def ofRat (value : Rat) : Binary64 :=
  if value = 0 then finite 0
  else if 0 < value then
    let rounded := roundMagnitude value
    if rounded < overflow then finite rounded else infinity false
  else
    let rounded := roundMagnitude (-value)
    if rounded = 0 then negativeZero
    else if rounded < overflow then finite (-rounded) else infinity true

/-- The rational that a finite number stands for. -/
def toRat? : Binary64 → Option Rat
  | nan => none
  | infinity _ => none
  | negativeZero => some 0
  | finite value => some value

/-- The sum, rounded once. Opposite infinities have none. -/
def add : Binary64 → Binary64 → Binary64
  | nan, _ => nan
  | _, nan => nan
  | infinity left, infinity right => if left = right then infinity left else nan
  | infinity negative, _ => infinity negative
  | _, infinity negative => infinity negative
  | negativeZero, negativeZero => negativeZero
  | negativeZero, finite value => finite value
  | finite value, negativeZero => finite value
  | finite left, finite right => ofRat (left + right)

/-- Both zeros are zero. -/
def isZero : Binary64 → Bool
  | negativeZero => true
  | finite value => value == 0
  | _ => false

end Binary64

end EndSession.Number
