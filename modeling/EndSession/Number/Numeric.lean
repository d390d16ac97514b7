import EndSession.Number.Binary64

/-
This file compares and adds numbers that are either whole or binary64. A comparison is exact; a sum
of both kinds first rounds the whole number.
-/

namespace EndSession.Number

/-- A number is a whole number of any size or a binary64 number. -/
inductive Numeric where
  | whole (value : Int)
  | binary (value : Binary64)
deriving DecidableEq

namespace Numeric

/-- The rational that a finite number stands for. -/
def toRat? : Numeric → Option Rat
  | whole value => some value
  | binary value => value.toRat?

/-- The left number is less than the right one. Nothing is less or greater than a number that is
none. -/
def less : Numeric → Numeric → Bool
  | binary .nan, _ => false
  | _, binary .nan => false
  | binary (.infinity negative), binary (.infinity other) => negative && !other
  | binary (.infinity negative), _ => negative
  | _, binary (.infinity negative) => !negative
  | left, right =>
    match left.toRat?, right.toRat? with
    | some low, some high => low < high
    | _, _ => false

/-- Two numbers are equal when they have one value, of whatever kind. Nothing equals a number that is
none. -/
def same : Numeric → Numeric → Bool
  | whole left, whole right => left == right
  | binary (.infinity negative), binary (.infinity other) => negative == other
  | left, right =>
    match left.toRat?, right.toRat? with
    | some value, some other => value == other
    | _, _ => false

/-- The number is a zero. -/
def isZero : Numeric → Bool
  | whole value => value == 0
  | binary value => value.isZero

/-- The number is neither an infinity nor the number that is none. -/
def isFinite (number : Numeric) : Bool :=
  number.toRat?.isSome

/-- The binary64 number nearest to a number; a whole number out of range has none. -/
def toBinary? : Numeric → Option Binary64
  | binary value => some value
  | whole value =>
    match Binary64.ofRat value with
    | .infinity _ => none
    | rounded => some rounded

/-- The sum of two numbers. Whole numbers add exactly; otherwise both are rounded to binary64. -/
def add? : Numeric → Numeric → Option Numeric
  | whole left, whole right => some (whole (left + right))
  | left, right =>
    match left.toBinary?, right.toBinary? with
    | some value, some other => some (binary (value.add other))
    | _, _ => none

@[simp] theorem add?_whole (left right : Int) :
    add? (whole left) (whole right) = some (whole (left + right)) := rfl

end Numeric

end EndSession.Number
