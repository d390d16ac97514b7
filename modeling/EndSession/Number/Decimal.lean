import EndSession.Number.Binary64

/-
This file writes a binary64 number with the fewest decimal digits that read back to it, and reads
such a text. Of two texts of one length the nearer one is taken, and on a tie the even one.
-/

namespace EndSession.Number

/-- The value of a decimal is its digits times a power of ten. -/
structure Decimal where
  digits : Nat
  exponent : Int
deriving DecidableEq

/-- The power of ten with an exponent of either sign. -/
def powerOfTen (exponent : Int) : Rat :=
  if 0 ≤ exponent then (Nat.pow 10 exponent.toNat : Rat)
  else 1 / (Nat.pow 10 (-exponent).toNat : Rat)

namespace Decimal

/-- The rational that a decimal stands for. -/
def toRat (decimal : Decimal) : Rat :=
  (decimal.digits : Rat) * powerOfTen decimal.exponent

/-- The least exponent whose power of ten lies above the positive value. The estimate from the
binary order is at most two too small. -/
def order (value : Rat) : Int :=
  let estimate := (Binary64.binaryOrder value * 30103).fdiv 100000
  if value < powerOfTen estimate then estimate
  else if value < powerOfTen (estimate + 1) then estimate + 1 else estimate + 2

end Decimal

namespace Binary64

/-- The rationals that round to a positive number lie between these two. Below a power of two the
numbers are twice as dense, unless they have reached their least unit. -/
def readingInterval (value : Rat) : Rat × Rat :=
  let unit := powerOfTwo (unitExponent value)
  let narrow := value == powerOfTwo (binaryOrder value) && unitExponent value != -1074
  (value - unit / (if narrow then 4 else 2), value + unit / 2)

/-- The ends of the interval round to the number exactly when its count of units is even. -/
def endsIncluded (value : Rat) : Bool :=
  (value / powerOfTwo (unitExponent value)).num % 2 == 0

/-- A decimal reads back to a positive number when it lies in the number's interval. -/
def readsBack (value : Rat) (decimal : Decimal) : Bool :=
  let (low, high) := readingInterval value
  let candidate := decimal.toRat
  (low < candidate && candidate < high) ||
    (endsIncluded value && (candidate == low || candidate == high))

/-- The candidate on the grid with this many digits: the nearer of the two neighbours of the value,
if it reads back, and otherwise the other one. -/
def onGrid? (value : Rat) (count : Nat) : Option Decimal :=
  let exponent := Decimal.order value - count
  let scaled := value / powerOfTen exponent
  let below := scaled.floor.toNat
  let nearest := roundHalfEven scaled.num.natAbs scaled.den
  let other := if nearest = below then below + 1 else below
  if readsBack value ⟨nearest, exponent⟩ then some ⟨nearest, exponent⟩
  else if readsBack value ⟨other, exponent⟩ then some ⟨other, exponent⟩ else none

/-- The decimal value of a positive number, all its digits written. -/
def exactDecimal (value : Rat) : Decimal :=
  ⟨value.num.natAbs * Nat.pow 5 value.den.log2, -(value.den.log2 : Int)⟩

/-- The decimal with the fewest digits that reads back to a positive number. -/
def shortest (value : Rat) : Decimal :=
  ((List.range' 1 17).findSome? (onGrid? value)).getD (exactDecimal value)

/-- Exponents of the first digit from -4 to 15 are written positionally, all others with a signed
exponent of at least two digits. A whole number keeps its point and one zero. -/
def layout (decimal : Decimal) : List Char :=
  let written := Nat.toDigits 10 decimal.digits
  let lead := decimal.exponent + (written.length : Int) - 1
  let digits := (written.reverse.dropWhile (· == '0')).reverse
  if lead < -4 ∨ 16 ≤ lead then
    let fraction := digits.drop 1
    let power := Nat.toDigits 10 lead.natAbs
    digits.take 1 ++ (if fraction.isEmpty then [] else '.' :: fraction) ++
      ['e', if lead < 0 then '-' else '+'] ++
      (if power.length < 2 then '0' :: power else power)
  else if lead < 0 then
    ['0', '.'] ++ List.replicate (-lead - 1).toNat '0' ++ digits
  else
    let whole := (lead + 1).toNat
    let fraction := digits.drop whole
    digits.take whole ++ List.replicate (whole - digits.length) '0' ++ '.' ::
      (if fraction.isEmpty then ['0'] else fraction)

/-- The text of a number. -/
def write : Binary64 → List Char
  | nan => ['n', 'a', 'n']
  | infinity negative => (if negative then ['-'] else []) ++ ['i', 'n', 'f']
  | negativeZero => ['-', '0', '.', '0']
  | finite value =>
    if value = 0 then ['0', '.', '0']
    else if value < 0 then '-' :: layout (shortest (-value))
    else layout (shortest value)

/-- The value of a run of decimal digits, which may not be empty. -/
def readDigits? (digits : List Char) : Option Nat :=
  if digits.isEmpty || !digits.all Char.isDigit then none
  else some (digits.foldl (fun value digit => 10 * value + (digit.toNat - '0'.toNat)) 0)

/-- The value of a run of decimal digits with an optional sign. -/
def readSigned? : List Char → Option Int
  | '-' :: digits => (readDigits? digits).map fun value => -(value : Int)
  | '+' :: digits => (readDigits? digits).map Int.ofNat
  | digits => (readDigits? digits).map Int.ofNat

/-- A decimal of digits, an optional point and an optional exponent. -/
def readDecimal? (text : List Char) : Option Decimal := do
  let mantissa := text.takeWhile (· != 'e')
  let power ← match text.dropWhile (· != 'e') with
    | [] => some 0
    | _ :: exponent => readSigned? exponent
  let whole := mantissa.takeWhile (· != '.')
  let fraction := (mantissa.dropWhile (· != '.')).drop 1
  let digits ← readDigits? (whole ++ fraction)
  some ⟨digits, power - fraction.length⟩

/-- The number that a text without a sign denotes. -/
def readMagnitude? (text : List Char) : Option Binary64 :=
  if text = ['n', 'a', 'n'] then some nan
  else if text = ['i', 'n', 'f'] then some (infinity false)
  else (readDecimal? text).map fun decimal => ofRat decimal.toRat

/-- The number with the opposite sign. -/
def negate : Binary64 → Binary64
  | nan => nan
  | infinity negative => infinity (!negative)
  | negativeZero => finite 0
  | finite value => if value = 0 then negativeZero else finite (-value)

/-- The number that a text denotes. -/
def read? : List Char → Option Binary64
  | '-' :: text => (readMagnitude? text).map negate
  | text => readMagnitude? text

end Binary64

end EndSession.Number
