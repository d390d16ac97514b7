import EndSession.Text.Split

/-
This file reads whole numbers that are written in ASCII: blanks around a sign and digits, among which
single underscores may stand. Numbers with too many digits are neither read nor written.
-/

namespace EndSession.Number.Numeral

open Text

/-- A text denotes no number. -/
inductive Fault where
  | malformed
  /-- The numeral has more digits than are read. -/
  | tooLong (digits : Nat)
deriving DecidableEq

/-- A numeral has at most this many digits, whether it is read or written. -/
def maxDigits : Nat := 4300

/-- A whole number has more digits than are written. -/
def isOverlong (number : Int) : Bool :=
  decide (Nat.pow 10 maxDigits ≤ number.natAbs)

/-- The message about a whole number that is not written. -/
def overlongMessage : String :=
  "Exceeds the limit (" ++ toString maxDigits ++
    " digits) for integer string conversion; use sys.set_int_max_str_digits() to increase the limit"

/-- A space, a tab, or another character that ends or feeds a line. -/
def isBlank (point : CodePoint) : Bool :=
  point == ' ' || (0x09 ≤ point.toNat && point.toNat ≤ 0x0D)

/-- The code point may stand in a run of digits. -/
def inRun (point : CodePoint) : Bool :=
  point.isDigit || point == '_'

/-- The number that a run of digits denotes. Underscores separate groups, none of them empty. -/
def readRun (run : List CodePoint) : Except Fault Nat :=
  let groups := splitOn '_' run
  let digits := groups.flatten
  if groups.any List.isEmpty then .error .malformed
  else if maxDigits < digits.length then .error (.tooLong digits.length)
  else .ok (digits.foldl (fun total digit => 10 * total + (digit.toNat - '0'.toNat)) 0)

/-- The run of digits at the head of a text, behind which only blanks may stand. A run that is too
long is noticed before what stands behind it. -/
def readMagnitude (text : List CodePoint) : Except Fault Nat :=
  match readRun (text.takeWhile inRun) with
  | .error fault => .error fault
  | .ok magnitude => if (text.dropWhile inRun).all isBlank then .ok magnitude else .error .malformed

/-- The number with the sign in front of it. -/
def readSigned : List CodePoint → Except Fault Int
  | .char '+' :: rest => (readMagnitude rest).map Int.ofNat
  | .char '-' :: rest => (readMagnitude rest).map fun magnitude => -Int.ofNat magnitude
  | text => (readMagnitude text).map Int.ofNat

/-- The number that a text denotes. -/
def read (text : List CodePoint) : Except Fault Int :=
  readSigned (text.dropWhile isBlank)

end EndSession.Number.Numeral
