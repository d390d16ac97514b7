import EndSession.Number.Numeral
import EndSession.Text.Digit
import EndSession.Value.Printer

/-
This file gives the latest time at which a token may have started to be valid.
-/

namespace EndSession.Claims

open Number

/-- A time or an allowance cannot be computed with. -/
inductive TimeFault where
  /-- It is not a number. -/
  | notNumber
  /-- The clock shows the number that is none. -/
  | undefinedClock
  /-- The clock shows an infinity. -/
  | endlessClock
  /-- The clock shows a text that denotes no number. -/
  | unreadableClock (shown : String)
  /-- The clock shows a numeral with more digits than are read. -/
  | overlongClock (digits : Nat)
  /-- A whole number is too large to be added to a binary64 number. -/
  | tooLarge
deriving DecidableEq

/-- The message of a fault of the clock that has one. -/
def TimeFault.message? : TimeFault → Option String
  | undefinedClock => some "cannot convert float NaN to integer"
  | unreadableClock shown => some ("invalid literal for int() with base 10: " ++ shown)
  | overlongClock digits =>
    some ("Exceeds the limit (" ++ toString Numeral.maxDigits ++
      " digits) for integer string conversion: value has " ++ toString digits ++
      " digits; use sys.set_int_max_str_digits() to increase the limit")
  | _ => none

/-- The time of a check, if one is given, the allowance for clocks that differ, and the clock. -/
structure Timing where
  now : Value
  leeway : Value
  clock : Value

namespace Timing

/-- How many characters or octets of an unreadable clock a message shows. -/
def shownLength : Nat := 200

/-- The part of an unreadable clock that a message shows. -/
def excerpt (shown : String) : String :=
  String.ofList (shown.toList.take shownLength)

/-- The number on a clock that shows a text. -/
def readClock (numeral : List CodePoint) (shown : String) : Except TimeFault Numeric :=
  match Numeral.read numeral with
  | .ok seconds => .ok (.whole seconds)
  | .error .malformed => .error (.unreadableClock (excerpt shown))
  | .error (.tooLong digits) => .error (.overlongClock digits)

/-- A number without its fraction. -/
def truncate (seconds : Rat) : Int :=
  if seconds < 0 then -(-seconds).floor else seconds.floor

/-- The reading of a clock in whole seconds, its fraction cut off. A text is read as a numeral in the
digits of any script, and octets as one in ASCII. -/
def wholeSeconds (clock : Value) : Except TimeFault Numeric :=
  match clock with
  | .text numeral =>
    readClock (numeral.toList.map Text.Digit.toAscii) (Value.printText numeral)
  | .octets numeral =>
    readClock (numeral.map fun octet => .char (Char.ofNat octet.toNat))
      (Value.printOctets (numeral.take shownLength))
  | other =>
    match other.number? with
    | none => .error .notNumber
    | some (.whole seconds) => .ok (.whole seconds)
    | some (.binary .nan) => .error .undefinedClock
    | some (.binary (.infinity _)) => .error .endlessClock
    | some (.binary .negativeZero) => .ok (.whole 0)
    | some (.binary (.finite seconds)) => .ok (.whole (truncate seconds))

/-- The time of the check: the one given, or the clock's. -/
def resolve (timing : Timing) : Except TimeFault Value :=
  if timing.now.isNull then
    match wholeSeconds timing.clock with
    | .error fault => .error fault
    | .ok seconds => .ok (.number seconds)
  else .ok timing.now

/-- A time and an allowance together. -/
def allow (now leeway : Value) : Except TimeFault Numeric :=
  match now.number?, leeway.number? with
  | some time, some allowance =>
    match time.add? allowance with
    | some sum => .ok sum
    | none => .error .tooLarge
  | _, _ => .error .notNumber

/-- The latest time that counts as past: the time of the check and the allowance. -/
def horizon (timing : Timing) : Except TimeFault Numeric :=
  match timing.resolve with
  | .error fault => .error fault
  | .ok now => allow now timing.leeway

/-- A given time and an allowance in whole numbers add up exactly, whatever the clock shows. -/
@[simp] theorem horizon_whole (now leeway : Int) (clock : Value) :
    horizon ⟨.number (.whole now), .number (.whole leeway), clock⟩ = .ok (.whole (now + leeway)) := by
  simp [horizon, resolve, allow, Value.isNull, Value.number?]

/-- Without a given time the clock counts. -/
@[simp] theorem horizon_clock (leeway clock : Int) :
    horizon ⟨.null, .number (.whole leeway), .number (.whole clock)⟩ =
      .ok (.whole (clock + leeway)) := by
  simp [horizon, resolve, wholeSeconds, allow, Value.isNull, Value.number?]

/-- The fraction of a clock is cut off toward zero. -/
@[simp] theorem horizon_fractionalClock (leeway : Int) (clock : Rat) :
    horizon ⟨.null, .number (.whole leeway), .number (.binary (.finite clock))⟩ =
      .ok (.whole (truncate clock + leeway)) := by
  simp [horizon, resolve, wholeSeconds, allow, Value.isNull, Value.number?]

/-- Whole seconds from zero on are those that have passed in full. -/
theorem truncate_of_nonneg {seconds : Rat} (nonneg : 0 ≤ seconds) :
    (truncate seconds : Rat) ≤ seconds ∧ seconds < truncate seconds + 1 := by
  have above := Rat.lt_floor_add_one seconds
  rw [Rat.intCast_add] at above
  rw [truncate, if_neg (Rat.not_lt.mpr nonneg)]
  exact ⟨Rat.floor_le seconds, above⟩

/-- Whole seconds below zero are cut off in the other direction. -/
theorem truncate_of_neg {seconds : Rat} (negative : seconds < 0) :
    seconds ≤ truncate seconds ∧ (truncate seconds : Rat) - 1 < seconds := by
  have below := Rat.floor_le (-seconds)
  have above := Rat.lt_floor_add_one (-seconds)
  rw [Rat.intCast_add] at above
  rw [truncate, if_pos negative, Rat.intCast_neg]
  grind

end Timing

end EndSession.Claims
