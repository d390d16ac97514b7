import EndSession.Calendar.Date
import EndSession.Number.Numeric

/-
This file relates dates with a time of day to the seconds since the start of 1970 in UTC. A numeric
date is such a count, and exists for the years 1 to 9999.
-/

namespace EndSession.Calendar

open Number

/-- A date and a time of day, with the seconds that its clock is ahead of UTC, if it says so. -/
structure DateTime where
  date : Date
  hour : Nat
  minute : Nat
  second : Nat
  microsecond : Nat
  offset : Option Int
deriving DecidableEq

/-- The day count of the first of January 1970. -/
def epochDay : Nat := 719162

/-- The numeric date at which the year 1 begins. -/
def firstSecond : Int := -62135596800

/-- The numeric date of the last second of the year 9999. -/
def lastSecond : Int := 253402300799

namespace DateTime

/-- The seconds since the start of 1970 in UTC, without the fraction. A clock that names no offset
shows UTC. -/
def epochSeconds (moment : DateTime) : Int :=
  ((moment.date.dayCount : Int) - epochDay) * 86400 + moment.hour * 3600 + moment.minute * 60 +
    moment.second - moment.offset.getD 0

/-- The numeric date of a moment whose year in UTC is in range. -/
def numericDate? (moment : DateTime) : Option Int :=
  if firstSecond ≤ moment.epochSeconds ∧ moment.epochSeconds ≤ lastSecond then
    some moment.epochSeconds
  else none

/-- The moment in UTC of a count of seconds in range. -/
def ofEpoch? (seconds : Int) (microsecond : Nat) : Option DateTime :=
  if firstSecond ≤ seconds ∧ seconds ≤ lastSecond then
    let sinceFirst := (seconds - firstSecond).toNat
    let inDay := sinceFirst % 86400
    some ⟨Date.ofDayCount (sinceFirst / 86400), inDay / 3600, inDay / 60 % 60, inDay % 60,
      microsecond, some 0⟩
  else none

/-- A number of seconds splits into whole seconds, rounded down, and microseconds. The fraction is
taken first, scaled as a binary64 number, and rounded half to even. -/
def splitSeconds (seconds : Rat) : Int × Nat :=
  let whole := if seconds < 0 then -(-seconds).floor else seconds.floor
  let scaled := ((Binary64.ofRat ((seconds - (whole : Rat)) * 1000000)).toRat?).getD 0
  let rounded := roundHalfEven scaled.num.natAbs scaled.den
  if scaled < 0 then
    if rounded = 0 then (whole, 0) else (whole - 1, 1000000 - rounded)
  else if 1000000 ≤ rounded then (whole + 1, rounded - 1000000)
  else (whole, rounded)

/-- The moment in UTC that a number of seconds since the start of 1970 denotes. -/
def ofNumber? : Numeric → Option DateTime
  | .whole seconds => ofEpoch? seconds 0
  | .binary value =>
    match value.toRat? with
    | none => none
    | some seconds =>
      let (whole, microsecond) := splitSeconds seconds
      ofEpoch? whole microsecond

/-- A number with leading zeros up to a width. -/
def padded (width value : Nat) : String :=
  let digits := Nat.toDigits 10 value
  String.ofList (List.replicate (width - digits.length) '0' ++ digits)

/-- The offset of a clock as signed hours and minutes, and seconds if there are any. -/
def writeOffset (offset : Int) : String :=
  let size := offset.natAbs
  (if offset < 0 then "-" else "+") ++ padded 2 (size / 3600) ++ ":" ++ padded 2 (size / 60 % 60) ++
    (if size % 60 = 0 then "" else ":" ++ padded 2 (size % 60))

/-- The date, the time of day, six digits of the second if it is not whole, and the offset. A
separator stands between the date and the time of day. -/
def writeBetween (separator : Char) (moment : DateTime) : String :=
  padded 4 moment.date.year ++ "-" ++ padded 2 moment.date.month ++ "-" ++
    padded 2 moment.date.day ++ separator.toString ++ padded 2 moment.hour ++ ":" ++
    padded 2 moment.minute ++ ":" ++ padded 2 moment.second ++
    (if moment.microsecond = 0 then "" else "." ++ padded 6 moment.microsecond) ++
    (match moment.offset with
      | none => ""
      | some offset => writeOffset offset)

/-- The moment with the letter T between its date and its time of day. -/
def write (moment : DateTime) : String :=
  moment.writeBetween 'T'

/-- A count of seconds has a moment exactly when it is in range. -/
theorem isSome_ofEpoch? (seconds : Int) (microsecond : Nat) :
    (ofEpoch? seconds microsecond).isSome = true ↔ firstSecond ≤ seconds ∧ seconds ≤ lastSecond := by
  unfold ofEpoch?
  split
  · rename_i inRange
    exact ⟨fun _ => inRange, fun _ => rfl⟩
  · rename_i outside
    exact ⟨fun found => absurd found Bool.noConfusion, fun inRange => absurd inRange outside⟩

/-- The moment of a count of seconds lies that many seconds after the start of 1970. -/
theorem epochSeconds_of_ofEpoch? {seconds : Int} {microsecond : Nat} {moment : DateTime}
    (found : ofEpoch? seconds microsecond = some moment) : moment.epochSeconds = seconds := by
  unfold ofEpoch? at found
  split at found
  · rename_i inRange
    cases found
    simp only [epochSeconds, Date.dayCount_ofDayCount, epochDay, Option.getD_some]
    simp only [firstSecond] at inRange ⊢
    omega
  · cases found

/-- A count of seconds in range is the numeric date of its moment. -/
theorem numericDate?_of_ofEpoch? {seconds : Int} {microsecond : Nat} {moment : DateTime}
    (found : ofEpoch? seconds microsecond = some moment) :
    moment.numericDate? = some seconds := by
  have inRange := (isSome_ofEpoch? seconds microsecond).mp (by rw [found]; rfl)
  rw [numericDate?, epochSeconds_of_ofEpoch? found, if_pos inRange]

end DateTime

end EndSession.Calendar
