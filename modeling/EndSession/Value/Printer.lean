import EndSession.Number.Decimal
import EndSession.Number.Numeral
import EndSession.Text.Quoted
import EndSession.Value

/-
This file writes values as messages show them. A value that holds a whole number with too many digits
cannot be written.
-/

namespace EndSession.Value

open Number Calendar

/-- A number is written in decimal. -/
def printNumber : Numeric → Option String
  | .whole value => if Numeral.isOverlong value then none else some (toString value)
  | .binary value => some (String.ofList value.write)

/-- Text between quotes. -/
def printText (value : Text) : String :=
  String.ofList (Text.Quoted.text value.toList)

/-- Octets between quotes. -/
def printOctets (value : List UInt8) : String :=
  String.ofList (Text.Quoted.octets value)

/-- The offset of a clock by its name, or by the days and seconds that it takes to make it. -/
def printOffset (offset : Int) : String :=
  if offset = 0 then "datetime.timezone.utc"
  else
    let days := if offset / 86400 = 0 then [] else ["days=" ++ toString (offset / 86400)]
    let seconds := if offset % 86400 = 0 then [] else ["seconds=" ++ toString (offset % 86400)]
    "datetime.timezone(datetime.timedelta(" ++ String.intercalate ", " (days ++ seconds) ++ "))"

/-- A moment by the numbers that it takes to make it. Seconds and microseconds are left out from the
end as long as they are zero. -/
def printMoment (moment : DateTime) : String :=
  let fraction :=
    if moment.microsecond ≠ 0 then [moment.second, moment.microsecond]
    else if moment.second ≠ 0 then [moment.second] else []
  let numbers :=
    [moment.date.year, moment.date.month, moment.date.day, moment.hour, moment.minute] ++ fraction
  let offset := moment.offset.toList.map fun offset => "tzinfo=" ++ printOffset offset
  "datetime.datetime(" ++ String.intercalate ", " (numbers.map toString ++ offset) ++ ")"

mutual

/-- A value as messages show it. A tuple of one item keeps its comma, and an empty set has no
braces, which would be an empty map. -/
def print : Value → Option String
  | null => some "None"
  | bool true => some "True"
  | bool false => some "False"
  | number value => printNumber value
  | text value => some (printText value)
  | octets value => some (printOctets value)
  | list items => (printItems items).map fun shown => "[" ++ String.intercalate ", " shown ++ "]"
  | tuple items =>
    (printItems items).map fun shown =>
      "(" ++ String.intercalate ", " shown ++ (if items.length = 1 then ",)" else ")")
  | set false items =>
    (printItems items).map fun shown =>
      if items.isEmpty then "set()" else "\x7b" ++ String.intercalate ", " shown ++ "\x7d"
  | set true items =>
    (printItems items).map fun shown =>
      if items.isEmpty then "frozenset()"
      else "frozenset(\x7b" ++ String.intercalate ", " shown ++ "\x7d)"
  | map entries =>
    (printEntries entries).map fun shown => "\x7b" ++ String.intercalate ", " shown ++ "\x7d"
  | moment value => some (printMoment value)

/-- Each item as messages show it. -/
def printItems : List Value → Option (List String)
  | [] => some []
  | item :: items =>
    match item.print, printItems items with
    | some shown, some others => some (shown :: others)
    | _, _ => none

/-- Each key with its value. -/
def printEntries : List (Value × Value) → Option (List String)
  | [] => some []
  | (key, value) :: entries =>
    match key.print, value.print, printEntries entries with
    | some name, some shown, some others => some ((name ++ ": " ++ shown) :: others)
    | _, _, _ => none

end

/-- A value inside a sentence: text stands without quotes, and a moment as its date and time. -/
def display : Value → Option Text
  | text value => some value
  | moment value => some (value.writeBetween ' ')
  | other => other.print.map Text.ofString

end EndSession.Value
