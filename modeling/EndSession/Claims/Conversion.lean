import EndSession.Entries
import EndSession.Value.Printer

/-
This file converts the claims of an issued token to the kinds that it stores: texts, lists of texts
and numbers. A moment becomes a numeric date.
-/

namespace EndSession.Claims

open Number

/-- A value cannot be stored under a claim. -/
inductive ConversionFault where
  /-- The claim holds no value of this kind. -/
  | unsupported (claim : String) (got : String)
  /-- The claim holds a numeric date, and the value is none. -/
  | notNumericDate (claim : String) (got : String)
  /-- The value is refused, and holds a whole number with more digits than a message can show. -/
  | overlong
  /-- The moment lies outside the years 1 to 9999 in UTC. -/
  | outOfRange
deriving DecidableEq

/-- The message of a fault that has one. -/
def ConversionFault.message? : ConversionFault → Option String
  | unsupported claim got => some ("Unsupported value for claim \"" ++ claim ++ "\": " ++ got)
  | notNumericDate claim got =>
    some ("Claim \"" ++ claim ++ "\" must be a NumericDate value, got " ++ got)
  | overlong => some Numeral.overlongMessage
  | outOfRange => none

/-- A value as it is stored. -/
inductive StoredValue where
  | text (value : Text)
  | texts (values : List Text)
  | number (value : Numeric)
deriving DecidableEq

/-- The stored value among all values. -/
def StoredValue.toValue : StoredValue → Value
  | text value => .text value
  | texts values => .list (values.map .text)
  | number value => .number value

/-- The claims that hold a numeric date. -/
def numericDateClaims : List String :=
  ["exp", "iat", "nbf", "auth_time"]

/-- The claim holds a numeric date. -/
def isNumericDate (claim : String) : Bool :=
  numericDateClaims.contains claim

/-- The fault of a value that no claim holds. -/
def unsupported (claim : String) (value : Value) : ConversionFault :=
  match value.print with
  | none => .overlong
  | some shown => .unsupported claim shown

/-- The fault of a value that a claim does not hold. -/
def fault (claim : String) (value : Value) : ConversionFault :=
  if isNumericDate claim then
    match value.print with
    | none => .overlong
    | some shown => .notNumericDate claim shown
  else unsupported claim value

/-- Texts are stored as a list. Those of a set are put in the order of their code points. -/
def convertItems (claim : String) (value : Value) (ordered : Bool) (items : List Value) :
    Except ConversionFault StoredValue :=
  if isNumericDate claim then .error (fault claim value)
  else
    match Value.texts? items with
    | none => .error (fault claim value)
    | some texts => .ok (.texts (if ordered then texts else texts.mergeSort Text.isOrdered))

/-- The stored form of a claim's value. -/
def convert (claim : String) (value : Value) : Except ConversionFault StoredValue :=
  match value with
  | .moment moment =>
    match moment.numericDate? with
    | some seconds => .ok (.number (.whole seconds))
    | none => .error .outOfRange
  | .bool _ => .error (unsupported claim value)
  | .number number => .ok (.number number)
  | .text content => if isNumericDate claim then .error (fault claim value) else .ok (.text content)
  | .list items => convertItems claim value true items
  | .tuple items => convertItems claim value true items
  | .set _ items => convertItems claim value false items
  | other => .error (fault claim other)

/-- The claims of an issued token. The first value that cannot be stored decides. -/
def issue (claims : Entries Value) : Except ConversionFault (Entries Value) :=
  match claims.mapExcept convert with
  | .error fault => .error fault
  | .ok stored => .ok (stored.map StoredValue.toValue)

/-- A text is stored as it is under every claim that holds no numeric date. -/
theorem convert_text {claim : String} (free : isNumericDate claim = false) (value : Text) :
    convert claim (.text value) = .ok (.text value) := by
  simp [convert, free]

end EndSession.Claims
