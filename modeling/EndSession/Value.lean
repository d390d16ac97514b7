import EndSession.Calendar.DateTime
import EndSession.Number.Numeric
import EndSession.Text.CodePoint

/-
This file holds the values that claims, metadata and options may have before they are checked: when
they are true, and when two are equal.
-/

namespace EndSession

open Number Calendar

/-- A value of any kind. A set lists its members once each, and a map its keys. -/
inductive Value where
  | null
  | bool (value : Bool)
  | number (value : Numeric)
  | text (value : Text)
  | octets (value : List UInt8)
  | list (items : List Value)
  | tuple (items : List Value)
  | set (frozen : Bool) (items : List Value)
  | map (entries : List (Value × Value))
  | moment (value : DateTime)

namespace Value

instance : Inhabited Value := ⟨null⟩

/-- The value is nothing. -/
def isNull : Value → Bool
  | null => true
  | _ => false

/-- A truth value counts as the number zero or one. -/
def number? : Value → Option Numeric
  | bool value => some (.whole (if value then 1 else 0))
  | number value => some value
  | _ => none

/-- A value is true unless it is nothing, zero or empty. -/
def isTrue : Value → Bool
  | null => false
  | bool value => value
  | number value => !value.isZero
  | text value => value != ""
  | octets value => !value.isEmpty
  | list items => !items.isEmpty
  | tuple items => !items.isEmpty
  | set _ items => !items.isEmpty
  | map entries => !entries.isEmpty
  | moment _ => true

/-- The value is this number. -/
def isNumber (value : Value) (number : Numeric) : Bool :=
  match value.number? with
  | some other => number.same other
  | none => false

/-- Two moments are the same when both or neither name an offset and they fall together. -/
def sameMoment (left right : DateTime) : Bool :=
  left.offset.isSome == right.offset.isSome && left.epochSeconds == right.epochSeconds &&
    left.microsecond == right.microsecond

mutual

/-- Two values are equal when their contents are. Truth values and numbers compare as numbers, sets
as sets whether frozen or not, and maps without regard to order. -/
def same : Value → Value → Bool
  | null, other => other.isNull
  | bool value, other => other.isNumber (.whole (if value then 1 else 0))
  | number value, other => other.isNumber value
  | text value, other =>
    match other with
    | text content => value == content
    | _ => false
  | octets value, other =>
    match other with
    | octets content => value == content
    | _ => false
  | list items, other =>
    match other with
    | list others => sameItems items others
    | _ => false
  | tuple items, other =>
    match other with
    | tuple others => sameItems items others
    | _ => false
  | set _ items, other =>
    match other with
    | set _ others => items.length == others.length && included items others
    | _ => false
  | map entries, other =>
    match other with
    | map others => entries.length == others.length && includedEntries entries others
    | _ => false
  | moment value, other =>
    match other with
    | moment content => sameMoment value content
    | _ => false

/-- Two lists are equal item by item. -/
def sameItems : List Value → List Value → Bool
  | [], others => others.isEmpty
  | item :: items, others =>
    match others with
    | [] => false
    | other :: rest => same item other && sameItems items rest

/-- Every item equals one of the others. -/
def included : List Value → List Value → Bool
  | [], _ => true
  | item :: items, others => others.any (same item) && included items others

/-- Every entry equals one of the others. -/
def includedEntries : List (Value × Value) → List (Value × Value) → Bool
  | [], _ => true
  | (key, value) :: entries, others =>
    others.any (fun other => same key other.1 && same value other.2) &&
      includedEntries entries others

end

/-- Two texts are equal when they are the same text. -/
@[simp] theorem same_text (left right : Text) : same (text left) (text right) = (left == right) := by
  simp [same]

/-- A value equals a text only by being it. -/
theorem same_text_right (value : Value) (content : Text) :
    value.same (text content) = true ↔ value = text content := by
  cases value <;> simp [same, isNull, isNumber, number?]

theorem same_text_left (content : Text) (value : Value) :
    (text content).same value = true ↔ value = text content := by
  cases value with
  | text other =>
      rw [same_text, beq_iff_eq, Value.text.injEq]
      exact eq_comm
  | _ => simp [same]

/-- The set of the items, each of them once. -/
def ofItems (frozen : Bool) (items : List Value) : Value :=
  set frozen (items.foldl (fun members item =>
    if members.any (fun member => member.same item) then members else members ++ [item]) [])

/-- The entries with the value under a key replaced, or put at the end. -/
def writeEntry (key value : Value) : List (Value × Value) → List (Value × Value)
  | [] => [(key, value)]
  | (first, old) :: rest =>
    if first.same key then (first, value) :: rest else (first, old) :: writeEntry key value rest

/-- The map of pairs, in which a repeated key keeps its first place and takes its last value. -/
def ofPairs (pairs : List (Value × Value)) : Value :=
  map (pairs.foldl (fun entries pair => writeEntry pair.1 pair.2 entries) [])

/-- The text of a value that is one. -/
def text? : Value → Option Text
  | text value => some value
  | _ => none

/-- The texts of items that are all texts. -/
def texts? : List Value → Option (List Text)
  | [] => some []
  | item :: items =>
    match item.text?, texts? items with
    | some value, some others => some (value :: others)
    | _, _ => none

/-- Items are all texts exactly when they are the values of their texts. -/
theorem texts?_eq_some_iff (items : List Value) (values : List Text) :
    texts? items = some values ↔ items = values.map text := by
  induction items generalizing values with
  | nil => cases values <;> simp [texts?]
  | cons item items inductionHypothesis =>
      cases values with
      | nil =>
          simp only [texts?, List.map_nil, reduceCtorEq, iff_false]
          split <;> simp
      | cons value values =>
          simp only [texts?, List.map_cons, List.cons.injEq]
          cases item <;> cases others : texts? items <;> simp_all [text?]

end Value

end EndSession
