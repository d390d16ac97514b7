import EndSession.Number.Numeral
import EndSession.Value

/-
This file takes values apart: the items of a value, membership in it, and the octets it stands for.
Each of these is refused for values of kinds that have none.
-/

namespace EndSession.Value

open Number

/-- A value cannot be used as asked. -/
inductive Misuse where
  /-- The operation does not apply to values of this kind. -/
  | kind
  /-- A number among octets is not an octet. -/
  | octetRange
  /-- A number sought among octets is not an octet. -/
  | octetSought
  /-- A text has no octets because it holds a surrogate. -/
  | surrogate
  /-- A whole number has more digits than are written. -/
  | overlong
deriving DecidableEq

/-- The message of a misuse, where it has one. -/
def Misuse.message? : Misuse → Option String
  | .kind => none
  | .octetRange => some "bytes must be in range(0, 256)"
  | .octetSought => some "byte must be in range(0, 256)"
  | .surrogate => none
  | .overlong => some Numeral.overlongMessage

/-- The number is whole and fits an octet. -/
def octet? : Numeric → Option UInt8
  | .whole value => if 0 ≤ value ∧ value < 256 then some (UInt8.ofNat value.toNat) else none
  | .binary _ => none

/-- The items of a value: the code points of a text, the keys of a map. -/
def items : Value → Except Misuse (List Value)
  | text value => .ok (value.toList.map fun point => text ⟨[point]⟩)
  | octets value => .ok (value.map fun octet => number (.whole octet.toNat))
  | list items => .ok items
  | tuple items => .ok items
  | set _ items => .ok items
  | map entries => .ok (entries.map Prod.fst)
  | _ => .error .kind

mutual

/-- The value can be a member of a set or a key of a map. What can change cannot. -/
def isKey : Value → Bool
  | list _ => false
  | map _ => false
  | set frozen _ => frozen
  | tuple items => areKeys items
  | _ => true

/-- Every item can be a member of a set. -/
def areKeys : List Value → Bool
  | [] => true
  | item :: items => item.isKey && areKeys items

end

/-- A list occurs in another one without gaps. -/
def occursIn [BEq α] (part : List α) : List α → Bool
  | [] => part.isEmpty
  | first :: rest => part.isPrefixOf (first :: rest) || occursIn part rest

/-- A set can be sought in a set although it cannot be a member of one. -/
def canBeSought : Value → Bool
  | set _ _ => true
  | other => other.isKey

/-- The item is in the container. A text contains its parts. -/
def contains (container item : Value) : Except Misuse Bool :=
  match container with
  | text whole =>
    match item with
    | text part => .ok (occursIn part.toList whole.toList)
    | _ => .error .kind
  | octets whole =>
    match item with
    | octets part => .ok (occursIn part whole)
    | bool value => .ok (whole.contains (if value then 1 else 0))
    | number (.whole value) =>
      match octet? (.whole value) with
      | some octet => .ok (whole.contains octet)
      | none => .error .octetSought
    | _ => .error .kind
  | list items => .ok (items.any (same item))
  | tuple items => .ok (items.any (same item))
  | set _ items => if item.canBeSought then .ok (items.any (same item)) else .error .kind
  | map entries => if item.isKey then .ok (entries.any fun entry => item.same entry.1) else .error .kind
  | _ => .error .kind

/-- The octets that numbers stand for. The first number that is no octet decides. -/
def octetsOf : List Value → Except Misuse (List UInt8)
  | [] => .ok []
  | item :: items =>
    match item.number? with
    | some (.whole value) =>
      match octet? (.whole value) with
      | none => .error .octetRange
      | some octet =>
        match octetsOf items with
        | .error misuse => .error misuse
        | .ok rest => .ok (octet :: rest)
    | _ => .error .kind

end EndSession.Value
