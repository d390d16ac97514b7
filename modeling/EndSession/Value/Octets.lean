import EndSession.Text.Utf8
import EndSession.Value.Membership
import EndSession.Value.Printer

/-
This file gives the octets under which a value is hashed or sent.
-/

namespace EndSession.Value

/-- The octets of a value: those of its UTF-8 text, of its decimal text, or the numbers it lists. -/
def toOctets : Value → Except Misuse (List UInt8)
  | null => .error .kind
  | octets value => .ok value
  | text value =>
    match Text.Utf8.encode? value with
    | none => .error .surrogate
    | some encoded => .ok encoded
  | bool value => .ok (Text.Utf8.encode (if value then "True" else "False").toList)
  | number value =>
    match printNumber value with
    | none => .error .overlong
    | some decimal => .ok (Text.Utf8.encode decimal.toList)
  | other =>
    match other.items with
    | .error misuse => .error misuse
    | .ok items => octetsOf items

/-- Characters are sent in UTF-8. -/
@[simp] theorem toOctets_text (content : String) :
    toOctets (text content) = .ok (Text.Utf8.encode content.toList) := by
  simp [toOctets]

/-- A text is sent exactly when it holds no surrogate. -/
theorem toOctets_eq_surrogate_iff (content : Text) :
    toOctets (text content) = .error .surrogate ↔ ¬ content.IsUnicode := by
  rw [← Text.Utf8.isSome_encode?_iff, toOctets]
  cases Text.Utf8.encode? content <;> simp

end EndSession.Value
