import EndSession.Text.CodePoint

/-
This file tells the decimal digits and the blanks of all scripts, by Unicode 14.0. The digits of a
script are ten code points in a row, from zero to nine.
-/

namespace EndSession.Text.Digit

/-- The zeros of the scripts beyond ASCII. -/
def zeros : List Nat :=
  [0x660, 0x6F0, 0x7C0, 0x966, 0x9E6, 0xA66, 0xAE6, 0xB66, 0xBE6, 0xC66, 0xCE6, 0xD66, 0xDE6,
   0xE50, 0xED0, 0xF20, 0x1040, 0x1090, 0x17E0, 0x1810, 0x1946, 0x19D0, 0x1A80, 0x1A90, 0x1B50,
   0x1BB0, 0x1C40, 0x1C50, 0xA620, 0xA8D0, 0xA900, 0xA9D0, 0xA9F0, 0xAA50, 0xABF0, 0xFF10, 0x104A0,
   0x10D30, 0x11066, 0x110F0, 0x11136, 0x111D0, 0x112F0, 0x11450, 0x114D0, 0x11650, 0x116C0,
   0x11730, 0x118E0, 0x11950, 0x11C50, 0x11D50, 0x11DA0, 0x16A60, 0x16AC0, 0x16B50, 0x1D7CE,
   0x1D7D8, 0x1D7E2, 0x1D7EC, 0x1D7F6, 0x1E140, 0x1E2F0, 0x1E950, 0x1FBF0]

/-- The blanks beyond ASCII, as closed ranges. -/
def blanks : List (Nat × Nat) :=
  [(0x85, 0x85), (0xA0, 0xA0), (0x1680, 0x1680), (0x2000, 0x200A), (0x2028, 0x2029),
   (0x202F, 0x202F), (0x205F, 0x205F), (0x3000, 0x3000)]

/-- The value of a digit beyond ASCII. -/
def value? (code : Nat) : Option Nat :=
  (zeros.find? fun first => first ≤ code && code < first + 10).map (code - ·)

/-- The character is a blank beyond ASCII. -/
def isBlank (code : Nat) : Bool :=
  blanks.any fun range => range.1 ≤ code && code ≤ range.2

/-- A digit of any script as the digit of ASCII, and a blank beyond ASCII as a space. All other
code points stay. -/
def toAscii (point : CodePoint) : CodePoint :=
  if point.toNat < 0x80 then point
  else if isBlank point.toNat then ' '
  else
    match value? point.toNat with
    | some value => Char.ofNat (0x30 + value)
    | none => point

end EndSession.Text.Digit
