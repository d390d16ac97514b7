import EndSession.Text.Printable

/-
This file quotes text and octets for messages. Characters that are not printable are written by
their code; a quote inside takes a backslash only when both kinds of quote occur.
-/

namespace EndSession.Text.Quoted

/-- One hexadecimal digit, in lower case. -/
def hexDigit (value : Nat) : Char :=
  Char.ofNat (if value < 10 then 0x30 + value else 0x57 + value)

/-- A number in hexadecimal with a set count of digits. -/
def hexDigits : Nat → Nat → List Char
  | 0, _ => []
  | count + 1, value => hexDigits count (value / 16) ++ [hexDigit (value % 16)]

/-- Text is put between single quotes, unless it holds a single quote and no double one. -/
def quoteFor (hasSingle hasDouble : Bool) : Char :=
  if hasSingle && !hasDouble then '"' else '\''

/-- The written form of a code that stands for itself when it is shown. -/
def writeCode (quote : Char) (shown : Bool) (code : Nat) : List Char :=
  if code = quote.toNat ∨ code = '\\'.toNat then ['\\', Char.ofNat code]
  else if code = '\t'.toNat then ['\\', 't']
  else if code = '\n'.toNat then ['\\', 'n']
  else if code = '\r'.toNat then ['\\', 'r']
  else if shown then [Char.ofNat code]
  else if code < 0x100 then '\\' :: 'x' :: hexDigits 2 code
  else if code < 0x10000 then '\\' :: 'u' :: hexDigits 4 code
  else '\\' :: 'U' :: hexDigits 8 code

/-- The text between quotes. A surrogate is written by its code. -/
def text (content : List CodePoint) : List Char :=
  let quote := quoteFor (content.contains '\'') (content.contains '"')
  quote :: content.flatMap (fun point => writeCode quote (Printable.isPrintable point) point.toNat) ++
    [quote]

/-- The octets between quotes, behind the letter b. Only printable ASCII stands for itself. -/
def octets (content : List UInt8) : List Char :=
  let quote := quoteFor (content.contains 0x27) (content.contains 0x22)
  'b' :: quote ::
    content.flatMap (fun octet =>
      writeCode quote (0x20 ≤ octet.toNat && octet.toNat < 0x7F) octet.toNat) ++ [quote]

end EndSession.Text.Quoted
