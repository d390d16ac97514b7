import EndSession.Net.Address
import EndSession.Uri.Fault

/-
This file finds the host of an authority and checks the authority's brackets and characters.
-/

namespace EndSession.Uri.Authority

open Text

/-- The code points beyond ASCII whose compatibility form holds a slash, a question mark, a number
sign, an at sign or a colon. -/
def compatibleDelimiters : List Nat :=
  [0x2047, 0x2048, 0x2049, 0x2100, 0x2101, 0x2105, 0x2106, 0x2A74, 0xFE13, 0xFE16, 0xFE55, 0xFE56,
   0xFE5F, 0xFE6B, 0xFF03, 0xFF0F, 0xFF1A, 0xFF1F, 0xFF20]

/-- The host and port, without the user information in front of the last at sign. -/
def hostAndPort (authority : List CodePoint) : List CodePoint :=
  afterLast '@' authority

/-- The host: the text between brackets, or the text in front of the first colon. -/
def host (authority : List CodePoint) : List CodePoint :=
  let place := hostAndPort authority
  if place.contains '[' then before ']' (after '[' place) else before ':' place

/-- A future kind of address is a version in hexadecimal and a text behind a dot. -/
def isFutureAddress (version : List CodePoint) : Bool :=
  let digits := version.takeWhile fun point => (Net.Address.hexValue? point).isSome
  let rest := version.dropWhile fun point => (Net.Address.hexValue? point).isSome
  !digits.isEmpty && rest.head? == some (CodePoint.char '.') && 1 < rest.length

/-- The host of an authority with brackets must be an IPv6 address or one of a future kind. -/
def checkHost (name : List CodePoint) : Except Fault Unit :=
  match name with
  | .char 'v' :: version => if isFutureAddress version then .ok () else .error .futureAddress
  | _ =>
    match Net.Address.read? name with
    | some (.v6 _) => .ok ()
    | some (.v4 _) => .error .bracketedIPv4
    | none => .error (.noAddress ⟨name⟩)

/-- Brackets come in both kinds or not at all. Those of the host have nothing in front of them and
only a port behind them. -/
def checkBrackets (authority : List CodePoint) : Except Fault Unit :=
  if authority.contains '[' != authority.contains ']' then .error .brackets
  else if !authority.contains '[' then .ok ()
  else
    let place := hostAndPort authority
    if !place.contains '[' then checkHost (before ':' place)
    else
      let behind := after ']' (after '[' place)
      if !(before '[' place).isEmpty then .error .brackets
      else if !behind.isEmpty && behind.head? != some (CodePoint.char ':') then .error .brackets
      else checkHost (before ']' (after '[' place))

/-- No code point may be compatible with a delimiter. -/
def checkCharacters (authority : List CodePoint) : Except Fault Unit :=
  if authority.any fun point => compatibleDelimiters.contains point.toNat then
    .error (.compatibleDelimiter ⟨authority⟩)
  else .ok ()

end EndSession.Uri.Authority
