import EndSession.Uri.Acceptance
import EndSession.Value.Printer

/-
This file holds the issuer in whose name a logout request is judged.
-/

namespace EndSession.Logout

/-- An issuer is a URI that is acceptable and has no fragment. -/
structure Issuer where
  name : Text
  acceptable : Uri.isAcceptable false name = true
deriving DecidableEq

/-- A value is no issuer. -/
inductive IssuerFault where
  /-- It is no URI that an issuer can have. -/
  | notUri (got : Value)
  /-- It is of a kind that cannot be read as a URI. -/
  | notText (got : Value)

/-- The message of a fault that has one. -/
def IssuerFault.message? : IssuerFault → Option String
  | notUri got => got.print.map fun shown => "\"issuer\" MUST be a valid URL, got " ++ shown
  | notText _ => none

namespace Issuer

/-- Octets that are ASCII and form the parts of a URI can be read, although they are no text. -/
def isReadable (octets : List UInt8) : Bool :=
  octets.all (fun octet => octet.toNat < 0x80) &&
    match Uri.Parts.read (octets.map fun octet => .char (Char.ofNat octet.toNat)) with
    | .error _ => false
    | .ok _ => true

/-- The issuer of a value. -/
def ofValue (value : Value) : Except IssuerFault Issuer :=
  if !value.isTrue then .error (.notUri value)
  else
    match value with
    | .text name =>
      if acceptable : Uri.isAcceptable false name = true then .ok ⟨name, acceptable⟩
      else .error (.notUri value)
    | .octets content => if isReadable content then .error (.notText value) else .error (.notUri value)
    | other => .error (.notText other)

end Issuer

end EndSession.Logout
