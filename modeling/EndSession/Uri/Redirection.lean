import EndSession.Uri.Form
import EndSession.Uri.Parts
import EndSession.Value.Octets

/-
This file adds the state of a request to the URI that the end user is sent to.
-/

namespace EndSession.Uri

/-- The name under which the state is sent back. -/
def stateName : String := "state"

/-- A redirection cannot be built. -/
inductive RedirectFault where
  /-- The target is not a URI. -/
  | target (fault : Fault)
  /-- The target is not a text. -/
  | notText (got : Value)
  /-- The target is a run of octets beyond ASCII. -/
  | octetsBeyondAscii
  /-- The target is a run of octets, and its query holds characters beyond ASCII. -/
  | queryBeyondAscii
  /-- The query of the target holds a surrogate. -/
  | surrogateInQuery
  /-- The state has no octets. -/
  | state (misuse : Value.Misuse)

/-- A code point of ASCII. -/
def isAscii (point : CodePoint) : Bool :=
  point.toNat < 0x80

/-- The query of pairs and of the state as the last one. -/
def queryWithState (pairs : List (List UInt8 × List UInt8)) (state : List UInt8) : List CodePoint :=
  Form.write (pairs ++ [(Text.Utf8.encode stateName.toList, state)])

/-- The URI with a state of any kind as the last pair of its query. -/
def withState (uri : Text) (state : Value) : Except RedirectFault Text :=
  match Parts.read uri.toList with
  | .error fault => .error (.target fault)
  | .ok parts =>
    match Form.encodePairs? (Form.read parts.query) with
    | none => .error .surrogateInQuery
    | some pairs =>
      match state.toOctets with
      | .error misuse => .error (.state misuse)
      | .ok octets => .ok ⟨{ parts with query := queryWithState pairs octets }.write⟩

/-- Why octets are no target for a state: they are read as far as they can be, and then are still no
text. -/
def octetsFault (target : List UInt8) (state : Value) : RedirectFault :=
  if target.any fun octet => 0x80 ≤ octet.toNat then .octetsBeyondAscii
  else
    match Parts.read (CodePoint.ofChars (Text.Utf8.decode target)) with
    | .error fault => .target fault
    | .ok parts =>
      if (Form.read parts.query).all fun pair =>
          pair.1.toList.all isAscii && pair.2.toList.all isAscii then
        match state.toOctets with
        | .error misuse => .state misuse
        | .ok _ => .notText (.octets target)
      else .queryBeyondAscii

/-- The redirection to a target of any kind: none without a target, the target as it is without a
state, and otherwise the target with the state, which both must be readable. -/
def redirection (target state : Value) : Except RedirectFault Value :=
  if !target.isTrue then .ok .null
  else if !state.isTrue then .ok target
  else
    match target with
    | .text uri =>
      match withState uri state with
      | .error fault => .error fault
      | .ok uri => .ok (.text uri)
    | .octets content => .error (octetsFault content state)
    | other => .error (.notText other)

end EndSession.Uri
