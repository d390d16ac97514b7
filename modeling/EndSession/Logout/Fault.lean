import EndSession.Value.Printer

/-
This file holds the errors that a logout request is answered with, and renders them. Each rendering
may name another page about the error, which the renderings after it keep.
-/

namespace EndSession.Logout

/-- The kind of an error. -/
inductive Kind where
  | general
  | invalidRequest
  | invalidToken
deriving DecidableEq

namespace Kind

/-- The code of a kind, which the general kind has not. -/
def code? : Kind → Option String
  | general => none
  | invalidRequest => some "invalid_request"
  | invalidToken => some "invalid_token"

/-- The code as it is shown. -/
def shownCode (kind : Kind) : String :=
  kind.code?.getD "None"

/-- The name of a kind. -/
def name : Kind → String
  | general => "LogoutError"
  | invalidRequest => "InvalidRequestError"
  | invalidToken => "InvalidTokenError"

end Kind

/-- An error names only the parameter or claim that is at fault. -/
structure Fault where
  kind : Kind
  parameter : String
deriving DecidableEq

/-- The sentence about a parameter. -/
def describe (parameter : Text) : Text :=
  "OpenID Connect 1.0 Logout Request Parameter: " ++ parameter

/-- The message of an error is its code and its sentence. -/
def Fault.message (fault : Fault) : Text :=
  fault.kind.shownCode ++ ": " ++ describe fault.parameter

/-- The page about errors of logout requests. -/
def errorPage : String :=
  "https://openid.net/specs/openid-connect-rpinitiated-1_0.html#ValidationAndErrorHandling"

/-- The code points that a sentence may hold: printable ASCII without the double quote and the
backslash. -/
def isAllowed (point : CodePoint) : Bool :=
  let code := point.toNat
  (0x20 ≤ code && code ≤ 0x21) || (0x23 ≤ code && code ≤ 0x5B) || (0x5D ≤ code && code ≤ 0x7E)

/-- An error that can be rendered. -/
structure Report where
  kind : Kind
  parameter : Value
  /-- The parameter as the sentence shows it. -/
  shown : Text
  /-- The page about the error. -/
  uri : Option Text
  state : Option Text
  displayed : parameter.display = some shown
  allowed : (describe shown).toList.all isAllowed = true

/-- An error cannot be rendered. -/
inductive ReportFault where
  /-- Its sentence holds code points that are not allowed. -/
  | forbidden (points : List CodePoint)
  /-- Its parameter holds a whole number with more digits than a sentence can show. -/
  | overlong

/-- The message about code points lists them in order, each once. -/
def ReportFault.message : ReportFault → Text
  | forbidden points =>
    let ordered := points.eraseDups.mergeSort fun left right => decide (left.toNat ≤ right.toNat)
    "Error description contains forbidden characters: " ++
      ⟨((ordered.map fun point => [point]).intersperse (CodePoint.ofChars [',', ' '])).flatten⟩ ++ "."
  | overlong => Number.Numeral.overlongMessage

/-- The answer that an error is rendered as. -/
structure Response where
  status : Nat
  body : List (String × Option Text)
  headers : List (String × String)
deriving DecidableEq

namespace Report

/-- An error about a parameter, if its sentence can be written and holds only code points that are
allowed. -/
def create (kind : Kind) (parameter : Value) (uri state : Option Text) : Except ReportFault Report :=
  match displayed : parameter.display with
  | none => .error .overlong
  | some shown =>
    if allowed : (describe shown).toList.all isAllowed = true then
      .ok ⟨kind, parameter, shown, uri, state, displayed, allowed⟩
    else .error (.forbidden ((describe shown).toList.filter fun point => !isAllowed point))

/-- The sentence of an error. -/
def description (report : Report) : Text :=
  describe report.shown

/-- The status of every answer. -/
def status : Nat := 400

/-- The error as text. -/
def message (report : Report) : Text :=
  report.kind.shownCode ++ ": " ++ report.description

/-- The error as it is shown among other objects. -/
def summary (report : Report) : String :=
  "<" ++ report.kind.name ++ " \"" ++ report.kind.shownCode ++ "\">"

/-- A pair of the body, unless the text is absent or empty. -/
def optionalPair (name : String) (content : Option Text) : List (String × Option Text) :=
  match content with
  | none => []
  | some text => if text = "" then [] else [(name, some text)]

/-- The pairs of the body. -/
def body (report : Report) : List (String × Option Text) :=
  ("error", report.kind.code?.map Text.ofString) ::
    optionalPair "error_description" (some report.description) ++
    optionalPair "error_uri" report.uri ++ optionalPair "state" report.state

/-- The headers of every answer. -/
def headers : List (String × String) :=
  [("Content-Type", "application/json"), ("Cache-Control", "no-store"), ("Pragma", "no-cache")]

/-- The error with another page about it. An absent or empty page changes nothing. -/
def withPage (report : Report) (page : Option Text) : Report :=
  match page with
  | none => report
  | some text => if text = "" then report else { report with uri := some text }

/-- Rendering an error keeps the page that was named. -/
def respond (report : Report) (page : Option Text) : Report × Response :=
  let kept := report.withPage page
  (kept, ⟨status, kept.body, headers⟩)

end Report

end EndSession.Logout
