import EndSession.Session.Principal
import EndSession.Value

/-
This file holds logout requests, and the form that a request is made from.
-/

namespace EndSession.Logout

open Session

/-- A logout request. Its hint is never empty. -/
structure Request where
  idTokenHint : Value
  principal : Principal
  /-- The session that the end user is in. -/
  sessionId : Option Text
  clientId : Option Text
  postLogoutRedirectUri : Option Text
  state : Option Text
  hintGiven : idTokenHint.isTrue = true

/-- What a logout request is made from. -/
structure RequestForm where
  idTokenHint : Value
  principal : Option Principal
  sessionId : Option Text
  clientId : Option Text
  postLogoutRedirectUri : Option Text
  state : Option Text

/-- A form makes no request. -/
inductive RequestFault where
  | emptyHint
  | noPrincipal
deriving DecidableEq

/-- The message of a fault. -/
def RequestFault.message : RequestFault → String
  | emptyHint => "id_token_hint cannot be empty"
  | noPrincipal => "principal cannot be None"

/-- The request of a form. A missing hint is noticed before a missing principal. -/
def RequestForm.submit (form : RequestForm) : Except RequestFault Request :=
  if given : form.idTokenHint.isTrue = true then
    match form.principal with
    | none => .error .noPrincipal
    | some principal =>
      .ok ⟨form.idTokenHint, principal, form.sessionId, form.clientId, form.postLogoutRedirectUri,
        form.state, given⟩
  else .error .emptyHint

/-- A text that is there and not empty. -/
def given? (content : Option Text) : Option Text :=
  content.filter fun text => text != ""

end EndSession.Logout
