import EndSession.Authorization
import EndSession.Client.Registered
import EndSession.Logout.Request
import EndSession.Session.Record
import EndSession.Uri.Redirection

/-
This file holds the result of a logout request that was granted.
-/

namespace EndSession.Logout

open Session Client

/-- A logout that was granted. -/
structure Result where
  principal : Principal
  idToken : Token
  /-- The live session that the token was tied to. -/
  sessionId : Option Text
  clientId : Text
  postLogoutRedirectUri : Option Text
  state : Option Text
  client : RegisteredClient

namespace Result

/-- The request was authenticated by its hint. -/
def authenticated (_ : Result) : Bool := true

/-- The URI that the end user is sent to: none if none was asked for, the one asked for, and with
the state if there is one. -/
def redirectUri (result : Result) : Except Uri.RedirectFault (Option Text) :=
  match given? result.postLogoutRedirectUri with
  | none => .ok none
  | some uri =>
    match given? result.state with
    | none => .ok (some uri)
    | some state =>
      match Uri.withState uri (.text state) with
      | .error fault => .error fault
      | .ok target => .ok (some target)

end Result

end EndSession.Logout
