import EndSession.Logout.Consultation
import EndSession.Logout.Issuer
import EndSession.Logout.Request
import EndSession.Logout.Result

/-
This file judges logout requests. A request is granted when its hint is a live ID token of the
issuer, whose audience holds the client that it was issued to, and when the client, the redirect URI,
the end user and the session of the request fit the token.
-/

namespace EndSession.Logout

open Session Client Claims

/-- What requests are judged by besides the stores. -/
structure Settings where
  tokenType : String
  leeway : Value
  clock : Value

/-- The request names a token that does not fit. -/
def refuseToken {α : Type} (parameter : String) : Except Failure α :=
  .error (.refused ⟨.invalidToken, parameter⟩ none)

/-- The request contradicts the token. -/
def refuseRequest {α : Type} (parameter : String) : Except Failure α :=
  .error (.refused ⟨.invalidRequest, parameter⟩ none)

/-- The token of an authorization that was found and is still active. -/
def activeToken (tokenType : String) (found : Option Authorization) :
    Except Failure (Authorization × Token) :=
  match found with
  | none => refuseToken "id_token_hint"
  | some authorization =>
    match authorization.token? tokenType with
    | none => refuseToken "id_token_hint"
    | some token => if token.invalidated then refuseToken "id_token_hint" else .ok (authorization, token)

/-- The parameter that a refused claim is reported under. -/
def parameterOf (claim : String) : String :=
  if claim = "iss" ∨ claim = "sub" ∨ claim = "aud" then claim else "id_token_hint"

/-- The requirement that the token was issued by this issuer. -/
def issuerOptions (issuer : Issuer) : Options :=
  Entries.ofList [("iss", Requirement.exactly (.text issuer.name))]

/-- The claims of the hint, stored anew, must name the issuer and pass all checks. -/
def checkHint (settings : Settings) (issuer : Issuer) (claims : Entries Value) :
    Except Failure Unit :=
  match issue claims with
  | .error fault => .error (.conversion fault)
  | .ok stored =>
    match checkIdToken (issuerOptions issuer) ⟨.null, settings.leeway, settings.clock⟩ stored with
    | .ok () => .ok ()
    | .error (.refused refusal) =>
      .error (.refused ⟨.invalidToken, parameterOf refusal.claim⟩ (some refusal))
    | .error fault => .error (.check fault)

/-- The audience of the hint, which may not be empty. -/
def hintAudience (claims : Entries Value) : Except Failure (List Value) :=
  match audience claims with
  | .error misuse => .error (.misuse misuse)
  | .ok [] => refuseToken "aud"
  | .ok parties => .ok parties

/-- The client that the token was issued to. -/
def knownClient (found : Option RegisteredClient) : Except Failure RegisteredClient :=
  match found with
  | none => refuseToken "id_token_hint"
  | some client => .ok client

/-- The client is in the audience, is the one that the request names, and has registered the
redirect URI of the request. -/
def checkClient (request : Request) (client : RegisteredClient) (parties : List Value) :
    Except Failure Unit :=
  if !parties.any (Value.same (.text client.clientId)) then refuseToken "aud"
  else if (given? request.clientId).any (· != client.clientId) then refuseRequest "client_id"
  else if (given? request.postLogoutRedirectUri).any (!client.accepts ·) then
    refuseRequest "post_logout_redirect_uri"
  else .ok ()

/-- The token was issued to the end user of the request. -/
def checkSubject (principal : Principal) (claims : Entries Value) : Except Failure Unit :=
  let subject := valueOf claims "sub"
  if subject.isTrue && principal.name?.any (fun name => subject.same (.text name)) then .ok ()
  else refuseToken "sub"

/-- The live session that the request names. -/
def currentSession (request : Request) (sessions : List Record) : Option Record :=
  match given? request.sessionId with
  | none => none
  | some sessionId => sessions.find? fun session => session.sessionId == sessionId

/-- The token carries a session hash, which is that of the current session if there is one. -/
def tieSession (claims : Entries Value) (session : Option Record) : Except Failure (Option Record) :=
  let sid := valueOf claims "sid"
  if !sid.isTrue then refuseToken "sid"
  else
    match session with
    | none => .ok none
    | some record =>
      match sessionHash record.sessionId with
      | .error misuse => .error (.misuse misuse)
      | .ok hash => if sid.same (.text hash) then .ok (some record) else refuseToken "sid"

/-- The session of the request that the token is tied to. -/
def validateSession (stores : Stores) (request : Request) (claims : Entries Value) :
    Consultation (Option Record) := do
  let sessions ← Consultation.ask (.sessions request.principal false)
    (stores.sessions request.principal false)
  Consultation.ofExcept (tieSession claims (currentSession request sessions))

/-- The session of an authenticated end user. For any other one no session is looked up. -/
def sessionOf (stores : Stores) (request : Request) (claims : Entries Value) :
    Consultation (Option Record) :=
  if request.principal.isAuthenticated then do
    Consultation.ofExcept (checkSubject request.principal claims)
    validateSession stores request claims
  else Consultation.value none

/-- The judgement on a logout request. -/
def validate (stores : Stores) (settings : Settings) (issuer : Issuer) (request : Request) :
    Consultation Result := do
  let found ← Consultation.ask (.authorization request.idTokenHint settings.tokenType)
    (stores.authorization request.idTokenHint settings.tokenType)
  let (authorization, token) ← Consultation.ofExcept (activeToken settings.tokenType found)
  Consultation.ofExcept (checkHint settings issuer token.claims)
  let parties ← Consultation.ofExcept (hintAudience token.claims)
  let registered ← Consultation.ask (.client authorization.registeredClientId)
    (stores.client authorization.registeredClientId)
  let client ← Consultation.ofExcept (knownClient registered)
  Consultation.ofExcept (checkClient request client parties)
  let session ← sessionOf stores request token.claims
  Consultation.value
    { principal := request.principal
      idToken := token
      sessionId := session.map Record.sessionId
      clientId := client.clientId
      postLogoutRedirectUri := request.postLogoutRedirectUri
      state := request.state
      client := client }

end EndSession.Logout
