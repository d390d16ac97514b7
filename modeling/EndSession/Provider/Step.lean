import EndSession.Provider.State

/-
This file holds the steps of a provider: changes of its stores and settings, and questions to it.
A question never changes the provider.
-/

namespace EndSession.Provider

open Session Client Logout Claims

/-- What a token is issued from. -/
structure TokenForm where
  value : Text
  claims : Entries Value
  invalidated : Bool

/-- What an authorization is made from, with its tokens in order. -/
structure AuthorizationForm where
  id : String
  registeredClientId : String
  principalName : Text
  tokens : List (String × TokenForm)

/-- Where the URIs of a client come from. -/
inductive ClientSource where
  | metadata (metadata : Entries Value)
  | given (redirectUris : List Value) (postLogoutRedirectUris : List Text)

/-- What a client is registered from. -/
structure ClientForm where
  id : String
  clientId : Text
  source : ClientSource

/-- A token of an authorization, by the authorization's id and the token's type. -/
structure TokenPlace where
  authorization : String
  type : String

/-- A step of a provider. -/
inductive Step where
  | addClient (form : ClientForm)
  | removeClient (id : String)
  | addAuthorization (form : AuthorizationForm)
  | removeAuthorization (id : String)
  | invalidate (place : TokenPlace) (flag : Bool)
  | setClaim (place : TokenPlace) (claim : String) (value : Value)
  | deleteClaim (place : TokenPlace) (claim : String)
  | removeToken (place : TokenPlace)
  | addSession (session : Record)
  | expireSession (sessionId : Text)
  | removeSession (sessionId : Text)
  | setLeeway (leeway : Value)
  | setClock (clock : Value)
  | setTokenType (tokenType : String)
  | missStores (stores : List Store)
  | breakStore (store : Store) (message : String)
  | repairStores
  | forceAuthorization (id : Option String)
  | loosenSessions (flag : Bool)
  | showToken (place : TokenPlace)
  | showState
  | validate (form : RequestForm) (issuer : Option Text)
  | validateClaims (place : TokenPlace) (issuer : Option Text)
  | validateSession (form : RequestForm) (place : TokenPlace)

/-- Why a step fails. -/
inductive StepFailure where
  | request (fault : RequestFault)
  | issuer (fault : IssuerFault)
  | judgement (failure : Failure)
  | conversion (fault : ConversionFault)
  | registration (fault : RegistrationFault)

/-- The answer to a step. -/
inductive Answer where
  | done
  | failed (failure : StepFailure)
  | granted (result : Result)
  | session (found : Option Record)
  | tokens (asked idToken : Option Token)
  | snapshot (state : State)

/-- An answer and the reads of the stores that it took. -/
structure Reply where
  answer : Answer
  reads : List StoreRead

/-- An answer without a read. -/
def Reply.plain (answer : Answer) : Reply := ⟨answer, []⟩

/-- The client of a form. -/
def ClientForm.register (policy : Uri.TransportPolicy) (form : ClientForm) :
    Except RegistrationFault RegisteredClient :=
  match form.source with
  | .metadata metadata => RegisteredClient.fromMetadata policy form.id form.clientId metadata
  | .given redirectUris postLogoutRedirectUris =>
    match RegisteredClient.members (.list redirectUris) with
    | .error misuse => .error (.misuse misuse)
    | .ok members => .ok ⟨form.id, form.clientId, members, postLogoutRedirectUris⟩

/-- The tokens of forms by their types. The first form that cannot be issued decides. -/
def issueTokens : List (String × TokenForm) → Except ConversionFault (List (String × Token))
  | [] => .ok []
  | (type, form) :: rest =>
    match Token.issue form.value form.claims form.invalidated with
    | .error fault => .error fault
    | .ok token =>
      match issueTokens rest with
      | .error fault => .error fault
      | .ok tokens => .ok ((type, token) :: tokens)

/-- The authorization of a form. -/
def AuthorizationForm.issue (form : AuthorizationForm) : Except ConversionFault Authorization :=
  match issueTokens form.tokens with
  | .error fault => .error fault
  | .ok tokens =>
    .ok ⟨form.id, form.registeredClientId, form.principalName, Entries.ofList tokens⟩

/-- The first element that fits is changed. -/
def changeFirst {α : Type} (fits : α → Bool) (change : α → α) : List α → List α
  | [] => []
  | first :: rest => if fits first then change first :: rest else first :: changeFirst fits change rest

namespace State

/-- The token of a type in the first authorization with an id. -/
def token? (state : State) (place : TokenPlace) : Option Token :=
  (state.authorization? place.authorization).bind fun authorization => authorization.token? place.type

/-- The provider with the tokens of the first authorization with an id changed. -/
def changeTokens (state : State) (id : String) (change : Entries Token → Entries Token) : State :=
  { state with
    authorizations := changeFirst (fun authorization => authorization.id == id)
      (fun authorization => { authorization with tokens := change authorization.tokens })
      state.authorizations }

/-- The provider with one token changed, if it is there. -/
def changeToken (state : State) (place : TokenPlace) (change : Token → Token) : State :=
  state.changeTokens place.authorization fun tokens =>
    match tokens.get? place.type with
    | none => tokens
    | some token => tokens.put place.type (change token)

/-- The issuer that a step names, or the provider's own. -/
def issuerOf (state : State) (issuer : Option Text) : Except IssuerFault Issuer :=
  Issuer.ofValue (.text (issuer.getD state.issuer))

/-- The reply of a judgement. -/
def replyOf {α : Type} (consultation : Consultation α) (wrap : α → Answer) : Reply :=
  match consultation.outcome with
  | .error failure => ⟨.failed (.judgement failure), consultation.reads⟩
  | .ok result => ⟨wrap result, consultation.reads⟩

/-- The reply to a logout request. -/
def judge (state : State) (form : RequestForm) (issuer : Option Text) : Reply :=
  match form.submit with
  | .error fault => .plain (.failed (.request fault))
  | .ok request =>
    match state.issuerOf issuer with
    | .error fault => .plain (.failed (.issuer fault))
    | .ok issuer =>
      replyOf (Logout.validate state.stores state.settings issuer request) .granted

/-- The reply to the question whether the claims of a token pass as a hint. -/
def judgeClaims (state : State) (place : TokenPlace) (issuer : Option Text) : Reply :=
  match state.issuerOf issuer with
  | .error fault => .plain (.failed (.issuer fault))
  | .ok issuer =>
    match state.token? place with
    | none => .plain .done
    | some token =>
      replyOf (Consultation.ofExcept (checkHint state.settings issuer token.claims)) fun _ => .done

/-- The reply to the question which session a token is tied to. -/
def judgeSession (state : State) (form : RequestForm) (place : TokenPlace) : Reply :=
  match form.submit with
  | .error fault => .plain (.failed (.request fault))
  | .ok request =>
    match state.token? place with
    | none => .plain .done
    | some token =>
      replyOf (Logout.validateSession state.stores request token.claims) .session

/-- The provider after a step. -/
def after (state : State) : Step → State
  | .addClient form =>
    match form.register state.policy with
    | .error _ => state
    | .ok client => { state with clients := state.clients.put client.id client }
  | .removeClient id => { state with clients := state.clients.erase id }
  | .addAuthorization form =>
    match form.issue with
    | .error _ => state
    | .ok authorization =>
      { state with authorizations := state.authorizations ++ [authorization] }
  | .removeAuthorization id =>
    { state with
      authorizations := state.authorizations.filter fun authorization => authorization.id != id }
  | .invalidate place flag => state.changeToken place fun token => { token with invalidated := flag }
  | .setClaim place claim value =>
    state.changeToken place fun token => { token with claims := token.claims.put claim value }
  | .deleteClaim place claim =>
    state.changeToken place fun token => { token with claims := token.claims.erase claim }
  | .removeToken place => state.changeTokens place.authorization fun tokens => tokens.erase place.type
  | .addSession session => { state with sessions := state.sessions ++ [session] }
  | .expireSession sessionId =>
    { state with
      sessions := state.sessions.map fun session =>
        if session.sessionId = sessionId then { session with expired := true } else session }
  | .removeSession sessionId =>
    { state with sessions := state.sessions.filter fun session => session.sessionId != sessionId }
  | .setLeeway leeway => { state with leeway := leeway }
  | .setClock clock => { state with clock := clock }
  | .setTokenType tokenType => { state with tokenType := tokenType }
  | .missStores stores => { state with missing := stores }
  | .breakStore store message => { state with broken := (store, message) :: state.broken }
  | .repairStores => { state with broken := [] }
  | .forceAuthorization id => { state with forced := id }
  | .loosenSessions flag => { state with loose := flag }
  | .showToken _ => state
  | .showState => state
  | .validate _ _ => state
  | .validateClaims _ _ => state
  | .validateSession _ _ => state

/-- The reply to a step. -/
def reply (state : State) : Step → Reply
  | .addClient form =>
    match form.register state.policy with
    | .error fault => .plain (.failed (.registration fault))
    | .ok _ => .plain .done
  | .addAuthorization form =>
    match form.issue with
    | .error fault => .plain (.failed (.conversion fault))
    | .ok _ => .plain .done
  | .showToken place =>
    .plain (.tokens (state.token? place) (state.token? ⟨place.authorization, idTokenType⟩))
  | .showState => .plain (.snapshot state)
  | .validate form issuer => state.judge form issuer
  | .validateClaims place issuer => state.judgeClaims place issuer
  | .validateSession form place => state.judgeSession form place
  | _ => .plain .done

/-- The replies to steps in order. -/
def run (state : State) : List Step → List Reply
  | [] => []
  | step :: rest => state.reply step :: (state.after step).run rest

/-- The provider after steps in order. -/
def afterAll (state : State) (steps : List Step) : State :=
  steps.foldl after state

end State

end EndSession.Provider
