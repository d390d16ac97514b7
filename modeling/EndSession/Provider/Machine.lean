import EndSession.Provider.Memory

/-
This file judges logout requests on a machine, and lets a machine take the steps of a provider. The
claims of a hint are checked on a copy, which is made in the memory together with the requirement that
the issuer is named.
-/

namespace EndSession.Provider

open Session Client Logout Claims

/-- The record of a grant that was found and is still active. -/
def activeRecord (tokenType : String) (found : Option Grant) :
    Except Failure (Grant × TokenRecord) :=
  match found with
  | none => refuseToken "id_token_hint"
  | some grant =>
    match grant.record? tokenType with
    | none => refuseToken "id_token_hint"
    | some record => if record.invalidated then refuseToken "id_token_hint" else .ok (grant, record)

/-- The failure of a request whose claims cannot be stored anew. -/
def convertedOr (converted : Except ConversionFault (Entries Value)) :
    Except Failure (Entries Value) :=
  match converted with
  | .error fault => .error (.conversion fault)
  | .ok stored => .ok stored

/-- The failure of a request whose claims do not pass their check. -/
def checkedOr (checked : Except CheckFault Unit) : Except Failure Unit :=
  match checked with
  | .ok () => .ok ()
  | .error (.refused refusal) =>
    .error (.refused ⟨.invalidToken, parameterOf refusal.claim⟩ (some refusal))
  | .error fault => .error (.check fault)

namespace Work

/-- A new object with the claims of another one and with requirements of its own. -/
def copyWith (options : Options) (source : Address) : Work Address := do
  let object ← load source
  let stored ← ofExcept (convertedOr (issue object.claims))
  allocate ⟨stored, options⟩

/-- The claims of an object pass the requirements that it was made with. -/
def check (address : Address) : Work Unit := do
  let object ← load address
  let settings ← look fun machine => machine.rest.settings
  ofExcept (checkedOr
    (checkIdToken object.options ⟨.null, settings.leeway, settings.clock⟩ object.claims))

/-- The claims of the hint, copied, must name the issuer and pass all checks. -/
def validateClaims (issuer : Issuer) (hint : Address) : Work Unit := do
  let copy ← copyWith (issuerOptions issuer) hint
  check copy

/-- The session of the request that the token is tied to. -/
def validateSession (request : Request) (hint : Address) : Work (Option Record) := do
  let sessions ← ask (.sessions request.principal false) fun machine =>
    machine.rest.stores.sessions request.principal false
  let object ← load hint
  ofExcept (tieSession object.claims (currentSession request sessions))

/-- The session of an authenticated end user. For any other one no session is looked up. -/
def sessionOf (request : Request) (hint : Address) : Work (Option Record) :=
  if request.principal.isAuthenticated then do
    let object ← load hint
    ofExcept (checkSubject request.principal object.claims)
    validateSession request hint
  else pure none

/-- The judgement on a logout request. -/
def validate (issuer : Issuer) (request : Request) : Work Result := do
  let tokenType ← look fun machine => machine.rest.tokenType
  let found ← ask (.authorization request.idTokenHint tokenType) fun machine =>
    machine.rest.answer .authorizations (machine.findGrant request.idTokenHint tokenType)
  let (grant, record) ← ofExcept (activeRecord tokenType found)
  validateClaims issuer record.claims
  let object ← load record.claims
  let parties ← ofExcept (hintAudience object.claims)
  let registered ← ask (.client grant.registeredClientId) fun machine =>
    machine.rest.stores.client grant.registeredClientId
  let client ← ofExcept (knownClient registered)
  ofExcept (checkClient request client parties)
  let session ← sessionOf request record.claims
  look fun machine =>
    { principal := request.principal
      idToken := record.view machine.memory
      sessionId := session.map Record.sessionId
      clientId := client.clientId
      postLogoutRedirectUri := request.postLogoutRedirectUri
      state := request.state
      client := client }

end Work

/-- The records of forms by their types, and the memory with their claims. The first form that cannot
be issued decides, and the claims of the forms before it stay in the memory. -/
def issueRecords (memory : Memory) :
    List (String × TokenForm) → Memory × Except ConversionFault (List (String × TokenRecord))
  | [] => (memory, .ok [])
  | (type, form) :: rest =>
    match issue form.claims with
    | .error fault => (memory, .error fault)
    | .ok stored =>
      match issueRecords (memory ++ [⟨stored, Entries.empty⟩]) rest with
      | (after, .error fault) => (after, .error fault)
      | (after, .ok records) =>
        (after, .ok ((type, ⟨form.value, memory.length, form.invalidated⟩) :: records))

namespace Machine

/-- The machine with the records of the first grant with an id changed. -/
def changeRecords (machine : Machine) (id : String)
    (change : Entries TokenRecord → Entries TokenRecord) : Machine :=
  { machine with
    grants := changeFirst (fun grant => grant.id == id)
      (fun grant => { grant with tokens := change grant.tokens }) machine.grants }

/-- The machine with the claims of a token changed in their place, if it is there. -/
def changeClaims (machine : Machine) (place : TokenPlace)
    (change : Entries Value → Entries Value) : Machine :=
  match machine.record? place with
  | none => machine
  | some record => { machine with memory := changeAt machine.memory record.claims change }

/-- The machine with the authorization of a form. -/
def addGrant (machine : Machine) (form : AuthorizationForm) : Machine × Reply :=
  match issueRecords machine.memory form.tokens with
  | (memory, .error fault) =>
    ({ machine with memory := memory }, .plain (.failed (.conversion fault)))
  | (memory, .ok records) =>
    ({ machine with
        memory := memory
        grants := machine.grants ++
          [⟨form.id, form.registeredClientId, form.principalName, Entries.ofList records⟩] },
      .plain .done)

/-- The reply to a logout request. -/
def judge (machine : Machine) (form : RequestForm) (issuer : Option Text) : Machine × Reply :=
  match form.submit with
  | .error fault => (machine, .plain (.failed (.request fault)))
  | .ok request =>
    match machine.rest.issuerOf issuer with
    | .error fault => (machine, .plain (.failed (.issuer fault)))
    | .ok issuer => (Work.validate issuer request).answer .granted machine

/-- The reply to the question whether the claims of a token pass as a hint. -/
def judgeClaims (machine : Machine) (place : TokenPlace) (issuer : Option Text) :
    Machine × Reply :=
  match machine.rest.issuerOf issuer with
  | .error fault => (machine, .plain (.failed (.issuer fault)))
  | .ok issuer =>
    match machine.record? place with
    | none => (machine, .plain .done)
    | some record => (Work.validateClaims issuer record.claims).answer (fun _ => .done) machine

/-- The reply to the question which session a token is tied to. -/
def judgeSession (machine : Machine) (form : RequestForm) (place : TokenPlace) : Machine × Reply :=
  match form.submit with
  | .error fault => (machine, .plain (.failed (.request fault)))
  | .ok request =>
    match machine.record? place with
    | none => (machine, .plain .done)
    | some record => (Work.validateSession request record.claims).answer .session machine

/-- The machine after a step, and the reply to the step. -/
def step (machine : Machine) : Step → Machine × Reply
  | .addAuthorization form => machine.addGrant form
  | .removeAuthorization id =>
    ({ machine with grants := machine.grants.filter fun grant => grant.id != id }, .plain .done)
  | .invalidate place flag =>
    (machine.changeRecords place.authorization fun records =>
      match records.get? place.type with
      | none => records
      | some record => records.put place.type { record with invalidated := flag }, .plain .done)
  | .setClaim place claim value =>
    (machine.changeClaims place fun claims => claims.put claim value, .plain .done)
  | .deleteClaim place claim =>
    (machine.changeClaims place fun claims => claims.erase claim, .plain .done)
  | .removeToken place =>
    (machine.changeRecords place.authorization fun records => records.erase place.type, .plain .done)
  | .showToken place =>
    (machine, .plain (.tokens ((machine.record? place).map (TokenRecord.view machine.memory))
      ((machine.record? ⟨place.authorization, idTokenType⟩).map (TokenRecord.view machine.memory))))
  | .showState => (machine, .plain (.snapshot machine.view))
  | .validate form issuer => machine.judge form issuer
  | .validateClaims place issuer => machine.judgeClaims place issuer
  | .validateSession form place => machine.judgeSession form place
  | other => ({ machine with rest := machine.rest.after other }, machine.rest.reply other)

/-- The replies to steps in order. -/
def run (machine : Machine) : List Step → List Reply
  | [] => []
  | step :: rest => (machine.step step).2 :: (machine.step step).1.run rest

/-- The machine after steps in order. -/
def afterAll (machine : Machine) (steps : List Step) : Machine :=
  steps.foldl (fun machine step => (machine.step step).1) machine

end Machine

end EndSession.Provider
