import EndSession.Proofs.Logout.Precedence

/-
This file states on which grounds a provider grants a logout request, in terms of what it holds, and
proves that it grants a request exactly on these.
-/

namespace EndSession.Provider

open Session Client Logout Claims Number

/-- All stores of the provider answer, each with what it holds, and hints are ID tokens. -/
structure State.IsOrdinary (state : State) : Prop where
  present : state.missing = []
  working : state.broken = []
  unforced : state.forced = none
  strict : state.loose = false
  idTokens : state.tokenType = idTokenType

/-- The authorization has the hint of the request as its ID token. -/
def HoldsHint (request : Request) (authorization : Authorization) : Prop :=
  ∃ token, authorization.token? idTokenType = some token ∧ request.idTokenHint = .text token.value

/-- The session is a live one of the end user, and the one that the request names. -/
structure IsLive (state : State) (request : Request) (session : Record) : Prop where
  mem : session ∈ state.sessions
  principal : session.principal = request.principal
  unexpired : session.expired = false
  named : request.sessionId = some session.sessionId
  filled : session.sessionId ≠ ""

/-- The grounds on which a provider grants a request a result, by one of its authorizations. -/
structure Grounds (state : State) (limit : Int) (issuer : Issuer) (request : Request)
    (authorization : Authorization) (result : Result) : Prop where
  first : IsFirst (HoldsHint request) state.authorizations authorization
  token : authorization.token? idTokenType = some result.idToken
  active : result.idToken.invalidated = false
  issued : result.idToken.claims.get? "iss" = some (.text issuer.name)
  texts : ∀ claim value, claim = "sub" ∨ claim = "jti" →
    result.idToken.claims.get? claim = some value → ∃ content, value = .text content
  begun : ∀ claim seconds, claim = "nbf" ∨ claim = "iat" →
    result.idToken.claims.get? claim = some (.number (.whole seconds)) → seconds ≤ limit
  client : state.clients.get? authorization.registeredClientId = some result.client
  party : IsParty result.idToken.claims result.client.clientId
  named : ∀ named, request.clientId = some named → named = "" ∨ named = result.client.clientId
  registered : ∀ uri, request.postLogoutRedirectUri = some uri →
    uri = "" ∨ uri ∈ result.client.postLogoutRedirectUris
  subject : request.principal.isAuthenticated = true → ∃ name, request.principal.name? = some name ∧
    name ≠ "" ∧ result.idToken.claims.get? "sub" = some (.text name)
  tied : request.principal.isAuthenticated = true → ∃ sid,
    result.idToken.claims.get? "sid" = some sid ∧ sid.isTrue = true ∧
      ∀ session, IsLive state request session → IsHashOf sid session.sessionId
  principal : result.principal = request.principal
  sessionId : ∀ id, result.sessionId = some id ↔ request.principal.isAuthenticated = true ∧
    ∃ session, IsLive state request session ∧ session.sessionId = id
  clientId : result.clientId = result.client.clientId
  postLogoutRedirectUri : result.postLogoutRedirectUri = request.postLogoutRedirectUri
  state : result.state = request.state

/-- The value is a whole number. -/
def isWhole : Value → Bool
  | .number (.whole _) => true
  | _ => false

/-- The dates that a token is not used before are whole numbers of seconds. -/
def HasWholeDates (claims : Entries Value) : Prop :=
  ∀ claim ∈ ["nbf", "iat"], ∀ value ∈ claims.get? claim, isWhole value = true

instance : DecidablePred HasWholeDates := fun claims =>
  inferInstanceAs (Decidable (∀ claim ∈ ["nbf", "iat"], ∀ value ∈ claims.get? claim,
    isWhole value = true))

theorem HasWholeDates.seconds {claims : Entries Value} (dates : HasWholeDates claims)
    {claim : String} {value : Value} (name : claim = "nbf" ∨ claim = "iat")
    (found : claims.get? claim = some value) : ∃ seconds, value = .number (.whole seconds) := by
  have whole := dates claim (by simpa using name) value found
  unfold isWhole at whole
  split at whole
  · exact ⟨_, rfl⟩
  · cases whole

variable {state : State} {issuer : Issuer} {request : Request} {limit : Int}

/-- Claims with a party and whole dates fit when they name the issuer, and the other claims are texts
where they have to be and begin in time. -/
theorem fitsHint_iff {claims : Entries Value} (dates : HasWholeDates claims) {party : Text}
    (isParty : IsParty claims party) :
    FitsHint issuer limit claims ↔
      claims.get? "iss" = some (.text issuer.name) ∧
      (∀ claim value, claim = "sub" ∨ claim = "jti" → claims.get? claim = some value →
        ∃ content, value = .text content) ∧
      ∀ claim seconds, claim = "nbf" ∨ claim = "iat" →
        claims.get? claim = some (.number (.whole seconds)) → seconds ≤ limit := by
  constructor
  · intro fits
    obtain ⟨present, admissible⟩ := fits
    have each {claim : String} {value : Value} (found : claims.get? claim = some value) :
        IsAdmissible issuer limit claim value :=
      admissible _ ((claims.get?_eq_some_iff claim value).mp found)
    refine ⟨?_, ?_, ?_⟩
    · obtain ⟨value, found⟩ := Option.ne_none_iff_exists'.mp present
      rw [found, (each found).issuer rfl]
    · intro claim value name found
      exact (each found).text name
    · intro claim seconds name found
      obtain ⟨number, moment, same, finite, early⟩ := (each found).date name
      cases same
      cases finite
      exact Rat.intCast_le_intCast.mp early
  · intro claimed
    obtain ⟨issuer, texts, begun⟩ := claimed
    refine ⟨by rw [issuer]; simp, ?_⟩
    intro pair member
    obtain ⟨claim, value⟩ := pair
    have found := (claims.get?_eq_some_iff claim value).mpr member
    refine ⟨?_, fun name => texts claim value name found, ?_, ?_⟩
    · rintro rfl
      exact Option.some.inj (found.symm.trans issuer)
    · rintro rfl
      rcases isParty with ⟨only, _⟩ | ⟨parties, listed, _⟩
      · exact Or.inl ⟨party, Option.some.inj (found.symm.trans only)⟩
      · exact Or.inr ⟨parties, Option.some.inj (found.symm.trans listed)⟩
    · intro name
      obtain ⟨seconds, rfl⟩ := dates.seconds name found
      exact ⟨_, seconds, rfl, rfl, Rat.intCast_le_intCast.mpr (begun claim seconds name found)⟩

/-- An ordinary provider finds the first authorization that has the hint as its ID token. -/
theorem State.IsOrdinary.findAuthorization_iff (ordinary : state.IsOrdinary)
    (authorization : Authorization) :
    state.findAuthorization request.idTokenHint state.tokenType = some authorization ↔
      IsFirst (HoldsHint request) state.authorizations authorization := by
  rw [ordinary.idTokens]
  exact State.findAuthorization_eq_some_iff ordinary.unforced

/-- The current sessions at a provider that keeps end users apart are the live ones. -/
theorem State.isCurrent_iff (strict : state.loose = false) (session : Record) :
    IsCurrent request (state.sessionsOf request.principal false) session ↔
      IsLive state request session := by
  have mem_iff : session ∈ state.sessionsOf request.principal false ↔
      session ∈ state.sessions ∧ session.principal = request.principal ∧
        session.expired = false := by
    simp [sessionsOf, strict]
  constructor
  · intro current
    obtain ⟨member, named, filled⟩ := current
    obtain ⟨inside, principal, unexpired⟩ := mem_iff.mp member
    exact ⟨inside, principal, unexpired, named, filled⟩
  · intro live
    obtain ⟨inside, principal, unexpired, named, filled⟩ := live
    exact ⟨mem_iff.mpr ⟨inside, principal, unexpired⟩, named, filled⟩

/-- The token with issued claims and whole dates that an ordinary provider finds. -/
theorem State.IsOrdinary.finds_iff (ordinary : state.IsOrdinary) (authorization : Authorization)
    (token : Token) :
    (state.inquiry issuer request limit).Finds authorization token ↔
      IsFirst (HoldsHint request) state.authorizations authorization ∧
        authorization.token? idTokenType = some token := by
  rw [← ordinary.findAuthorization_iff, ← ordinary.idTokens]
  constructor
  · intro finds
    obtain ⟨found, held⟩ := finds
    exact ⟨found, held⟩
  · intro finds
    obtain ⟨found, held⟩ := finds
    exact ⟨found, held⟩

/-- A request that passes all stages has grounds for its result. -/
theorem grounds_of_passes (ordinary : state.IsOrdinary) {result : Result}
    (dates : (state.inquiry issuer request limit).OfToken fun _ token => HasWholeDates token.claims)
    (pass : ∀ stage : Stage, stage.Passes (state.inquiry issuer request limit))
    (isResult : (state.inquiry issuer request limit).IsResult result) :
    ∃ authorization, Grounds state limit issuer request authorization result := by
  obtain ⟨authorization, finds, known⟩ := isResult.found
  obtain ⟨first, token⟩ := (ordinary.finds_iff authorization result.idToken).mp finds
  obtain ⟨authorization', token', finds', active⟩ := pass .token
  obtain ⟨rfl, rfl⟩ := finds'.unique finds
  have fits := pass .claims authorization _ finds
  have party := pass .membership authorization _ finds _ known
  obtain ⟨issued, texts, begun⟩ := (fitsHint_iff (dates _ _ finds) party).mp fits
  refine ⟨authorization, ?_⟩
  exact {
    first := first
    token := token
    active := active
    issued := issued
    texts := texts
    begun := begun
    client := known
    party := party
    named := by
      intro named given
      by_cases filled : named = ""
      · exact Or.inl filled
      · exact Or.inr (pass .clientId authorization _ finds _ known named given filled)
    registered := by
      intro uri given
      by_cases filled : uri = ""
      · exact Or.inl filled
      · exact Or.inr (pass .redirection authorization _ finds _ known uri given filled)
    subject := by
      intro authenticated
      exact pass .subject authenticated authorization _ finds
    tied := by
      intro authenticated
      obtain ⟨sid, found, filled, tied⟩ := pass .session authenticated authorization _ finds
      refine ⟨sid, found, filled, ?_⟩
      intro session live
      exact tied session ((State.isCurrent_iff ordinary.strict session).mpr live)
    principal := isResult.principal
    sessionId := by
      intro id
      rw [isResult.sessionId]
      exact and_congr_right fun _ => exists_congr fun session =>
        and_congr_left fun _ => State.isCurrent_iff ordinary.strict session
    clientId := isResult.clientId
    postLogoutRedirectUri := isResult.postLogoutRedirectUri
    state := isResult.state }

/-- A request with grounds for its result passes all stages. -/
theorem passes_of_grounds (ordinary : state.IsOrdinary) {authorization : Authorization}
    {result : Result}
    (dates : (state.inquiry issuer request limit).OfToken fun _ token => HasWholeDates token.claims)
    (grounds : Grounds state limit issuer request authorization result) (stage : Stage) :
    stage.Passes (state.inquiry issuer request limit) := by
  have finds : (state.inquiry issuer request limit).Finds authorization result.idToken :=
    (ordinary.finds_iff _ _).mpr ⟨grounds.first, grounds.token⟩
  have known : (state.inquiry issuer request limit).client authorization.registeredClientId =
    some result.client := grounds.client
  cases stage with
  | token => exact ⟨authorization, _, finds, grounds.active⟩
  | claims =>
      refine (finds.ofToken_iff _).mpr ?_
      apply (fitsHint_iff (dates _ _ finds) grounds.party).mpr
      exact ⟨grounds.issued, grounds.texts, grounds.begun⟩
  | audience => exact (finds.ofToken_iff _).mpr ⟨_, grounds.party⟩
  | registration => exact (finds.ofToken_iff _).mpr ⟨_, known⟩
  | membership => exact (finds.ofClient_iff known _).mpr grounds.party
  | clientId =>
      refine (finds.ofClient_iff known _).mpr ?_
      intro named given filled
      exact (grounds.named named given).resolve_left filled
  | redirection =>
      refine (finds.ofClient_iff known _).mpr ?_
      intro uri given filled
      exact (grounds.registered uri given).resolve_left filled
  | subject =>
      intro authenticated
      exact (finds.ofToken_iff _).mpr (grounds.subject authenticated)
  | session =>
      intro authenticated
      obtain ⟨sid, found, filled, tied⟩ := grounds.tied authenticated
      refine (finds.ofToken_iff _).mpr ?_
      refine ⟨sid, found, filled, ?_⟩
      intro session current
      exact tied session ((State.isCurrent_iff ordinary.strict session).mp current)

/-- What a request has grounds for is its result. -/
theorem isResult_of_grounds (ordinary : state.IsOrdinary) {authorization : Authorization}
    {result : Result} (grounds : Grounds state limit issuer request authorization result) :
    (state.inquiry issuer request limit).IsResult result where
  found := ⟨authorization, (ordinary.finds_iff _ _).mpr ⟨grounds.first, grounds.token⟩,
    grounds.client⟩
  principal := grounds.principal
  sessionId := by
    intro id
    rw [grounds.sessionId]
    exact and_congr_right fun _ => exists_congr fun session =>
      and_congr_left fun _ => (State.isCurrent_iff ordinary.strict session).symm
  clientId := grounds.clientId
  postLogoutRedirectUri := grounds.postLogoutRedirectUri
  state := grounds.state

/-- No store of an ordinary provider fails. -/
theorem State.IsOrdinary.fault?_eq_none (ordinary : state.IsOrdinary) (store : Store) :
    state.fault? store = none := by
  rw [State.fault?_eq_none_iff, ordinary.present, ordinary.working]
  exact ⟨rfl, rfl⟩

/-- An ordinary provider grants a request exactly the result that the request has grounds for. -/
theorem validate_eq_ok_iff_grounds (ordinary : state.IsOrdinary) {time allowance : Int}
    (shown : Timing.wholeSeconds state.clock = .ok (.whole time))
    (allowed : state.leeway.number? = some (.whole allowance)) (issuer : Issuer) (request : Request)
    (issued : ∀ authorization token, IsFirst (HoldsHint request) state.authorizations authorization →
      authorization.token? idTokenType = some token →
      IsIssued token.claims ∧ HasWholeDates token.claims) (result : Result) :
    (validate state.stores state.settings issuer request).outcome = .ok result ↔
      ∃ authorization, Grounds state (time + allowance) issuer request authorization result := by
  have answered := State.isAnswered_inquiry ordinary.fault?_eq_none shown allowed issuer request
  have each : (state.inquiry issuer request (time + allowance)).OfToken fun _ token =>
      IsIssued token.claims ∧ HasWholeDates token.claims := by
    intro authorization token finds
    obtain ⟨first, held⟩ := (ordinary.finds_iff _ _).mp finds
    exact issued authorization token first held
  have dates : (state.inquiry issuer request (time + allowance)).OfToken fun _ token =>
      HasWholeDates token.claims := fun authorization token finds => (each _ _ finds).2
  have decided := decides_validate answered fun authorization token finds => (each _ _ finds).1
  constructor
  · intro granted
    rcases decided with ⟨value, done, isResult, passes⟩ | ⟨_, _, refused, _⟩
    · cases granted.symm.trans done
      refine grounds_of_passes ordinary dates (fun stage => passes stage ?_) isResult
      cases stage <;> decide
    · cases granted.symm.trans refused
  · intro granted
    obtain ⟨authorization, grounds⟩ := granted
    rcases decided with ⟨value, done, isResult, _⟩ | ⟨stage, _, _, first, _⟩
    · exact done.trans (congrArg _ (isResult.unique (isResult_of_grounds ordinary grounds)))
    · exact absurd (passes_of_grounds ordinary dates grounds stage) first.holds

/-- What an outcome grants has the property that is found of it. -/
theorem exists_of_map_toOption {α : Type} {outcome : Except Failure Result} {read : Result → α}
    {found : α} (computed : outcome.toOption.map read = some found) :
    ∃ result, outcome = .ok result ∧ read result = found := by
  cases outcome with
  | error failure => cases computed
  | ok result => exact ⟨result, rfl, Option.some.inj computed⟩

/-- A provider with one client, one token that was issued to it in a session, and this session. -/
def providerOfSession : State :=
  (State.initial "https://provider.test" (.number (.whole 1700000000)) (.number (.whole 60))
    .strict).afterAll
    [.addClient ⟨"registration-1", "client-1", .given [] [("https://client.test/ended" : Text)]⟩,
      .addAuthorization
        { id := "authorization-1"
          registeredClientId := "registration-1"
          principalName := "principal"
          tokens := [(idTokenType,
            { value := "session-id-token"
              claims := Entries.ofList [("iss", .text "https://provider.test"),
                ("sub", .text "principal"), ("aud", .list [.text "client-1", .text "client-2"]),
                ("iat", .number (.whole 1700000030)),
                ("sid", .text (hashOctets (Text.Utf8.encode "session-1".toList)))]
              invalidated := false })] },
      .addSession ⟨.authenticated (some "principal"), "session-1", false⟩]

/-- A request of the end user of the session. -/
def requestInSession : Request where
  idTokenHint := .text "session-id-token"
  principal := .authenticated (some "principal")
  sessionId := some "session-1"
  clientId := some "client-1"
  postLogoutRedirectUri := some "https://client.test/ended"
  state := some "state"
  hintGiven := by decide +kernel

/-- The provider of the session issued its token. -/
theorem holdsIssued_providerOfSession : providerOfSession.HoldsIssued :=
  (State.holdsIssued_initial _ _ _ _).afterAll (by simp [Step.setsClaim])

/-- The request in the session is granted. -/
theorem exists_granted_in_session : ∃ result,
    (validate providerOfSession.stores providerOfSession.settings providerIssuer
      requestInSession).outcome = .ok result := by
  have computed : ((validate providerOfSession.stores providerOfSession.settings providerIssuer
      requestInSession).outcome.toOption.map Result.clientId) = some ("client-1" : Text) := by
    decide +kernel
  obtain ⟨result, granted, _⟩ := exists_of_map_toOption computed
  exact ⟨result, granted⟩

/-- The end user of the session is granted the end of it. -/
theorem session_eq_ok_iff_grounds : providerOfSession.IsOrdinary ∧
    ∃ result authorization,
      (validate providerOfSession.stores providerOfSession.settings providerIssuer
        requestInSession).outcome = .ok result ∧
      result.sessionId = some ("session-1" : Text) ∧
      Grounds providerOfSession (1700000000 + 60) providerIssuer requestInSession authorization
        result := by
  have ordinary : providerOfSession.IsOrdinary := ⟨rfl, rfl, rfl, rfl, rfl⟩
  have holds : providerOfSession.HoldsIssued :=
    (State.holdsIssued_initial _ _ _ _).afterAll (by simp [Step.setsClaim])
  have computed : ((validate providerOfSession.stores providerOfSession.settings providerIssuer
      requestInSession).outcome.toOption.map Result.sessionId) = some (some ("session-1" : Text)) := by
    decide +kernel
  have dates : ∀ authorization ∈ providerOfSession.authorizations,
      ∀ token ∈ authorization.token? idTokenType, HasWholeDates token.claims := by
    decide +kernel
  obtain ⟨result, granted, ended⟩ := exists_of_map_toOption computed
  obtain ⟨authorization, grounds⟩ := (validate_eq_ok_iff_grounds ordinary rfl rfl providerIssuer
    requestInSession (fun authorization token first held =>
      ⟨holds authorization first.mem _ token held, dates authorization first.mem token held⟩)
    result).mp granted
  exact ⟨ordinary, result, authorization, granted, ended, grounds⟩

end EndSession.Provider
