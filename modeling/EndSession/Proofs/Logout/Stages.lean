import EndSession.Proofs.Logout.HintCheck

/-
This file lists the stages of the judgement on a logout request in their order: when a request passes
each of them, and what it is answered when it does not. Judgements are put together stage by stage,
and end at the first one that is not passed.
-/

namespace EndSession.Logout

open Session Client Claims

/-- What a request is judged on. -/
structure Inquiry where
  issuer : Issuer
  request : Request
  tokenType : String
  /-- The latest time that counts as past. -/
  limit : Int
  authorization : Option Authorization
  client : String → Option RegisteredClient
  sessions : List Record

/-- The party is in the audience: as its only member, or as one of those listed. -/
inductive IsParty (claims : Entries Value) (party : Text) : Prop where
  | alone (only : claims.get? "aud" = some (.text party)) (filled : party ≠ "")
  | among (parties : List Text) (listed : claims.get? "aud" = some (.list (parties.map .text)))
      (member : party ∈ parties)

/-- The session is one of those given, and the one that the request names. -/
structure IsCurrent (request : Request) (sessions : List Record) (session : Record) : Prop where
  mem : session ∈ sessions
  named : request.sessionId = some session.sessionId
  filled : session.sessionId ≠ ""

namespace Inquiry

/-- The stores answer with what the request is judged on, and the settings agree with it. -/
structure IsAnswered (inquiry : Inquiry) (stores : Stores) (settings : Settings) : Prop where
  tokenType : settings.tokenType = inquiry.tokenType
  limit : ∃ time allowance, Timing.wholeSeconds settings.clock = .ok (.whole time) ∧
    settings.leeway.number? = some (.whole allowance) ∧ inquiry.limit = time + allowance
  authorization :
    stores.authorization inquiry.request.idTokenHint settings.tokenType = .ok inquiry.authorization
  client : ∀ id, stores.client id = .ok (inquiry.client id)
  sessions : stores.sessions inquiry.request.principal false = .ok inquiry.sessions

/-- The hint is found as this token of this authorization. -/
structure Finds (inquiry : Inquiry) (authorization : Authorization) (token : Token) : Prop where
  found : inquiry.authorization = some authorization
  held : authorization.token? inquiry.tokenType = some token

/-- The token carries a session hash, and the session that the request names has an id with a surrogate,
which no hash is made of. -/
def HasUnhashedSession (inquiry : Inquiry) : Prop :=
  ∃ authorization token session, inquiry.Finds authorization token ∧
    (valueOf token.claims "sid").isTrue = true ∧
    IsCurrent inquiry.request inquiry.sessions session ∧ ¬ session.sessionId.IsUnicode

/-- A property of the token that is found. -/
def OfToken (inquiry : Inquiry) (property : Authorization → Token → Prop) : Prop :=
  ∀ authorization token, inquiry.Finds authorization token → property authorization token

/-- A property of the token that is found and of its registered client. -/
def OfClient (inquiry : Inquiry) (property : Token → RegisteredClient → Prop) : Prop :=
  inquiry.OfToken fun authorization token =>
    ∀ client, inquiry.client authorization.registeredClientId = some client → property token client

/-- At most one token is found. -/
theorem Finds.unique {inquiry : Inquiry} {authorization authorization' : Authorization}
    {token token' : Token} (first : inquiry.Finds authorization token)
    (second : inquiry.Finds authorization' token') :
    authorization' = authorization ∧ token' = token := by
  have same := first.found.symm.trans second.found
  cases same
  have same := first.held.symm.trans second.held
  cases same
  exact ⟨rfl, rfl⟩

/-- A property of the token that is found is a property of this one. -/
theorem Finds.ofToken_iff {inquiry : Inquiry} {authorization : Authorization} {token : Token}
    (finds : inquiry.Finds authorization token) (property : Authorization → Token → Prop) :
    inquiry.OfToken property ↔ property authorization token := by
  constructor
  · intro each
    exact each authorization token finds
  · intro here authorization' token' other
    obtain ⟨rfl, rfl⟩ := finds.unique other
    exact here

/-- A property of the token and the client that are found is a property of these. -/
theorem Finds.ofClient_iff {inquiry : Inquiry} {authorization : Authorization} {token : Token}
    (finds : inquiry.Finds authorization token) {client : RegisteredClient}
    (known : inquiry.client authorization.registeredClientId = some client)
    (property : Token → RegisteredClient → Prop) :
    inquiry.OfClient property ↔ property token client := by
  unfold OfClient
  rw [finds.ofToken_iff]
  constructor
  · intro each
    exact each client known
  · intro here client' other
    rw [known] at other
    cases other
    exact here

end Inquiry

/-- The stages of a judgement. -/
inductive Stage where
  | token
  | claims
  | audience
  | registration
  | membership
  | clientId
  | redirection
  | subject
  | session
deriving DecidableEq

namespace Stage

/-- The stages in the order in which they are passed. -/
def order : List Stage :=
  [token, claims, audience, registration, membership, clientId, redirection, subject, session]

/-- The request passes a stage. From the second stage on this is about the token that is found, and
from the fifth one on also about its client. -/
def Passes (inquiry : Inquiry) : Stage → Prop
  | token => ∃ authorization token, inquiry.Finds authorization token ∧ token.invalidated = false
  | claims => inquiry.OfToken fun _ token => FitsHint inquiry.issuer inquiry.limit token.claims
  | audience => inquiry.OfToken fun _ token => ∃ party, IsParty token.claims party
  | registration => inquiry.OfToken fun authorization _ =>
      ∃ client, inquiry.client authorization.registeredClientId = some client
  | membership => inquiry.OfClient fun token client => IsParty token.claims client.clientId
  | clientId => inquiry.OfClient fun _ client =>
      ∀ named, inquiry.request.clientId = some named → named ≠ "" → named = client.clientId
  | redirection => inquiry.OfClient fun _ client =>
      ∀ uri, inquiry.request.postLogoutRedirectUri = some uri → uri ≠ "" →
        uri ∈ client.postLogoutRedirectUris
  | subject => inquiry.request.principal.isAuthenticated = true →
      inquiry.OfToken fun _ token => ∃ name, inquiry.request.principal.name? = some name ∧
        name ≠ "" ∧ token.claims.get? "sub" = some (.text name)
  | session => inquiry.request.principal.isAuthenticated = true →
      inquiry.OfToken fun _ token => ∃ sid, token.claims.get? "sid" = some sid ∧ sid.isTrue = true ∧
        ∀ session, IsCurrent inquiry.request inquiry.sessions session →
          IsHashOf sid session.sessionId

/-- What a request that does not pass a stage is refused with. -/
def Reports (inquiry : Inquiry) (fault : Fault) : Stage → Prop
  | token => fault = ⟨.invalidToken, "id_token_hint"⟩
  | claims => ∃ authorization token, inquiry.Finds authorization token ∧
      ∃ parameter, ReportsClaims inquiry.issuer inquiry.limit token.claims parameter ∧
        fault = ⟨.invalidToken, parameter⟩
  | audience => fault = ⟨.invalidToken, "aud"⟩
  | registration => fault = ⟨.invalidToken, "id_token_hint"⟩
  | membership => fault = ⟨.invalidToken, "aud"⟩
  | clientId => fault = ⟨.invalidRequest, "client_id"⟩
  | redirection => fault = ⟨.invalidRequest, "post_logout_redirect_uri"⟩
  | subject => fault = ⟨.invalidToken, "sub"⟩
  | session => fault = ⟨.invalidToken, "sid"⟩ ∧ ¬ inquiry.HasUnhashedSession

/-- How the judgement on a request that does not pass a stage ends: with what the request is refused
with, or at the session that is not hashed. -/
inductive Ends (inquiry : Inquiry) : Stage → Failure → Prop where
  | refused {stage : Stage} {fault : Fault} (reports : stage.Reports inquiry fault)
      (cause : Option Refusal) : Ends inquiry stage (.refused fault cause)
  | unhashed (unhashed : inquiry.HasUnhashedSession) : Ends inquiry session (.misuse .surrogate)

/-- Every fault of a stage is one of the two kinds that requests are refused with. -/
theorem kind_of_reports {inquiry : Inquiry} {fault : Fault} {stage : Stage}
    (reports : stage.Reports inquiry fault) :
    fault.kind = .invalidToken ∨ fault.kind = .invalidRequest := by
  cases stage with
  | claims =>
      obtain ⟨_, _, _, parameter, _, rfl⟩ := reports
      exact Or.inl rfl
  | clientId | redirection =>
      rw [reports]
      exact Or.inr rfl
  | session =>
      rw [reports.1]
      exact Or.inl rfl
  | _ =>
      rw [reports]
      exact Or.inl rfl

end Stage

variable {α β : Type} {inquiry : Inquiry}

/-- An outcome decides stages when it is a value with a property in case all stages are passed, and
otherwise what the first stage ends with that is not. -/
def Decides (inquiry : Inquiry) (stages : List Stage) (property : α → Prop)
    (outcome : Except Failure α) : Prop :=
  (∃ value, outcome = .ok value ∧ property value ∧ ∀ stage ∈ stages, stage.Passes inquiry) ∨
    ∃ stage failure, outcome = .error failure ∧
      IsFirst (fun stage => ¬ stage.Passes inquiry) stages stage ∧ stage.Ends inquiry failure

namespace Decides

variable {stages : List Stage} {stage : Stage} {property : α → Prop}

theorem pass {value : α} (holds : property value) (passes : stage.Passes inquiry) :
    Decides inquiry [stage] property (.ok value) := by
  refine Or.inl ⟨value, rfl, holds, ?_⟩
  intro other member
  rw [List.mem_singleton.mp member]
  exact passes

theorem fail {failure : Failure} (fails : ¬ stage.Passes inquiry)
    (ends : stage.Ends inquiry failure) (rest : List Stage) :
    Decides inquiry (stage :: rest) property (.error failure) := by
  refine Or.inr ⟨stage, failure, rfl, ?_, ends⟩
  apply IsFirst.here
  exact fails

theorem refuse {fault : Fault} {cause : Option Refusal} (fails : ¬ stage.Passes inquiry)
    (reports : stage.Reports inquiry fault) (rest : List Stage) :
    Decides inquiry (stage :: rest) property (.error (.refused fault cause)) :=
  .fail fails (.refused reports cause) rest

/-- A stage that is passed may stand in front. -/
theorem behind {outcome : Except Failure α} (passes : stage.Passes inquiry)
    (later : Decides inquiry stages property outcome) :
    Decides inquiry (stage :: stages) property outcome := by
  rcases later with ⟨value, done, holds, all⟩ | ⟨failed, failure, stops, first, ends⟩
  · refine Or.inl ⟨value, done, holds, ?_⟩
    intro other member
    rcases List.mem_cons.mp member with rfl | inside
    · exact passes
    · exact all other inside
  · refine Or.inr ⟨failed, failure, stops, ?_, ends⟩
    apply IsFirst.behind [stage] _ first
    intro earlier member fails
    rw [List.mem_singleton.mp member] at fails
    exact fails passes

/-- A computation that goes on decides its own stages and then those of what comes next. -/
theorem bind {first : Consultation α} {next : α → Consultation β} {rest : List Stage}
    {result : β → Prop} (here : Decides inquiry stages property first.outcome)
    (further : ∀ value, property value → (∀ stage ∈ stages, stage.Passes inquiry) →
      Decides inquiry rest result (next value).outcome) :
    Decides inquiry (stages ++ rest) result (first >>= next).outcome := by
  obtain ⟨reads, outcome⟩ := first
  rcases here with ⟨value, done, holds, all⟩ | ⟨stage, failure, stops, isFirst, ends⟩
  · change outcome = .ok value at done
    subst done
    rw [Consultation.bind_ok]
    rcases further value holds all with
      ⟨final, finished, fits, others⟩ | ⟨stage, failure, stops, isFirst, ends⟩
    · refine Or.inl ⟨final, finished, fits, ?_⟩
      intro stage member
      rcases List.mem_append.mp member with inside | behind
      · exact all stage inside
      · exact others stage behind
    · refine Or.inr ⟨stage, failure, stops, ?_, ends⟩
      apply isFirst.behind stages
      intro earlier member fails
      exact fails (all earlier member)
  · change outcome = .error failure at stops
    subst stops
    rw [Consultation.bind_error]
    exact Or.inr ⟨stage, failure, rfl, isFirst.ahead rest, ends⟩

/-- A check that decides one stage comes first. -/
theorem check {first : Except Failure α} {next : α → Consultation β} {rest : List Stage}
    {result : β → Prop} (here : Decides inquiry [stage] property first)
    (further : ∀ value, property value → Decides inquiry rest result (next value).outcome) :
    Decides inquiry (stage :: rest) result (Consultation.ofExcept first >>= next).outcome := by
  have whole : Decides inquiry [stage] property (Consultation.ofExcept first).outcome := here
  exact whole.bind fun value holds _ => further value holds

/-- A read that is answered decides nothing by itself. -/
theorem read {read : StoreRead} {answer : Except StoreFault α} {next : α → Consultation β}
    {value : α} {result : β → Prop} (answered : answer = .ok value)
    (further : Decides inquiry stages result (next value).outcome) :
    Decides inquiry stages result (Consultation.ask read answer >>= next).outcome := by
  subst answered
  exact further

end Decides

end EndSession.Logout
