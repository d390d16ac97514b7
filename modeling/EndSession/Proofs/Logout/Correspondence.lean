import EndSession.Proofs.Logout.Checks
import EndSession.Proofs.Logout.Consultation

/-
This file compares the judgements of two requests whose tokens differ in their claims. The judgements
correspond when the checks that look at the claims do, one by one.
-/

namespace EndSession.Logout

open Session Client Claims Consultation

/-- Both outcomes are values that are related, or both are failures that are. -/
inductive Corresponds {ε α β : Type} (failures : ε → ε → Prop) (values : α → β → Prop) :
    Except ε α → Except ε β → Prop where
  | failed {failure other : ε} (related : failures failure other) :
      Corresponds failures values (.error failure) (.error other)
  | succeeded {result : α} {other : β} (related : values result other) :
      Corresponds failures values (.ok result) (.ok other)

namespace Corresponds

section Outcomes

variable {ε α β : Type} {failures : ε → ε → Prop} {values : α → β → Prop}
  {outcome : Except ε α} {other : Except ε β}

/-- Every outcome corresponds to itself. -/
theorem refl (reflexive : ∀ failure, failures failure failure) {values : α → α → Prop}
    (reflexiveValues : ∀ value, values value value) (outcome : Except ε α) :
    Corresponds failures values outcome outcome := by
  cases outcome with
  | error failure => exact .failed (reflexive failure)
  | ok value => exact .succeeded (reflexiveValues value)

/-- Outcomes that are equal correspond. -/
theorem of_eq (reflexive : ∀ failure, failures failure failure) {outcome other : Except ε α}
    (same : outcome = other) : Corresponds failures Eq outcome other := by
  rw [same]
  exact refl reflexive (fun _ => rfl) other

/-- Outcomes of checks correspond when both are passed or neither is. -/
theorem of_passes_iff {outcome other : Except ε Unit}
    (same : outcome = .ok () ↔ other = .ok ()) : Corresponds (fun _ _ => True) Eq outcome other := by
  cases outcome with
  | error failure =>
      cases other with
      | error failure' => exact .failed trivial
      | ok _ => exact absurd (same.mpr rfl) nofun
  | ok _ =>
      cases other with
      | error failure => exact absurd (same.mp rfl) nofun
      | ok _ => exact .succeeded rfl

/-- What corresponds to a value is a related value. -/
theorem exists_ok {result : α} (alike : Corresponds failures values (.ok result) other) :
    ∃ result', other = .ok result' ∧ values result result' := by
  cases alike with
  | succeeded related => exact ⟨_, rfl, related⟩

end Outcomes

variable {α β γ δ : Type} {failures : Failure → Failure → Prop} {values : α → β → Prop}
  {results : γ → δ → Prop}

/-- Computations correspond when they start with related values and go on alike from those. -/
theorem bind {first : Consultation α} {other : Consultation β} {next : α → Consultation γ}
    {nextOther : β → Consultation δ}
    (start : Corresponds failures values first.outcome other.outcome)
    (further : ∀ value value', values value value' →
      Corresponds failures results (next value).outcome (nextOther value').outcome) :
    Corresponds failures results (first >>= next).outcome (other >>= nextOther).outcome := by
  obtain ⟨reads, outcome⟩ := first
  obtain ⟨readsOther, outcomeOther⟩ := other
  cases start with
  | failed related => exact .failed related
  | succeeded related => exact further _ _ related

/-- Reads correspond when the stores answer them alike. -/
theorem ask (reflexive : ∀ failure, failures failure failure) {read readOther : StoreRead}
    {answer : Except StoreFault α} {answerOther : Except StoreFault β}
    (alike : Corresponds Eq values answer answerOther) :
    Corresponds failures values (Consultation.ask read answer).outcome
      (Consultation.ask readOther answerOther).outcome := by
  cases alike with
  | failed same =>
      subst same
      exact .failed (reflexive _)
  | succeeded related => exact .succeeded related

end Corresponds

/-- The tokens are the same up to their claims, which are related. -/
structure AlikeTokens (related : Entries Value → Entries Value → Prop) (token other : Token) :
    Prop where
  value : other.value = token.value
  invalidated : other.invalidated = token.invalidated
  claims : related token.claims other.claims

/-- The authorizations belong to the same client, and their tokens of a type are alike. -/
structure AlikeAuthorizations (related : Entries Value → Entries Value → Prop) (tokenType : String)
    (authorization other : Authorization) : Prop where
  registeredClientId : other.registeredClientId = authorization.registeredClientId
  token : Option.Rel (AlikeTokens related) (authorization.token? tokenType)
    (other.token? tokenType)

/-- The stores hold the same clients, and for a hint they find authorizations with alike tokens. -/
structure AlikeStores (related : Entries Value → Entries Value → Prop) (hint : Value)
    (tokenType : String) (stores others : Stores) : Prop where
  authorization : Corresponds Eq (Option.Rel (AlikeAuthorizations related tokenType))
    (stores.authorization hint tokenType) (others.authorization hint tokenType)
  client : others.client = stores.client

/-- The results are the same up to the claims of their tokens, which are related. -/
structure AlikeResults (related : Entries Value → Entries Value → Prop) (result other : Result) :
    Prop where
  token : AlikeTokens related result.idToken other.idToken
  rest : other = { result with idToken := other.idToken }

/-- The request made from another session. -/
def Request.inSession (request : Request) (sessionId : Option Text) : Request :=
  { request with sessionId := sessionId }

/-- The same texts are among the values. -/
def SameTexts (values others : List Value) : Prop :=
  ∀ content, Value.text content ∈ values ↔ Value.text content ∈ others

/-- Both claims pass the checks that come before the client, or fail them alike. -/
structure JudgedAlike (failures : Failure → Failure → Prop) (settings : Settings) (issuer : Issuer)
    (claims others : Entries Value) : Prop where
  hint : Corresponds failures Eq (checkHint settings issuer claims) (checkHint settings issuer others)
  audience : Corresponds failures SameTexts (hintAudience claims) (hintAudience others)

variable {related : Entries Value → Entries Value → Prop} {failures : Failure → Failure → Prop}
  {stores others : Stores} {settings : Settings} {issuer : Issuer} {request : Request}

/-- Of alike authorizations both have an active token or neither has. -/
theorem activeToken_corresponds (reflexive : ∀ failure, failures failure failure)
    {tokenType : String} {found other : Option Authorization}
    (alike : Option.Rel (AlikeAuthorizations related tokenType) found other) :
    Corresponds failures
      (fun held heldOther => heldOther.1.registeredClientId = held.1.registeredClientId ∧
        AlikeTokens related held.2 heldOther.2)
      (activeToken tokenType found) (activeToken tokenType other) := by
  cases alike with
  | none => exact .failed (reflexive _)
  | @some authorization authorization' alike =>
      have tokens := alike.token
      unfold activeToken
      dsimp only
      generalize authorization.token? tokenType = held at tokens
      generalize authorization'.token? tokenType = heldOther at tokens
      cases tokens with
      | none => exact .failed (reflexive _)
      | @some token token' alikeTokens =>
          dsimp only
          rw [alikeTokens.invalidated]
          cases token.invalidated with
          | true => exact .failed (reflexive _)
          | false => exact .succeeded ⟨alike.registeredClientId, alikeTokens⟩

/-- Of an audience only its texts matter to the check of the client, and of a request neither its end
user nor its session. -/
theorem checkClient_inSession {parties others : List Value} (same : SameTexts parties others)
    (sessionId : Option Text) (client : RegisteredClient) :
    checkClient (request.inSession sessionId) client others = checkClient request client parties := by
  have membership : others.any (Value.same (.text client.clientId)) =
      parties.any (Value.same (.text client.clientId)) := by
    rw [Bool.eq_iff_iff, any_same_iff_mem, any_same_iff_mem, same]
  unfold checkClient
  rw [membership]
  rfl

/-- Judgements of requests with alike tokens correspond when their claims are judged alike and the
looks for a session correspond. -/
theorem validate_corresponds (reflexive : ∀ failure, failures failure failure)
    (sessionId : Option Text)
    (alike : AlikeStores related request.idTokenHint settings.tokenType stores others)
    (judged : ∀ claims claims', related claims claims' →
      JudgedAlike failures settings issuer claims claims')
    (tied : ∀ claims claims', related claims claims' →
      Corresponds failures Eq (sessionOf stores request claims).outcome
        (sessionOf others (request.inSession sessionId) claims').outcome) :
    Corresponds failures (AlikeResults related)
      (validate stores settings issuer request).outcome
      (validate others settings issuer (request.inSession sessionId)).outcome := by
  -- Stage by stage: what the first run goes on with is related to what the second one goes on with.
  apply (Corresponds.ask reflexive alike.authorization).bind
  intro found foundOther authorizations
  apply (activeToken_corresponds reflexive authorizations).bind
  rintro ⟨authorization, token⟩ ⟨authorization', token'⟩ ⟨sameClient, tokens⟩
  have checks := judged _ _ tokens.claims
  apply checks.hint.bind
  rintro _ _ -
  apply checks.audience.bind
  intro parties parties' sameTexts
  have sameClient : authorization'.registeredClientId = authorization.registeredClientId := sameClient
  have answers : Corresponds Eq Eq (stores.client authorization.registeredClientId)
      (others.client authorization'.registeredClientId) := by
    rw [alike.client, sameClient]
    exact .of_eq (fun _ => rfl) rfl
  apply (Corresponds.ask reflexive answers).bind
  rintro registered _ rfl
  apply (Corresponds.of_eq reflexive (rfl : knownClient registered = _)).bind
  rintro client _ rfl
  apply (Corresponds.of_eq reflexive
    (checkClient_inSession sameTexts sessionId client).symm).bind
  rintro _ _ -
  apply (tied _ _ tokens.claims).bind
  rintro session _ rfl
  exact .succeeded ⟨tokens, rfl⟩

/-- The look for a session reads of the claims only the subject and the session hash, and of the
stores only the sessions. -/
theorem sessionOf_congr (sameSessions : others.sessions = stores.sessions)
    {claims claims' : Entries Value} (subject : valueOf claims' "sub" = valueOf claims "sub")
    (hash : valueOf claims' "sid" = valueOf claims "sid") :
    sessionOf others request claims' = sessionOf stores request claims := by
  unfold sessionOf validateSession checkSubject tieSession
  rw [sameSessions, subject, hash]

/-- Judgements by stores with the same sessions correspond when, besides, related claims name the same
subject and the same session hash. -/
theorem validate_corresponds_in_session (reflexive : ∀ failure, failures failure failure)
    (alike : AlikeStores related request.idTokenHint settings.tokenType stores others)
    (sameSessions : others.sessions = stores.sessions)
    (judged : ∀ claims claims', related claims claims' →
      JudgedAlike failures settings issuer claims claims')
    (named : ∀ claims claims', related claims claims' →
      valueOf claims' "sub" = valueOf claims "sub" ∧ valueOf claims' "sid" = valueOf claims "sid") :
    Corresponds failures (AlikeResults related)
      (validate stores settings issuer request).outcome
      (validate others settings issuer request).outcome := by
  apply validate_corresponds reflexive request.sessionId alike judged
  intro claims claims' alikeClaims
  obtain ⟨subject, hash⟩ := named claims claims' alikeClaims
  rw [show request.inSession request.sessionId = request from rfl,
    sessionOf_congr sameSessions subject hash]
  exact .of_eq reflexive rfl

end EndSession.Logout
