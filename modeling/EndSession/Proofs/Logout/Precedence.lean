import EndSession.Proofs.Provider.Inquiry

/-
This file states the order in which the faults of a logout request are noticed, whatever else is wrong
with it, and that nothing but a fault of the request ends its judgement, as long as the clock shows a
number of seconds and the session of the request has an id that can be hashed.
-/

namespace EndSession.Logout

open Session Client Claims Number Provider

/-- A request whose stores answer and whose token has issued claims is granted if it passes all
stages. Otherwise the first stage that it does not pass decides what it is refused with. Only when this
is the last one, and the session that the request names has an id with a surrogate, is there nothing
that the request is refused with. The audience of a token that passes its check can always be read. -/
theorem validate_first_failing_stage {stores : Stores} {settings : Settings} {inquiry : Inquiry}
    (answered : inquiry.IsAnswered stores settings)
    (issued : inquiry.OfToken fun _ token => IsIssued token.claims) :
    ((∃ result, (validate stores settings inquiry.issuer inquiry.request).outcome = .ok result ∧
        ∀ stage : Stage, stage.Passes inquiry) ∨
      (∃ stage fault cause,
        (validate stores settings inquiry.issuer inquiry.request).outcome =
            .error (.refused fault cause) ∧
          IsFirst (fun stage => ¬ stage.Passes inquiry) Stage.order stage ∧
          stage.Reports inquiry fault ∧
          (fault.kind = .invalidToken ∨ fault.kind = .invalidRequest)) ∨
      (validate stores settings inquiry.issuer inquiry.request).outcome =
          .error (.misuse .surrogate) ∧
        IsFirst (fun stage => ¬ stage.Passes inquiry) Stage.order .session ∧
        inquiry.HasUnhashedSession) ∧
      inquiry.OfToken fun _ token => checkHint settings inquiry.issuer token.claims = .ok () →
        ∃ parties, audience token.claims = .ok parties := by
  constructor
  · rcases decides_validate answered issued with
      ⟨result, granted, _, passes⟩ | ⟨stage, failure, stops, first, ends⟩
    · refine Or.inl ⟨result, granted, fun stage => passes stage ?_⟩
      cases stage <;> decide
    · cases ends with
      | @refused _ fault reports cause =>
          exact Or.inr (Or.inl ⟨stage, fault, cause, stops, first, reports,
            Stage.kind_of_reports reports⟩)
      | unhashed unhashed => exact Or.inr (Or.inr ⟨stops, first, unhashed⟩)
  · intro authorization token finds passes
    obtain ⟨time, allowance, shown, allowed, _⟩ := answered.limit
    have verdict := checkHint_verdict settings inquiry.issuer shown allowed
      (issued authorization token finds)
    rcases verdict with ⟨_, fits⟩ | ⟨_, _, _, refused, _⟩
    · obtain ⟨parties, listed, _⟩ := audience_of_fits fits
      exact ⟨_, listed⟩
    · rw [passes] at refused
      cases refused

/-- The failure that a judgement ends with. -/
def failureOf? : Except Failure Result → Option Failure
  | .error failure => some failure
  | .ok _ => none

theorem failureOf?_eq_some_iff {outcome : Except Failure Result} {failure : Failure} :
    failureOf? outcome = some failure ↔ outcome = .error failure := by
  cases outcome <;> simp [failureOf?]

/-- A provider that holds one token, which was issued with the claims. -/
def providerOfToken (clock : Value) (claims : List (String × Value)) : State :=
  (State.initial "https://provider.test" clock (.number (.whole 60)) .strict).afterAll
    [.addAuthorization
      { id := "authorization-1"
        registeredClientId := "registration-1"
        principalName := "principal"
        tokens := [(idTokenType,
          { value := "id-token", claims := Entries.ofList claims, invalidated := false })] }]

/-- The provider of the token holds issued claims only. -/
theorem holdsIssued_providerOfToken (clock : Value) (claims : List (String × Value)) :
    (providerOfToken clock claims).HoldsIssued :=
  (State.holdsIssued_initial _ _ _ _).afterAll (by simp [Step.setsClaim])

/-- A clock that shows a quarter of a second less than a full second. -/
def fractionalClock : Value :=
  .number (.binary (.finite (6800000003 / 4)))

/-- A provider of a token with the number five as its subject, a foreign issuer and a number as its
audience. It has no client. -/
def providerOfMistakenToken : State :=
  providerOfToken fractionalClock
    [("sub", .number (.whole 5)), ("iss", .text "https://other.test"), ("aud", .number (.whole 7))]

/-- A request with this token in a session. -/
def requestWithToken (sessionId : Text) : Request where
  idTokenHint := .text "id-token"
  principal := .authenticated (some "principal")
  sessionId := some sessionId
  clientId := none
  postLogoutRedirectUri := none
  state := none
  hintGiven := by decide +kernel

def providerIssuer : Issuer where
  name := "https://provider.test"
  acceptable := by decide +kernel

/-- Of all the faults of the mistaken token the first claim in its order is the one that is named. -/
theorem mistaken_token_first_failing_stage :
    let request := requestWithToken "session-1"
    let inquiry := providerOfMistakenToken.inquiry providerIssuer request (1700000000 + 60)
    let outcome := (validate providerOfMistakenToken.stores providerOfMistakenToken.settings
      providerIssuer request).outcome
    inquiry.IsAnswered providerOfMistakenToken.stores providerOfMistakenToken.settings ∧
      (inquiry.OfToken fun _ token => IsIssued token.claims) ∧
      ∃ stage cause, outcome = .error (.refused ⟨.invalidToken, "sub"⟩ cause) ∧
        IsFirst (fun stage => ¬ stage.Passes inquiry) Stage.order stage ∧
        stage.Reports inquiry ⟨.invalidToken, "sub"⟩ := by
  intro request inquiry outcome
  have up : ∀ store, providerOfMistakenToken.fault? store = none := by
    intro store
    cases store <;> rfl
  have seconds : Timing.truncate (6800000003 / 4) = 1700000000 := by
    decide +kernel
  have shown : Timing.wholeSeconds providerOfMistakenToken.clock = .ok (.whole 1700000000) := by
    rw [← seconds]
    rfl
  have answered : inquiry.IsAnswered providerOfMistakenToken.stores
      providerOfMistakenToken.settings :=
    State.isAnswered_inquiry up shown rfl providerIssuer request
  have holds : providerOfMistakenToken.HoldsIssued := holdsIssued_providerOfToken _ _
  have issued := holds.ofToken providerIssuer request (1700000000 + 60)
  have computed : failureOf? outcome = some (.refused ⟨.invalidToken, "sub"⟩
      (some (.invalid "sub" .notStringOrUri))) := by
    decide +kernel
  have refused := failureOf?_eq_some_iff.mp computed
  rcases (validate_first_failing_stage answered issued).1 with
    ⟨result, granted, _⟩ | ⟨stage, fault, cause, refused', first, reports, _⟩ | ⟨misused, _⟩
  · cases refused.symm.trans granted
  · cases refused.symm.trans refused'
    exact ⟨answered, issued, stage, _, refused, first, reports⟩
  · cases refused.symm.trans misused

/-- A provider of a token of a foreign issuer, with a clock that shows no number. -/
def providerOfUndefinedClock : State :=
  providerOfToken (.number (.binary .nan))
    [("iat", .number (.whole 1699999940)), ("iss", .text "https://other.test")]

/-- A text that is a surrogate on its own. -/
def loneSurrogate : Text := ⟨[.surrogate 0]⟩

/-- A provider of a token with a client and a session, the id of which is a surrogate. -/
def providerOfSurrogate : State :=
  (providerOfToken fractionalClock
    [("iss", .text "https://provider.test"), ("sub", .text "principal"), ("aud", .text "client-1"),
      ("sid", .text "session-hash")]).afterAll
    [.addClient ⟨"registration-1", "client-1", .given [] []⟩,
      .addSession ⟨.authenticated (some "principal"), loneSurrogate, false⟩]

/-- Although their stores answer and their tokens were issued, neither provider grants or refuses a
request. The one cannot compare the date of its token with the clock, and the other cannot hash the id
of its session. -/
theorem undefined_clock_and_surrogate_not_refused :
    (providerOfUndefinedClock.HoldsIssued ∧ (∀ store, providerOfUndefinedClock.fault? store = none) ∧
      (validate providerOfUndefinedClock.stores providerOfUndefinedClock.settings providerIssuer
        (requestWithToken "session-1")).outcome = .error (.check (.time .undefinedClock))) ∧
    providerOfSurrogate.HoldsIssued ∧ (∀ store, providerOfSurrogate.fault? store = none) ∧
      (validate providerOfSurrogate.stores providerOfSurrogate.settings providerIssuer
        (requestWithToken loneSurrogate)).outcome = .error (.misuse .surrogate) := by
  refine ⟨⟨holdsIssued_providerOfToken _ _, ?_, ?_⟩, ?_, ?_, ?_⟩
  · intro store
    cases store <;> rfl
  · apply failureOf?_eq_some_iff.mp
    decide +kernel
  · exact (holdsIssued_providerOfToken _ _).afterAll (by simp [Step.setsClaim])
  · intro store
    cases store <;> rfl
  · apply failureOf?_eq_some_iff.mp
    decide +kernel

end EndSession.Logout
