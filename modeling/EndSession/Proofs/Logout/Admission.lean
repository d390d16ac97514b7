import EndSession.Proofs.Logout.Checks
import EndSession.Proofs.Logout.Consultation

/-
This file divides the judgement on a logout request at the point where its session comes in. What is
judged before that point does not depend on the sessions, and what is granted after it differs only
in the session that is named.
-/

namespace EndSession.Logout

open Session Client Claims Consultation

/-- The token and the client of a request, once both are admitted. -/
def admission (stores : Stores) (settings : Settings) (issuer : Issuer) (request : Request) :
    Consultation (Token × RegisteredClient) := do
  let found ← ask (.authorization request.idTokenHint settings.tokenType)
    (stores.authorization request.idTokenHint settings.tokenType)
  let (authorization, token) ← ofExcept (activeToken settings.tokenType found)
  ofExcept (checkHint settings issuer token.claims)
  let parties ← ofExcept (hintAudience token.claims)
  let registered ← ask (.client authorization.registeredClientId)
    (stores.client authorization.registeredClientId)
  let client ← ofExcept (knownClient registered)
  ofExcept (checkClient request client parties)
  value (token, client)

/-- What a request is granted with a token, a client and possibly a session. -/
def Request.grant (request : Request) (token : Token) (client : RegisteredClient)
    (session : Option Record) : Result where
  principal := request.principal
  idToken := token
  sessionId := session.map Record.sessionId
  clientId := client.clientId
  postLogoutRedirectUri := request.postLogoutRedirectUri
  state := request.state
  client := client

variable {stores : Stores} {settings : Settings} {issuer : Issuer} {request : Request}

/-- A judgement is the admission, and then the look for the session. -/
theorem validate_eq_admission :
    validate stores settings issuer request =
      admission stores settings issuer request >>= fun admitted =>
        sessionOf stores request admitted.1.claims >>= fun session =>
          value (request.grant admitted.1 admitted.2 session) := by
  unfold validate admission
  simp only [Consultation.bind_assoc]
  rfl

/-- Without an authenticated end user there is no session. With one there is a session when the end
user is the subject and the token is tied to the current session. -/
theorem sessionOf_eq_ok_iff {claims : Entries Value} {session : Option Record} :
    (sessionOf stores request claims).outcome = .ok session ↔
      request.principal.isAuthenticated = false ∧ session = none ∨
      request.principal.isAuthenticated = true ∧ checkSubject request.principal claims = .ok () ∧
        ∃ sessions, stores.sessions request.principal false = .ok sessions ∧
          tieSession claims (currentSession request sessions) = .ok session := by
  unfold sessionOf validateSession
  cases request.principal.isAuthenticated with
  | false => simp [Consultation.value, eq_comm]
  | true =>
      simp only [if_true, bind_eq_ok_iff, outcome_ofExcept, ask_eq_ok_iff]
      constructor
      · rintro ⟨_, subject, found⟩
        exact Or.inr ⟨trivial, subject, found⟩
      · rintro (⟨impossible, _⟩ | ⟨_, subject, found⟩)
        · cases impossible
        · exact ⟨(), subject, found⟩

/-- A judgement grants what was admitted, with the session that was found. -/
theorem validate_eq_ok_iff {result : Result} :
    (validate stores settings issuer request).outcome = .ok result ↔
      ∃ token client session,
        (admission stores settings issuer request).outcome = .ok (token, client) ∧
        (sessionOf stores request token.claims).outcome = .ok session ∧
        request.grant token client session = result := by
  rw [validate_eq_admission]
  simp [bind_eq_ok_iff, Consultation.value]

end EndSession.Logout
