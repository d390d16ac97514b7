import EndSession.Proofs.Logout.Checks
import EndSession.Proofs.Logout.Consultation
import EndSession.Proofs.Provider.Grounds

/-
This file fixes which stores a judgement on a logout request reads, in which order and on which
conditions, whatever the stores answer: each of the three is read once at most, and a store that fails
ends the judgement with its fault.
-/

namespace EndSession.Logout

open Session Client Claims Consultation Provider

variable (stores : Stores) (settings : Settings) (issuer : Issuer) (request : Request)

/-- All reads that a judgement can make, in their order. Only an authorization that was found says
which client is sought. -/
def Stores.plan : List StoreRead :=
  .authorization request.idTokenHint settings.tokenType ::
    match stores.authorization request.idTokenHint settings.tokenType with
    | .ok (some authorization) =>
      [.client authorization.registeredClientId, .sessions request.principal false]
    | _ => []

/-- The hint is found as this active token of this authorization, and its claims pass their check and
name these parties, at least one. -/
structure Stores.AdmitsHint (authorization : Authorization) (token : Token) (parties : List Value) :
    Prop where
  found : stores.authorization request.idTokenHint settings.tokenType = .ok (some authorization)
  held : authorization.token? settings.tokenType = some token
  active : token.invalidated = false
  checked : checkHint settings issuer token.claims = .ok ()
  audience : audience token.claims = .ok parties
  filled : parties ≠ []

/-- This client is registered under the id, is one of the parties, and is not contradicted by the
request. -/
structure Stores.AdmitsClient (id : String) (parties : List Value) (client : RegisteredClient) :
    Prop where
  known : stores.client id = .ok (some client)
  party : Value.text client.clientId ∈ parties
  named : ∀ named, request.clientId = some named → named ≠ "" → named = client.clientId
  registered : ∀ uri, request.postLogoutRedirectUri = some uri → uri ≠ "" →
    uri ∈ client.postLogoutRedirectUris

/-- The end user is authenticated and the subject of the claims. -/
structure IsSubject (principal : Principal) (claims : Entries Value) : Prop where
  authenticated : principal.isAuthenticated = true
  subject : ∃ name, principal.name? = some name ∧ name ≠ "" ∧
    claims.get? "sub" = some (.text name)

variable {stores settings issuer request}

/-- The sessions are read of an end user who is the subject. -/
theorem mem_reads_sessionOf_iff {claims : Entries Value} {read : StoreRead} :
    read ∈ (sessionOf stores request claims).reads ↔
      read = .sessions request.principal false ∧ IsSubject request.principal claims := by
  unfold sessionOf validateSession
  cases authenticated : request.principal.isAuthenticated with
  | false =>
      constructor
      · intro member
        cases member
      · rintro ⟨_, subject⟩
        cases authenticated.symm.trans subject.authenticated
  | true =>
      simp only [if_true, mem_reads_check_iff, mem_reads_ask_iff, reads_ofExcept, List.not_mem_nil,
        and_false, exists_false, or_false]
      constructor
      · rintro ⟨_, checked, here⟩
        exact ⟨here, authenticated, checkSubject_eq_ok_iff.mp checked⟩
      · rintro ⟨here, subject⟩
        exact ⟨(), checkSubject_eq_ok_iff.mpr subject.subject, here⟩

/-- A judgement reads the authorization, the client once the hint is admitted, and the sessions once
the client is and the end user is the subject. -/
theorem mem_reads_validate_iff {read : StoreRead} :
    read ∈ (validate stores settings issuer request).reads ↔
      read = .authorization request.idTokenHint settings.tokenType ∨
      ∃ authorization token parties,
        stores.AdmitsHint settings issuer request authorization token parties ∧
        (read = .client authorization.registeredClientId ∨
          ∃ client, stores.AdmitsClient request authorization.registeredClientId parties client ∧
            read = .sessions request.principal false ∧ IsSubject request.principal token.claims) := by
  unfold validate
  rw [mem_reads_ask_iff]
  refine or_congr_right ?_
  simp only [mem_reads_check_iff, mem_reads_ask_iff]
  constructor
  · rintro ⟨found, answered, ⟨authorization, token⟩, active, _, checked, parties, listed, further⟩
    obtain ⟨rfl, held, live⟩ := activeToken_eq_ok_iff.mp active
    obtain ⟨audience, filled⟩ := hintAudience_eq_ok_iff.mp listed
    refine ⟨authorization, token, parties, ⟨answered, held, live, checked, audience, filled⟩, ?_⟩
    refine further.imp_right ?_
    rintro ⟨registered, known, client, found, _, fits, member⟩
    cases knownClient_eq_ok_iff.mp found
    obtain ⟨party, named, registered⟩ := checkClient_eq_ok_iff.mp fits
    rw [reads_bind_value] at member
    exact ⟨client, ⟨known, party, named, registered⟩, mem_reads_sessionOf_iff.mp member⟩
  · rintro ⟨authorization, token, parties, hint, further⟩
    refine ⟨_, hint.found, ⟨authorization, token⟩, ?_, (), hint.checked, parties, ?_, ?_⟩
    · exact activeToken_eq_ok_iff.mpr ⟨rfl, hint.held, hint.active⟩
    · exact hintAudience_eq_ok_iff.mpr ⟨hint.audience, hint.filled⟩
    refine further.imp_right ?_
    rintro ⟨client, admitted, member⟩
    refine ⟨_, admitted.known, client, knownClient_eq_ok_iff.mpr rfl, (), ?_, ?_⟩
    · exact checkClient_eq_ok_iff.mpr ⟨admitted.party, admitted.named, admitted.registered⟩
    · rw [reads_bind_value]
      exact mem_reads_sessionOf_iff.mpr member

/-- A judgement keeps to the plan. -/
theorem follows_validate :
    (validate stores settings issuer request).Follows (stores.plan settings request) := by
  have sessions (claims : Entries Value) :
      (sessionOf stores request claims).Follows [.sessions request.principal false] := by
    unfold sessionOf validateSession
    split
    · apply Follows.check
      intro _ _
      apply Follows.ask
      intro sessions _
      exact .ofExcept _
    · exact .value none
  unfold validate Stores.plan
  apply Follows.ask
  intro found answered
  rw [answered]
  apply Follows.check
  rintro ⟨authorization, token⟩ active
  obtain ⟨rfl, _, _⟩ := activeToken_eq_ok_iff.mp active
  apply Follows.check
  intro _ _
  apply Follows.check
  intro parties _
  apply Follows.ask
  intro registered _
  apply Follows.check
  intro client _
  apply Follows.check
  intro _ _
  unfold Follows
  rw [reads_bind_value]
  exact sessions token.claims

/-- A store that fails ends the judgement. -/
theorem stopsAtFaults_validate :
    (validate stores settings issuer request).StopsAtFaults stores := by
  have sessions (claims : Entries Value) :
      (sessionOf stores request claims).StopsAtFaults stores := by
    unfold sessionOf validateSession
    split
    · refine .bind (.ofExcept _) fun _ _ => .bind (.ask ?_) fun _ _ => .ofExcept _
      intro fault failed
      cases failed with
      | sessions down => exact down
    · exact .value none
  unfold validate
  refine .bind (.ask ?_) fun found _ => ?_
  · intro fault failed
    cases failed with
    | authorization down => exact down
  refine .bind (.ofExcept _) fun held _ => ?_
  refine .bind (.ofExcept _) fun _ _ => ?_
  refine .bind (.ofExcept _) fun parties _ => ?_
  refine .bind (.ask ?_) fun registered _ => ?_
  · intro fault failed
    cases failed with
    | client down => exact down
  refine .bind (.ofExcept _) fun client _ => ?_
  refine .bind (.ofExcept _) fun _ _ => ?_
  exact .bind (sessions _) fun session _ => .value _

theorem nodup_plan : (stores.plan settings request).Nodup := by
  unfold Stores.plan
  split <;> simp

/-- A judgement reads the authorization of the hint in any case. It reads the client of that
authorization if it admits the hint, and the unexpired sessions of the end user if it also admits the
client and the end user is the subject. Each of these is read once at most, in this order, and a read
that fails is the last one, with its fault as the outcome. -/
theorem validate_reads_in_order (stores : Stores) (settings : Settings) (issuer : Issuer)
    (request : Request) :
    let judgement := validate stores settings issuer request
    judgement.reads <+: stores.plan settings request ∧
      judgement.reads.Nodup ∧
      .authorization request.idTokenHint settings.tokenType ∈ judgement.reads ∧
      (∀ id, .client id ∈ judgement.reads ↔
        ∃ authorization token parties,
          stores.AdmitsHint settings issuer request authorization token parties ∧
          id = authorization.registeredClientId) ∧
      (∀ principal includeExpired, .sessions principal includeExpired ∈ judgement.reads ↔
        (principal = request.principal ∧ includeExpired = false) ∧
        ∃ authorization token parties client,
          stores.AdmitsHint settings issuer request authorization token parties ∧
          stores.AdmitsClient request authorization.registeredClientId parties client ∧
          IsSubject request.principal token.claims) ∧
      ∀ read ∈ judgement.reads, ∀ fault, stores.Fails read fault →
        judgement.outcome = .error (.store fault) ∧ judgement.reads.getLast? = some read := by
  refine ⟨follows_validate, follows_validate.sublist.nodup nodup_plan, ?_, ?_, ?_,
    stopsAtFaults_validate⟩
  · exact mem_reads_validate_iff.mpr (Or.inl rfl)
  · intro id
    rw [mem_reads_validate_iff]
    simp
  · intro principal includeExpired
    rw [mem_reads_validate_iff]
    constructor
    · rintro (impossible | ⟨authorization, token, parties, hint, impossible | further⟩)
      · cases impossible
      · cases impossible
      · obtain ⟨client, admitted, same, subject⟩ := further
        cases same
        exact ⟨⟨rfl, rfl⟩, authorization, token, parties, client, hint, admitted, subject⟩
    · rintro ⟨⟨rfl, rfl⟩, authorization, token, parties, client, hint, admitted, subject⟩
      refine Or.inr ⟨authorization, token, parties, hint, Or.inr ⟨client, admitted, rfl, subject⟩⟩

/-- The provider of the session, unable to look its sessions up. -/
def providerWithoutSessions : State :=
  providerOfSession.after (.breakStore .sessions "no sessions today")

/-- The request in the session is admitted up to its session, and ends where that is looked up. -/
theorem session_reads_in_order :
    let stores := providerWithoutSessions.stores
    let settings := providerWithoutSessions.settings
    let judgement := validate stores settings providerIssuer requestInSession
    (∃ authorization token parties client,
      stores.AdmitsHint settings providerIssuer requestInSession authorization token parties ∧
      stores.AdmitsClient requestInSession authorization.registeredClientId parties client ∧
      IsSubject requestInSession.principal token.claims) ∧
    judgement.reads.getLast? = some (.sessions (.authenticated (some "principal")) false) ∧
    judgement.outcome = .error (.store (.down "no sessions today")) := by
  intro stores settings judgement
  obtain ⟨_, _, _, _, sessions, stops⟩ :=
    validate_reads_in_order stores settings providerIssuer requestInSession
  have computed : (judgement.reads.any fun read =>
      match read with
      | .sessions principal includeExpired =>
        principal == requestInSession.principal && !includeExpired
      | _ => false) = true := by
    decide +kernel
  have member : .sessions requestInSession.principal false ∈ judgement.reads := by
    obtain ⟨read, member, same⟩ := List.any_eq_true.mp computed
    cases read with
    | sessions principal includeExpired =>
        obtain ⟨rfl, rfl⟩ := by simpa using same
        exact member
    | _ => cases same
  obtain ⟨ended, last⟩ := stops _ member _ (.sessions rfl)
  exact ⟨((sessions _ _).mp member).2, last, ended⟩

end EndSession.Logout
