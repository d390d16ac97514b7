import EndSession.Proofs.Logout.Admission
import EndSession.Proofs.Provider.Grounds
import Mathlib.Logic.Relation

/-
This file tells what a judgement learns from the sessions that a provider keeps: only whether there is
a live session of the end user under the id that the request names. All other sessions may come and
go, and a session that ends takes nothing from a result but its id.
-/

namespace EndSession.Provider

open Session Client Logout Claims Consultation

/-- The provider with other sessions, and all else as it is. -/
def State.withSessions (state : State) (sessions : List Record) : State :=
  { state with sessions := sessions }

/-- The session is none that the request can mean: it has expired, or is that of another end user, or
has another id. -/
def IsForeign (request : Request) (session : Record) : Prop :=
  session.expired = true ∨ session.principal ≠ request.principal ∨
    request.sessionId ≠ some session.sessionId

/-- A change of the sessions that is no matter of the request: they are put in another order, one of
them is kept twice, or a foreign one is added or removed. -/
inductive DirectoryChange (request : Request) : List Record → List Record → Prop where
  | reorder {sessions others : List Record} (same : sessions.Perm others) :
      DirectoryChange request sessions others
  | duplicate (before after : List Record) {session : Record} (known : session ∈ before ++ after) :
      DirectoryChange request (before ++ after) (before ++ session :: after)
  | add (before after : List Record) {session : Record} (foreign : IsForeign request session) :
      DirectoryChange request (before ++ after) (before ++ session :: after)
  | remove (before after : List Record) {session : Record} (foreign : IsForeign request session) :
      DirectoryChange request (before ++ session :: after) (before ++ after)

/-- The step ends sessions. -/
def Step.endsSession : Step → Bool
  | .expireSession _ => true
  | .removeSession _ => true
  | _ => false

/-- A result names the live session that the request names, which is the one that the token was issued
in. It names none for an authenticated end user only if there is no such session. -/
structure NamesSession (state : State) (request : Request) (result : Result) : Prop where
  named : ∀ id, result.sessionId = some id →
    request.sessionId = some id ∧
      (∃ session, IsLive state request session ∧ session.sessionId = id) ∧
      ∃ hash, sessionHash id = .ok hash ∧ result.idToken.claims.get? "sid" = some (.text hash)
  unnamed : result.sessionId = none → request.principal.isAuthenticated = true →
    ∀ session, ¬ IsLive state request session

variable {state : State} {issuer : Issuer} {request : Request} {sessions others : List Record}

/-- One change keeps the sessions that the request can mean. -/
theorem DirectoryChange.mem_iff (change : DirectoryChange request sessions others) {session : Record}
    (meant : ¬ IsForeign request session) : session ∈ sessions ↔ session ∈ others := by
  cases change with
  | reorder same => exact same.mem_iff
  | @duplicate before after other known =>
      have inside : session = other → session ∈ before ++ after := fun same => same ▸ known
      simp only [List.mem_append, List.mem_cons] at inside ⊢
      tauto
  | @add before after other foreign =>
      have different : session ≠ other := fun same => meant (same ▸ foreign)
      simp [different]
  | @remove before after other foreign =>
      have different : session ≠ other := fun same => meant (same ▸ foreign)
      simp [different]

/-- So do changes that follow each other, and changes that are undone. -/
theorem mem_iff_of_changes (changes : Relation.EqvGen (DirectoryChange request) sessions others)
    {session : Record} (meant : ¬ IsForeign request session) :
    session ∈ sessions ↔ session ∈ others := by
  induction changes with
  | rel _ _ change => exact change.mem_iff meant
  | refl _ => exact Iff.rfl
  | symm _ _ _ inductionHypothesis => exact inductionHypothesis.symm
  | trans _ _ _ _ _ first second => exact first.trans second

namespace IsLive

theorem not_isForeign {session : Record} (live : IsLive state request session) :
    ¬ IsForeign request session := by
  rintro (expired | principal | named)
  · cases live.unexpired.symm.trans expired
  · exact principal live.principal
  · exact named live.named

/-- All live sessions of a request are the same record. -/
theorem unique {first second : Record} (one : IsLive state request first)
    (other : IsLive state request second) : first = second := by
  have sessionId := Option.some.inj (one.named.symm.trans other.named)
  have principal := one.principal.trans other.principal.symm
  have expired := one.unexpired.trans other.unexpired.symm
  cases first
  cases second
  simp_all

/-- A live session is live among all sessions that it is one of. -/
theorem withSessions {session : Record} (live : IsLive state request session)
    (member : session ∈ sessions) : IsLive (state.withSessions sessions) request session :=
  ⟨member, live.principal, live.unexpired, live.named, live.filled⟩

end IsLive

/-- The session that a request means at the provider. -/
def State.currentSession (state : State) (request : Request) : Option Record :=
  Logout.currentSession request (state.sessionsOf request.principal false)

/-- The session that a request means is the live one. -/
theorem State.currentSession_eq_some_iff (strict : state.loose = false) (session : Record) :
    state.currentSession request = some session ↔ IsLive state request session := by
  unfold State.currentSession
  constructor
  · intro found
    exact (State.isCurrent_iff strict session).mp (isCurrent_of_currentSession found)
  · intro live
    have current := (State.isCurrent_iff strict session).mpr live
    obtain ⟨other, found⟩ := Option.ne_none_iff_exists'.mp (currentSession_ne_none current)
    have otherLive := (State.isCurrent_iff strict other).mp (isCurrent_of_currentSession found)
    rw [found, live.unique otherLive]

/-- Changes that are no matter of the request leave it the session that it means. -/
theorem State.currentSession_of_changes (strict : state.loose = false)
    (changes : Relation.EqvGen (DirectoryChange request) state.sessions sessions) :
    (state.withSessions sessions).currentSession request = state.currentSession request := by
  have strict' : (state.withSessions sessions).loose = false := strict
  apply Option.ext
  intro session
  rw [State.currentSession_eq_some_iff strict, State.currentSession_eq_some_iff strict']
  constructor
  · intro live
    exact live.withSessions ((mem_iff_of_changes changes live.not_isForeign).mpr live.mem)
  · intro live
    exact live.withSessions ((mem_iff_of_changes changes live.not_isForeign).mp live.mem)

/-- A request that means a session either means it still when sessions have ended, or means none. -/
theorem State.currentSession_of_ended (strict : state.loose = false)
    (old : ∀ session ∈ sessions, session.expired = false → session ∈ state.sessions) :
    (state.withSessions sessions).currentSession request = state.currentSession request ∨
      (state.withSessions sessions).currentSession request = none := by
  have strict' : (state.withSessions sessions).loose = false := strict
  cases found : (state.withSessions sessions).currentSession request with
  | none => exact Or.inr rfl
  | some session =>
      have live := (State.currentSession_eq_some_iff strict' session).mp found
      have before : IsLive state request session :=
        live.withSessions (old session live.mem live.unexpired)
      exact Or.inl ((State.currentSession_eq_some_iff strict session).mpr before).symm

/-- The sessions of a provider count only through the one that the request means. -/
theorem sessionOf_withSessions
    (same : (state.withSessions sessions).currentSession request = state.currentSession request)
    (claims : Entries Value) :
    sessionOf (state.withSessions sessions).stores request claims =
      sessionOf state.stores request claims := by
  have fault : (state.withSessions sessions).fault? = state.fault? := rfl
  unfold State.currentSession at same
  unfold sessionOf validateSession
  simp only [State.stores, State.answer, fault]
  cases state.fault? .sessions with
  | some fault => rfl
  | none => simp only [ask, bind_ok, same]

/-- So a judgement on the same terms but for the sessions is the same. -/
theorem validate_withSessions
    (same : (state.withSessions sessions).currentSession request = state.currentSession request) :
    validate (state.withSessions sessions).stores (state.withSessions sessions).settings issuer
        request =
      validate state.stores state.settings issuer request := by
  have admitted : admission (state.withSessions sessions).stores
      (state.withSessions sessions).settings issuer request =
        admission state.stores state.settings issuer request := rfl
  simp only [validate_eq_admission, admitted, sessionOf_withSessions same]

/-- A step that ends sessions changes nothing but the sessions, of which it makes no live ones. -/
theorem State.after_endsSession (state : State) {step : Step} (ends : step.endsSession = true) :
    ∃ sessions, state.after step = state.withSessions sessions ∧
      ∀ session ∈ sessions, session.expired = false → session ∈ state.sessions := by
  cases step with
  | expireSession sessionId =>
      refine ⟨_, rfl, ?_⟩
      intro session member unexpired
      obtain ⟨old, inside, same⟩ := List.mem_map.mp member
      split at same
      · rw [← same] at unexpired
        cases unexpired
      · exact same ▸ inside
  | removeSession sessionId =>
      refine ⟨_, rfl, ?_⟩
      intro session member _
      exact List.mem_of_mem_filter member
  | _ => cases ends

/-- So do steps that end sessions one after the other. -/
theorem State.afterAll_endsSession (state : State) {steps : List Step}
    (ends : ∀ step ∈ steps, step.endsSession = true) :
    ∃ sessions, state.afterAll steps = state.withSessions sessions ∧
      ∀ session ∈ sessions, session.expired = false → session ∈ state.sessions := by
  induction steps generalizing state with
  | nil => exact ⟨state.sessions, rfl, fun _ member _ => member⟩
  | cons step rest inductionHypothesis =>
      rw [List.forall_mem_cons] at ends
      obtain ⟨sessions, changed, old⟩ := state.after_endsSession ends.1
      obtain ⟨others, changedAgain, older⟩ := inductionHypothesis (state.after step) ends.2
      refine ⟨others, ?_, ?_⟩
      · change (state.after step).afterAll rest = _
        rw [changedAgain, changed]
        rfl
      · intro session member unexpired
        have known := older session member unexpired
        rw [changed] at known
        exact old session known unexpired

/-- A provider finds no session unless the end user is authenticated, and then the one that the
request means, if the token is tied to it. -/
theorem sessionOf_stores_eq_ok_iff {claims : Entries Value} {session : Option Record} :
    (sessionOf state.stores request claims).outcome = .ok session ↔
      request.principal.isAuthenticated = false ∧ session = none ∨
      request.principal.isAuthenticated = true ∧ checkSubject request.principal claims = .ok () ∧
        state.fault? .sessions = none ∧
        tieSession claims (state.currentSession request) = .ok session := by
  rw [sessionOf_eq_ok_iff]
  simp [State.stores, State.currentSession, State.answer_eq_ok_iff]

/-- A token that is tied to a session is also tied to none. -/
theorem tieSession_of_ended {claims : Entries Value} {current ended session : Option Record}
    (tied : tieSession claims current = .ok session) (left : ended = current ∨ ended = none) :
    ∃ found, tieSession claims ended = .ok found ∧ (found = session ∨ found = none) := by
  obtain ⟨rfl, filled, _⟩ := tieSession_eq_ok_iff.mp tied
  rcases left with rfl | rfl
  · exact ⟨ended, tied, Or.inl rfl⟩
  · exact ⟨none, tieSession_eq_ok_iff.mpr ⟨rfl, filled, by simp⟩, Or.inr rfl⟩

/-- Sessions that have ended take nothing from a result but its id of a session. -/
theorem granted_of_ended (strict : state.loose = false)
    (old : ∀ session ∈ sessions, session.expired = false → session ∈ state.sessions) {result : Result}
    (granted : (validate state.stores state.settings issuer request).outcome = .ok result) :
    ∃ found, (validate (state.withSessions sessions).stores (state.withSessions sessions).settings
        issuer request).outcome = .ok found ∧
      (found = result ∨ found = { result with sessionId := none }) := by
  obtain ⟨token, client, session, admitted, ended, rfl⟩ := validate_eq_ok_iff.mp granted
  have grants {found : Option Record}
      (ended : (sessionOf (state.withSessions sessions).stores request token.claims).outcome =
        .ok found) :
      (validate (state.withSessions sessions).stores (state.withSessions sessions).settings
        issuer request).outcome = .ok (request.grant token client found) :=
    validate_eq_ok_iff.mpr ⟨token, client, found, admitted, ended, rfl⟩
  rcases sessionOf_stores_eq_ok_iff.mp ended with
    ⟨unauthenticated, rfl⟩ | ⟨authenticated, subject, up, tied⟩
  · exact ⟨_, grants (sessionOf_stores_eq_ok_iff.mpr (Or.inl ⟨unauthenticated, rfl⟩)), Or.inl rfl⟩
  · obtain ⟨found, tiedAgain, kept⟩ :=
      tieSession_of_ended tied (State.currentSession_of_ended strict old)
    refine ⟨_, grants (sessionOf_stores_eq_ok_iff.mpr
      (Or.inr ⟨authenticated, subject, up, tiedAgain⟩)), ?_⟩
    rcases kept with rfl | rfl
    · exact Or.inl rfl
    · exact Or.inr rfl

/-- A result names the session that the request means. -/
theorem namesSession_of_granted (strict : state.loose = false) {result : Result}
    (granted : (validate state.stores state.settings issuer request).outcome = .ok result) :
    NamesSession state request result := by
  obtain ⟨token, client, session, _, ended, rfl⟩ := validate_eq_ok_iff.mp granted
  rcases sessionOf_stores_eq_ok_iff.mp ended with
    ⟨unauthenticated, rfl⟩ | ⟨_, _, _, tied⟩
  · constructor
    · intro id impossible
      cases impossible
    · intro _ authenticated
      cases unauthenticated.symm.trans authenticated
  · obtain ⟨rfl, _, hashed⟩ := tieSession_eq_ok_iff.mp tied
    constructor
    · intro id named
      obtain ⟨record, found, rfl⟩ := Option.map_eq_some_iff.mp named
      have live := (State.currentSession_eq_some_iff strict record).mp found
      obtain ⟨hash, made, carried⟩ := hashed record found
      exact ⟨live.named, ⟨record, live, rfl⟩, hash, made, (valueOf_eq_text_iff _ _ _).mp carried⟩
    · intro unnamed _ record live
      have found := (State.currentSession_eq_some_iff strict record).mpr live
      have none := Option.map_eq_none_iff.mp unnamed
      cases none.symm.trans found

/-- A provider that keeps end users apart answers a request the same after all changes of its sessions
that are no matter of the request. What it grants it still grants after any steps that end sessions,
but perhaps without the id of a session. And it names exactly the live session that the request
names. -/
theorem validate_indifferent_to_other_sessions (strict : state.loose = false) (issuer : Issuer)
    (request : Request) :
    (∀ sessions, Relation.EqvGen (DirectoryChange request) state.sessions sessions →
      validate (state.withSessions sessions).stores (state.withSessions sessions).settings issuer
        request = validate state.stores state.settings issuer request) ∧
    ∀ result, (validate state.stores state.settings issuer request).outcome = .ok result →
      (∀ steps : List Step, (∀ step ∈ steps, step.endsSession = true) →
        ∃ found, (validate (state.afterAll steps).stores (state.afterAll steps).settings issuer
            request).outcome = .ok found ∧
          (found = result ∨ found = { result with sessionId := none })) ∧
      NamesSession state request result := by
  constructor
  · intro sessions changes
    exact validate_withSessions (State.currentSession_of_changes strict changes)
  · intro result granted
    refine ⟨?_, namesSession_of_granted strict granted⟩
    intro steps ends
    obtain ⟨sessions, changed, old⟩ := state.afterAll_endsSession ends
    rw [changed]
    exact granted_of_ended strict old granted

/-- A session of the same id that has expired. -/
def expiredSession : Record := ⟨.authenticated (some "principal"), "session-1", true⟩

/-- An expired session with the id of the end user's own does not hide it. Once this has expired as
well, the same is granted without it. -/
theorem session_indifferent_to_expired_session : providerOfSession.loose = false ∧
    ∃ result, NamesSession providerOfSession requestInSession result ∧
      result.sessionId = some ("session-1" : Text) ∧
      (validate
        (providerOfSession.withSessions (expiredSession :: providerOfSession.sessions)).stores
        (providerOfSession.withSessions (expiredSession :: providerOfSession.sessions)).settings
        providerIssuer requestInSession).outcome = .ok result ∧
      (validate (providerOfSession.afterAll [.expireSession "session-1"]).stores
        (providerOfSession.afterAll [.expireSession "session-1"]).settings
        providerIssuer requestInSession).outcome = .ok { result with sessionId := none } := by
  have computed : ((validate providerOfSession.stores providerOfSession.settings providerIssuer
      requestInSession).outcome.toOption.map Result.sessionId) = some (some ("session-1" : Text)) := by
    decide +kernel
  have computedLater : ((validate (providerOfSession.afterAll [.expireSession "session-1"]).stores
      (providerOfSession.afterAll [.expireSession "session-1"]).settings providerIssuer
      requestInSession).outcome.toOption.map Result.sessionId) = some none := by
    decide +kernel
  have added : Relation.EqvGen (DirectoryChange requestInSession) providerOfSession.sessions
      (expiredSession :: providerOfSession.sessions) :=
    .rel _ _ (.add [] providerOfSession.sessions (Or.inl rfl))
  obtain ⟨result, granted, named⟩ := exists_of_map_toOption computed
  obtain ⟨same, kept⟩ := validate_indifferent_to_other_sessions
    (show providerOfSession.loose = false from rfl) providerIssuer requestInSession
  obtain ⟨tolerant, names⟩ := kept result granted
  obtain ⟨found, grantedLater, left⟩ :=
    tolerant [.expireSession "session-1"] (by simp [Step.endsSession])
  have without : found = { result with sessionId := none } := by
    refine left.resolve_left ?_
    rintro rfl
    obtain ⟨other, grantedAgain, unnamed⟩ := exists_of_map_toOption computedLater
    cases grantedAgain.symm.trans grantedLater
    cases named.symm.trans unnamed
  exact ⟨rfl, result, names, named, by rw [same _ added, granted], without ▸ grantedLater⟩

end EndSession.Provider
