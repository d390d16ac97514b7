import EndSession.Proofs.Logout.Checks
import EndSession.Proofs.Logout.Stages

/-
This file proves of each part of the judgement on a logout request which stages it decides.
-/

namespace EndSession.Logout

open Session Client Claims

/-- A text is the only party, unless it is empty. -/
theorem isParty_iff_of_text {claims : Entries Value} {only : Text}
    (found : claims.get? "aud" = some (.text only)) (party : Text) :
    IsParty claims party ↔ party = only ∧ only ≠ "" := by
  constructor
  · intro isParty
    rcases isParty with ⟨same, filled⟩ | ⟨_, listed, _⟩
    · rw [found] at same
      cases same
      exact ⟨rfl, filled⟩
    · rw [found] at listed
      cases listed
  · intro same
    obtain ⟨rfl, filled⟩ := same
    exact .alone found filled

/-- The members of a list are the parties. -/
theorem isParty_iff_of_list {claims : Entries Value} {parties : List Text}
    (found : claims.get? "aud" = some (.list (parties.map .text))) (party : Text) :
    IsParty claims party ↔ party ∈ parties := by
  constructor
  · intro isParty
    rcases isParty with ⟨only, _⟩ | ⟨others, listed, member⟩
    · rw [found] at only
      cases only
    · rw [found] at listed
      have texts := Value.list.inj (Option.some.inj listed)
      rw [List.map_inj_right fun _ _ same => Value.text.inj same] at texts
      exact texts ▸ member
  · intro member
    exact .among parties found member

/-- Without an audience there is no party. -/
theorem not_isParty_of_none {claims : Entries Value} (absent : claims.get? "aud" = none)
    (party : Text) : ¬ IsParty claims party := by
  intro isParty
  rcases isParty with ⟨only, _⟩ | ⟨_, listed, _⟩
  · rw [absent] at only
    cases only
  · rw [absent] at listed
    cases listed

/-- The audience of claims that fit lists exactly the parties. -/
theorem audience_of_fits {issuer : Issuer} {limit : Int} {claims : Entries Value}
    (fits : FitsHint issuer limit claims) :
    ∃ parties : List Text, audience claims = .ok (parties.map .text) ∧
      ∀ party, party ∈ parties ↔ IsParty claims party := by
  unfold audience
  cases found : claims.get? "aud" with
  | none =>
      refine ⟨[], rfl, ?_⟩
      intro party
      simp [not_isParty_of_none found party]
  | some value =>
      have admissible := fits.2 _ ((claims.get?_eq_some_iff "aud" value).mp found)
      rcases admissible.parties rfl with ⟨only, rfl⟩ | ⟨parties, rfl⟩
      · by_cases filled : only = ""
        · refine ⟨[], by simp [filled, Value.isTrue], ?_⟩
          simp [isParty_iff_of_text found, filled]
        · refine ⟨[only], by simp [filled, Value.isTrue], ?_⟩
          simp [isParty_iff_of_text found, filled]
      · refine ⟨parties, ?_, fun party => (isParty_iff_of_list found party).symm⟩
        cases parties <;> simp [Value.isTrue, Value.items]

/-- An active token is found. -/
theorem decides_activeToken (inquiry : Inquiry) :
    Decides inquiry [.token] (fun held => inquiry.Finds held.1 held.2)
      (activeToken inquiry.tokenType inquiry.authorization) := by
  by_cases passes : Stage.token.Passes inquiry
  · obtain ⟨authorization, token, finds, active⟩ := passes
    rw [activeToken_eq_ok_iff.mpr ⟨finds.found, finds.held, active⟩]
    exact .pass finds ⟨authorization, token, finds, active⟩
  · have refused : activeToken inquiry.tokenType inquiry.authorization =
        refuseToken "id_token_hint" := by
      unfold activeToken
      cases found : inquiry.authorization with
      | none => rfl
      | some authorization =>
          cases held : authorization.token? inquiry.tokenType with
          | none => simp only [held]
          | some token =>
              simp only [held]
              cases active : token.invalidated with
              | true => rfl
              | false => exact absurd ⟨authorization, token, ⟨found, held⟩, active⟩ passes
    rw [refused]
    exact .refuse passes rfl []

variable {stores : Stores} {settings : Settings} {inquiry : Inquiry}
  {authorization : Authorization} {token : Token} {client : RegisteredClient}

/-- The claims of the token fit. -/
theorem decides_checkHint (answered : inquiry.IsAnswered stores settings)
    (finds : inquiry.Finds authorization token) (issued : IsIssued token.claims) :
    Decides inquiry [.claims] (fun _ => FitsHint inquiry.issuer inquiry.limit token.claims)
      (checkHint settings inquiry.issuer token.claims) := by
  have passes_iff : Stage.claims.Passes inquiry ↔
      FitsHint inquiry.issuer inquiry.limit token.claims :=
    finds.ofToken_iff fun _ token => FitsHint inquiry.issuer inquiry.limit token.claims
  obtain ⟨time, allowance, shown, allowed, limit⟩ := answered.limit
  rw [limit] at passes_iff ⊢
  rcases checkHint_verdict settings inquiry.issuer shown allowed issued with
    ⟨passes, fits⟩ | ⟨unfit, parameter, cause, refused, reports⟩
  · rw [passes]
    exact .pass fits (passes_iff.mpr fits)
  · rw [refused]
    refine .refuse (fun passes => unfit (passes_iff.mp passes)) ?_ []
    refine ⟨authorization, token, finds, parameter, ?_, rfl⟩
    rw [limit]
    exact reports

/-- The audience of the token is not empty. -/
theorem decides_hintAudience (finds : inquiry.Finds authorization token)
    (fits : FitsHint inquiry.issuer inquiry.limit token.claims) :
    Decides inquiry [.audience]
      (fun found => ∃ parties : List Text, found = parties.map .text ∧
        ∀ party, party ∈ parties ↔ IsParty token.claims party)
      (hintAudience token.claims) := by
  have passes_iff : Stage.audience.Passes inquiry ↔ ∃ party, IsParty token.claims party :=
    finds.ofToken_iff fun _ token => ∃ party, IsParty token.claims party
  obtain ⟨parties, listed, member_iff⟩ := audience_of_fits fits
  unfold hintAudience
  rw [listed]
  cases parties with
  | nil =>
      refine .refuse ?_ ?_ []
      · rw [passes_iff]
        intro someone
        obtain ⟨party, isParty⟩ := someone
        exact absurd ((member_iff party).mpr isParty) List.not_mem_nil
      · rfl
  | cons party others =>
      apply Decides.pass ⟨party :: others, rfl, member_iff⟩
      rw [passes_iff]
      exact ⟨party, (member_iff party).mp List.mem_cons_self⟩

/-- The client of the authorization is registered. -/
theorem decides_knownClient (finds : inquiry.Finds authorization token) :
    Decides inquiry [.registration]
      (fun client => inquiry.client authorization.registeredClientId = some client)
      (knownClient (inquiry.client authorization.registeredClientId)) := by
  have passes_iff : Stage.registration.Passes inquiry ↔
      ∃ client, inquiry.client authorization.registeredClientId = some client :=
    finds.ofToken_iff fun authorization _ =>
      ∃ client, inquiry.client authorization.registeredClientId = some client
  cases known : inquiry.client authorization.registeredClientId with
  | none =>
      refine .refuse ?_ ?_ []
      · rw [passes_iff, known]
        intro known
        obtain ⟨client, impossible⟩ := known
        cases impossible
      · rfl
  | some client =>
      refine .pass ?_ ?_
      · rfl
      · rw [passes_iff]
        exact ⟨client, known⟩

/-- The client is in the audience, and the request contradicts neither its name nor its URIs. -/
theorem decides_checkClient (finds : inquiry.Finds authorization token)
    (known : inquiry.client authorization.registeredClientId = some client) {parties : List Text}
    (member_iff : ∀ party, party ∈ parties ↔ IsParty token.claims party) :
    Decides inquiry [.membership, .clientId, .redirection] (fun _ => True)
      (checkClient inquiry.request client (parties.map .text)) := by
  have membership : Stage.membership.Passes inquiry ↔ client.clientId ∈ parties := by
    rw [member_iff]
    exact finds.ofClient_iff known fun token client => IsParty token.claims client.clientId
  have clientId : Stage.clientId.Passes inquiry ↔
      (given? inquiry.request.clientId).any (· != client.clientId) = false := by
    simp only [any_given?_eq_false_iff, bne_eq_false_iff_eq]
    exact finds.ofClient_iff known fun _ client =>
      ∀ named, inquiry.request.clientId = some named → named ≠ "" → named = client.clientId
  have redirection : Stage.redirection.Passes inquiry ↔
      (given? inquiry.request.postLogoutRedirectUri).any (!client.accepts ·) = false := by
    simp only [any_given?_eq_false_iff, Bool.not_eq_false', client.accepts_iff]
    exact finds.ofClient_iff known fun _ client =>
      ∀ uri, inquiry.request.postLogoutRedirectUri = some uri → uri ≠ "" →
        uri ∈ client.postLogoutRedirectUris
  unfold checkClient
  rw [any_same_text]
  by_cases isParty : client.clientId ∈ parties
  · simp only [isParty, decide_true, Bool.not_true]
    refine .behind (membership.mpr isParty) ?_
    cases other : (given? inquiry.request.clientId).any (· != client.clientId) with
    | true =>
        refine .refuse ?_ ?_ [.redirection]
        · rw [clientId, other]
          decide
        · rfl
    | false =>
        refine .behind (clientId.mpr other) ?_
        cases unknown : (given? inquiry.request.postLogoutRedirectUri).any (!client.accepts ·) with
        | true =>
            refine .refuse ?_ ?_ []
            · rw [redirection, unknown]
              decide
            · rfl
        | false => exact .pass trivial (redirection.mpr unknown)
  · simp only [isParty, decide_false, Bool.not_false]
    refine .refuse ?_ ?_ [.clientId, .redirection]
    · rw [membership]
      exact isParty
    · rfl

/-- The token was issued to the end user of the request. -/
theorem decides_checkSubject (finds : inquiry.Finds authorization token)
    (authenticated : inquiry.request.principal.isAuthenticated = true) :
    Decides inquiry [.subject] (fun _ => True)
      (checkSubject inquiry.request.principal token.claims) := by
  have passes_iff : Stage.subject.Passes inquiry ↔
      ∃ name, inquiry.request.principal.name? = some name ∧ name ≠ "" ∧
        token.claims.get? "sub" = some (.text name) := by
    have here := finds.ofToken_iff fun _ token =>
      ∃ name, inquiry.request.principal.name? = some name ∧ name ≠ "" ∧
        token.claims.get? "sub" = some (.text name)
    rw [← here]
    exact ⟨fun passes => passes authenticated, fun property _ => property⟩
  have checked := subject_same_iff.trans passes_iff.symm
  unfold checkSubject
  by_cases passes : Stage.subject.Passes inquiry
  · simp only [checked.mpr passes, if_true]
    exact .pass trivial passes
  · have fails := Bool.eq_false_iff.mpr (fun test => passes (checked.mp test))
    simp only [fails]
    refine .refuse passes ?_ []
    rfl

/-- All current sessions have the id that the request names. -/
theorem IsCurrent.sessionId_eq {request : Request} {sessions : List Record} {first second : Record}
    (one : IsCurrent request sessions first) (other : IsCurrent request sessions second) :
    first.sessionId = second.sessionId :=
  Option.some.inj (one.named.symm.trans other.named)

/-- The session that is looked up is a current one. -/
theorem isCurrent_of_currentSession {request : Request} {sessions : List Record} {session : Record}
    (found : currentSession request sessions = some session) : IsCurrent request sessions session := by
  unfold currentSession at found
  cases given : given? request.sessionId with
  | none => simp [given] at found
  | some sessionId =>
      simp only [given] at found
      obtain ⟨named, filled⟩ := (given?_eq_some_iff request.sessionId sessionId).mp given
      have same := List.find?_some found
      rw [beq_iff_eq] at same
      rw [← same] at named filled
      exact ⟨List.mem_of_find?_eq_some found, named, filled⟩

/-- If a session is current, one is looked up. -/
theorem currentSession_ne_none {request : Request} {sessions : List Record} {session : Record}
    (current : IsCurrent request sessions session) : currentSession request sessions ≠ none := by
  intro absent
  unfold currentSession at absent
  rw [(given?_eq_some_iff _ _).mpr ⟨current.named, current.filled⟩] at absent
  have none := List.find?_eq_none.mp absent session current.mem
  exact none (beq_self_eq_true _)

/-- The id of the session that is looked up is that of the current sessions. -/
theorem sessionId_currentSession (request : Request) (sessions : List Record) (id : Text) :
    (currentSession request sessions).map Record.sessionId = some id ↔
      ∃ session, IsCurrent request sessions session ∧ session.sessionId = id := by
  rw [Option.map_eq_some_iff]
  constructor
  · intro ended
    obtain ⟨session, found, same⟩ := ended
    exact ⟨session, isCurrent_of_currentSession found, same⟩
  · intro ended
    obtain ⟨session, current, same⟩ := ended
    cases found : currentSession request sessions with
    | none => exact absurd found (currentSession_ne_none current)
    | some other =>
        have equal := (isCurrent_of_currentSession found).sessionId_eq current
        exact ⟨other, rfl, equal.trans same⟩

/-- An authenticated request passes the last stage when the session hash of the token is there and
that of every current session. -/
theorem passes_session_iff (finds : inquiry.Finds authorization token)
    (authenticated : inquiry.request.principal.isAuthenticated = true) :
    Stage.session.Passes inquiry ↔
      (valueOf token.claims "sid").isTrue = true ∧
        ∀ session, IsCurrent inquiry.request inquiry.sessions session →
          IsHashOf (valueOf token.claims "sid") session.sessionId := by
  have present : (∃ sid, token.claims.get? "sid" = some sid ∧ sid.isTrue = true ∧
      ∀ session, IsCurrent inquiry.request inquiry.sessions session →
        IsHashOf sid session.sessionId) ↔
      (valueOf token.claims "sid").isTrue = true ∧
        ∀ session, IsCurrent inquiry.request inquiry.sessions session →
          IsHashOf (valueOf token.claims "sid") session.sessionId := by
    unfold valueOf
    cases token.claims.get? "sid" <;> simp [Value.isTrue]
  rw [← present]
  constructor
  · intro passes
    exact passes authenticated authorization token finds
  · intro tied _
    exact (finds.ofToken_iff _).mpr tied

/-- The token that is found is the one that carries a session hash in front of an id without one. -/
theorem hasUnhashedSession_iff (finds : inquiry.Finds authorization token) :
    inquiry.HasUnhashedSession ↔ (valueOf token.claims "sid").isTrue = true ∧
      ∃ session, IsCurrent inquiry.request inquiry.sessions session ∧
        ¬ session.sessionId.IsUnicode := by
  constructor
  · rintro ⟨_, _, session, others, filled, current, unhashed⟩
    obtain ⟨rfl, rfl⟩ := finds.unique others
    exact ⟨filled, session, current, unhashed⟩
  · rintro ⟨filled, session, current, unhashed⟩
    exact ⟨authorization, token, session, finds, filled, current, unhashed⟩

/-- With a current session the session hash of the token is to be that of this session. -/
theorem passes_session_of_current (finds : inquiry.Finds authorization token)
    (authenticated : inquiry.request.principal.isAuthenticated = true)
    (filled : (valueOf token.claims "sid").isTrue = true) {session : Record}
    (current : IsCurrent inquiry.request inquiry.sessions session) :
    Stage.session.Passes inquiry ↔ IsHashOf (valueOf token.claims "sid") session.sessionId := by
  rw [passes_session_iff finds authenticated]
  constructor
  · intro passes
    exact passes.2 session current
  · intro tied
    refine ⟨filled, ?_⟩
    intro other otherCurrent
    rw [otherCurrent.sessionId_eq current]
    exact tied

/-- A current session has an id that is not hashed when this one has. -/
theorem hasUnhashedSession_of_current (finds : inquiry.Finds authorization token)
    (filled : (valueOf token.claims "sid").isTrue = true) {session : Record}
    (current : IsCurrent inquiry.request inquiry.sessions session) :
    inquiry.HasUnhashedSession ↔ ¬ session.sessionId.IsUnicode := by
  rw [hasUnhashedSession_iff finds]
  constructor
  · intro unhashed
    obtain ⟨_, other, otherCurrent, surrogate⟩ := unhashed
    rw [← otherCurrent.sessionId_eq current]
    exact surrogate
  · intro surrogate
    exact ⟨filled, session, current, surrogate⟩

/-- The token carries a session hash, which is that of the current session. -/
theorem decides_tieSession (finds : inquiry.Finds authorization token)
    (authenticated : inquiry.request.principal.isAuthenticated = true) :
    Decides inquiry [.session]
      (fun session => session = currentSession inquiry.request inquiry.sessions)
      (tieSession token.claims (currentSession inquiry.request inquiry.sessions)) := by
  unfold tieSession
  dsimp only
  cases filled : (valueOf token.claims "sid").isTrue with
  | false =>
      refine .refuse ?_ ?_ []
      · simp [passes_session_iff finds authenticated, filled]
      · exact ⟨rfl, by simp [hasUnhashedSession_iff finds, filled]⟩
  | true =>
      simp only [Bool.not_true, Bool.false_eq_true, if_false]
      cases found : currentSession inquiry.request inquiry.sessions with
      | none =>
          refine .pass rfl ((passes_session_iff finds authenticated).mpr ⟨filled, ?_⟩)
          intro session current
          exact absurd found (currentSession_ne_none current)
      | some session =>
          have current := isCurrent_of_currentSession found
          have passes_iff := passes_session_of_current finds authenticated filled current
          have unhashed_iff := hasUnhashedSession_of_current finds filled current
          dsimp only
          -- An id of characters has one hash to compare, and any other id has none.
          by_cases unicode : session.sessionId.IsUnicode
          · obtain ⟨content, named⟩ := unicode
            rw [named, isHashOf_ofString, ← Value.same_text_right] at passes_iff
            rw [named, sessionHash_ofString]
            dsimp only
            split
            · rename_i same
              exact .pass rfl (passes_iff.mpr same)
            · rename_i differs
              refine .refuse (fun passes => differs (passes_iff.mp passes)) ?_ []
              refine ⟨rfl, ?_⟩
              rw [unhashed_iff]
              exact not_not_intro ⟨content, named⟩
          · rw [(sessionHash_eq_surrogate_iff _).mpr unicode]
            refine .fail ?_ (.unhashed (unhashed_iff.mpr unicode)) []
            intro passes
            exact unicode (passes_iff.mp passes).isUnicode

end EndSession.Logout
