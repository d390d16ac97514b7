import EndSession.Proofs.Logout.Decisions

/-
This file puts the parts of the judgement on a logout request together: the judgement decides all
stages in their order, and what it grants is the result for what was found.
-/

namespace EndSession.Logout

open Session Client Claims

/-- The result that a request is granted: what was found for it and what it asked for. -/
structure Inquiry.IsResult (inquiry : Inquiry) (result : Result) : Prop where
  found : ∃ authorization, inquiry.Finds authorization result.idToken ∧
    inquiry.client authorization.registeredClientId = some result.client
  principal : result.principal = inquiry.request.principal
  sessionId : ∀ id, result.sessionId = some id ↔ inquiry.request.principal.isAuthenticated = true ∧
    ∃ session, IsCurrent inquiry.request inquiry.sessions session ∧ session.sessionId = id
  clientId : result.clientId = result.client.clientId
  postLogoutRedirectUri : result.postLogoutRedirectUri = inquiry.request.postLogoutRedirectUri
  state : result.state = inquiry.request.state

/-- There is one result at most. -/
theorem Inquiry.IsResult.unique {inquiry : Inquiry} {first second : Result}
    (one : inquiry.IsResult first) (other : inquiry.IsResult second) : first = second := by
  obtain ⟨authorization, finds, known⟩ := one.found
  obtain ⟨authorization', finds', known'⟩ := other.found
  obtain ⟨rfl, token⟩ := finds.unique finds'
  have client := Option.some.inj (known'.symm.trans known)
  have session : first.sessionId = second.sessionId := by
    apply Option.ext
    intro id
    rw [one.sessionId, other.sessionId]
  have clientId := one.clientId
  have clientId' := other.clientId
  have principal := one.principal.trans other.principal.symm
  have uri := one.postLogoutRedirectUri.trans other.postLogoutRedirectUri.symm
  have state := one.state.trans other.state.symm
  cases first
  cases second
  simp_all

variable {stores : Stores} {settings : Settings} {inquiry : Inquiry}

/-- An authenticated end user is the subject and in the session of the token. Of any other one
nothing is asked. -/
theorem decides_sessionOf {authorization : Authorization} {token : Token}
    (answered : inquiry.IsAnswered stores settings) (finds : inquiry.Finds authorization token) :
    Decides inquiry [.subject, .session]
      (fun session => ∀ id, session.map Record.sessionId = some id ↔
        inquiry.request.principal.isAuthenticated = true ∧
          ∃ session, IsCurrent inquiry.request inquiry.sessions session ∧ session.sessionId = id)
      (sessionOf stores inquiry.request token.claims).outcome := by
  unfold sessionOf
  cases authenticated : inquiry.request.principal.isAuthenticated with
  | false =>
      have skips (stage : Stage) (skipped : stage = .subject ∨ stage = .session) :
          stage.Passes inquiry := by
        rcases skipped with rfl | rfl <;> intro impossible <;> rw [authenticated] at impossible <;>
          cases impossible
      apply Decides.behind (skips .subject (Or.inl rfl))
      refine .pass ?_ (skips .session (Or.inr rfl))
      simp
  | true =>
      rw [if_pos rfl]
      apply Decides.check (decides_checkSubject finds authenticated)
      intro _ _
      unfold validateSession
      apply Decides.read answered.sessions
      rcases decides_tieSession finds authenticated with ⟨session, tied, rfl, all⟩ | refused
      · refine Or.inl ⟨_, tied, ?_, all⟩
        intro id
        rw [sessionId_currentSession]
        simp
      · exact Or.inr refused

/-- The judgement grants a request that passes all stages its result, and otherwise answers what the
first stage reports that is not passed. -/
theorem decides_validate (answered : inquiry.IsAnswered stores settings)
    (issued : inquiry.OfToken fun _ token => IsIssued token.claims) :
    Decides inquiry Stage.order inquiry.IsResult
      (validate stores settings inquiry.issuer inquiry.request).outcome := by
  unfold validate
  apply Decides.read answered.authorization
  rw [answered.tokenType]
  apply Decides.check (decides_activeToken inquiry)
  rintro ⟨authorization, token⟩ finds
  apply Decides.check (decides_checkHint answered finds (issued authorization token finds))
  intro _ fits
  apply Decides.check (decides_hintAudience finds fits)
  rintro _ ⟨parties, rfl, member_iff⟩
  apply Decides.read (answered.client _)
  apply Decides.check (decides_knownClient finds)
  intro client known
  change Decides inquiry ([.membership, .clientId, .redirection] ++ [.subject, .session]) _ _
  apply Decides.bind (decides_checkClient finds known member_iff)
  intro _ _ _
  change Decides inquiry ([.subject, .session] ++ []) _ _
  apply Decides.bind (decides_sessionOf answered finds)
  intro session ended _
  refine Or.inl ⟨_, rfl, ?_, by simp⟩
  exact ⟨⟨authorization, finds, known⟩, rfl, ended, rfl, rfl, rfl⟩

end EndSession.Logout
