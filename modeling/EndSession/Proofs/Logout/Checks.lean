import EndSession.Logout.Decision

/-
This file tells of each check of the judgement on a logout request what passes it, in terms of the
values that it looks at.
-/

namespace EndSession.Logout

open Session Client Claims

theorem given?_eq_some_iff (content : Option Text) (text : Text) :
    given? content = some text ↔ content = some text ∧ text ≠ "" := by
  simp [given?, Option.filter_eq_some_iff]

/-- No text that is given is objected to. -/
theorem any_given?_eq_false_iff (content : Option Text) (objection : Text → Bool) :
    (given? content).any objection = false ↔
      ∀ text, content = some text → text ≠ "" → objection text = false := by
  rw [Option.any_eq_false]
  constructor
  · intro none text here filled
    simpa using none text ((given?_eq_some_iff content text).mpr ⟨here, filled⟩)
  · intro none text given
    obtain ⟨here, filled⟩ := (given?_eq_some_iff content text).mp given
    simpa using none text here filled

/-- A text is sought among values. -/
theorem any_same_iff_mem (content : Text) (values : List Value) :
    values.any (Value.same (.text content)) = true ↔ Value.text content ∈ values := by
  simp [List.any_eq_true, Value.same_text_left]

/-- A text is sought among texts. -/
theorem any_same_text (content : Text) (texts : List Text) :
    (texts.map Value.text).any (Value.same (.text content)) = decide (content ∈ texts) := by
  rw [Bool.eq_iff_iff, any_same_iff_mem, decide_eq_true_iff]
  simp

/-- A token is active when its authorization was found and it was not invalidated. -/
theorem activeToken_eq_ok_iff {tokenType : String} {found : Option Authorization}
    {authorization : Authorization} {token : Token} :
    activeToken tokenType found = .ok (authorization, token) ↔
      found = some authorization ∧ authorization.token? tokenType = some token ∧
        token.invalidated = false := by
  unfold activeToken
  constructor
  · intro active
    split at active
    · cases active
    · split at active
      · cases active
      · rename_i held
        split at active
        · cases active
        · rename_i live
          cases active
          exact ⟨rfl, held, Bool.eq_false_iff.mpr live⟩
  · rintro ⟨rfl, held, live⟩
    simp [held, live]

/-- The audience of a hint passes when it can be read and is not empty. -/
theorem hintAudience_eq_ok_iff {claims : Entries Value} {parties : List Value} :
    hintAudience claims = .ok parties ↔ audience claims = .ok parties ∧ parties ≠ [] := by
  unfold hintAudience
  cases audience claims with
  | error misuse => simp
  | ok found =>
      cases found with
      | nil =>
          constructor
          · intro passes
            cases passes
          · rintro ⟨read, filled⟩
            exact absurd (Except.ok.inj read).symm filled
      | cons first rest =>
          constructor
          · intro passes
            cases passes
            exact ⟨rfl, List.cons_ne_nil first rest⟩
          · rintro ⟨read, _⟩
            cases read
            rfl

/-- A client passes when it was found. -/
theorem knownClient_eq_ok_iff {found : Option RegisteredClient} {client : RegisteredClient} :
    knownClient found = .ok client ↔ found = some client := by
  cases found <;> simp [knownClient, refuseToken]

/-- A client passes when it is in the audience, and the request contradicts neither its name nor its
post-logout redirect URIs. -/
theorem checkClient_eq_ok_iff {request : Request} {client : RegisteredClient} {parties : List Value} :
    checkClient request client parties = .ok () ↔
      Value.text client.clientId ∈ parties ∧
        (∀ named, request.clientId = some named → named ≠ "" → named = client.clientId) ∧
        ∀ uri, request.postLogoutRedirectUri = some uri → uri ≠ "" →
          uri ∈ client.postLogoutRedirectUris := by
  have named := any_given?_eq_false_iff request.clientId (· != client.clientId)
  have registered := any_given?_eq_false_iff request.postLogoutRedirectUri (!client.accepts ·)
  simp only [bne_eq_false_iff_eq] at named
  simp only [Bool.not_eq_false', client.accepts_iff] at registered
  rw [← any_same_iff_mem, ← named, ← registered]
  unfold checkClient
  cases parties.any (Value.same (.text client.clientId)) with
  | false => simp [refuseToken]
  | true =>
      cases (given? request.clientId).any (· != client.clientId) with
      | true => simp [refuseRequest]
      | false =>
          cases (given? request.postLogoutRedirectUri).any (!client.accepts ·) with
          | true => simp [refuseRequest]
          | false => simp

/-- The test of the subject looks for the name of the end user, which may not be empty. -/
theorem subject_same_iff {principal : Principal} {claims : Entries Value} :
    ((valueOf claims "sub").isTrue &&
      principal.name?.any fun name => (valueOf claims "sub").same (.text name)) = true ↔
      ∃ name, principal.name? = some name ∧ name ≠ "" ∧ claims.get? "sub" = some (.text name) := by
  rw [Bool.and_eq_true, Option.any_eq_true]
  constructor
  · intro passes
    obtain ⟨filled, name, named, same⟩ := passes
    have subject := (Value.same_text_right _ name).mp same
    rw [subject] at filled
    refine ⟨name, named, ?_, (valueOf_eq_text_iff _ _ _).mp subject⟩
    simpa [Value.isTrue] using filled
  · intro subject
    obtain ⟨name, named, filled, found⟩ := subject
    have subject := (valueOf_eq_text_iff claims "sub" name).mpr found
    rw [subject]
    exact ⟨by simpa [Value.isTrue] using filled, name, named, (Value.same_text_right _ _).mpr rfl⟩

/-- A subject passes when it is the name of the end user, which is not empty. -/
theorem checkSubject_eq_ok_iff {principal : Principal} {claims : Entries Value} :
    checkSubject principal claims = .ok () ↔
      ∃ name, principal.name? = some name ∧ name ≠ "" ∧ claims.get? "sub" = some (.text name) := by
  rw [← subject_same_iff]
  unfold checkSubject refuseToken
  dsimp only
  split <;> simp_all

/-- A token is tied to the current session when it carries a session hash, which is that of the
session if there is one. -/
theorem tieSession_eq_ok_iff {claims : Entries Value} {current session : Option Record} :
    tieSession claims current = .ok session ↔
      session = current ∧ (valueOf claims "sid").isTrue = true ∧
        ∀ record ∈ current, IsHashOf (valueOf claims "sid") record.sessionId := by
  unfold tieSession refuseToken
  dsimp only
  cases filled : (valueOf claims "sid").isTrue with
  | false => simp
  | true =>
      cases current with
      | none => simp [eq_comm]
      | some record =>
          simp only [Option.mem_def, Option.some.injEq, forall_eq', IsHashOf,
            ← Value.same_text_right]
          cases hashed : sessionHash record.sessionId with
          | error misuse => simp
          | ok hash =>
              simp only [Except.ok.injEq, exists_eq_left', true_and]
              cases (valueOf claims "sid").same (.text hash) with
              | false => simp
              | true => simp [eq_comm]

end EndSession.Logout
