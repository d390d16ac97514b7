import EndSession.Proofs.Provider.Grounds

/-
This file tells what becomes of an ID token that was invalidated. Whatever a provider does then, the
token is refused as a hint, even when another authorization has a token of the same value, until the
invalidation is taken back for its own authorization or this loses the token.
-/

namespace EndSession.Provider

open Logout Claims Consultation

/-- The authorization has an ID token of this value. -/
def HasIdToken (value : Text) (authorization : Authorization) : Prop :=
  ∃ token, authorization.token? idTokenType = some token ∧ token.value = value

/-- The ID token of the authorization was invalidated. -/
def IsInvalidated (authorization : Authorization) : Prop :=
  ∃ token, authorization.token? idTokenType = some token ∧ token.invalidated = true

/-- The provider finds authorizations by their ID tokens. The first one with an ID token of this value
has this id, and its ID token was invalidated. -/
structure State.HasRevoked (state : State) (value : Text) (id : String) : Prop where
  idTokens : state.tokenType = idTokenType
  answering : state.fault? .authorizations = none
  unforced : state.forced = none
  revoked : ∃ authorization, IsFirst (HasIdToken value) state.authorizations authorization ∧
    authorization.id = id ∧ IsInvalidated authorization

/-- The step does not take back an invalidation for an authorization of this id, nor does it remove the
authorization or a token of it. The provider still finds authorizations by their ID tokens. -/
def Step.spares (id : String) : Step → Bool
  | .removeAuthorization other => other != id
  | .invalidate place flag => flag || place.authorization != id
  | .removeToken place => place.authorization != id
  | .setTokenType tokenType => tokenType == idTokenType
  | .missStores stores => !stores.contains .authorizations
  | .breakStore store _ => store != .authorizations
  | .forceAuthorization forced => forced.isNone
  | _ => true

variable {state : State} {value : Text} {id : String}

/-- A change of one item leaves the first fitting one in its place, when it makes no item fit and this
one fits still. -/
theorem isFirst_changeFirst {α : Type} {fits : α → Prop} (picks : α → Bool) {change : α → α}
    {items : List α} {item : α} (first : IsFirst fits items item)
    (sheds : ∀ other, fits (change other) → fits other)
    (stays : picks item = true → fits (change item)) :
    ∃ left, IsFirst fits (changeFirst picks change items) left ∧
      (left = item ∨ picks item = true ∧ left = change item) := by
  obtain ⟨before, after, rfl, skipped, fitting⟩ := first
  -- Nothing in front of the item fits, whether it is changed or not.
  induction before with
  | nil =>
      simp only [List.nil_append, changeFirst]
      split
      · rename_i picked
        exact ⟨change item, .here (stays picked) after, Or.inr ⟨picked, rfl⟩⟩
      · exact ⟨item, .here fitting _, Or.inl rfl⟩
  | cons earlier rest inductionHypothesis =>
      rw [List.forall_mem_cons] at skipped
      simp only [List.cons_append, changeFirst]
      split
      · refine ⟨item, (IsFirst.here fitting after).behind (change earlier :: rest) ?_, Or.inl rfl⟩
        rw [List.forall_mem_cons]
        exact ⟨fun changed => skipped.1 (sheds earlier changed), skipped.2⟩
      · obtain ⟨left, first, same⟩ := inductionHypothesis skipped.2
        exact ⟨left, first.behind [earlier] (by simpa using skipped.1), same⟩

namespace State.HasRevoked

/-- Other tokens leave the ID token invalidated, if they bring in no ID token of this value, and keep
the invalidated one where they are those of its authorization. -/
theorem changeTokens (revoked : state.HasRevoked value id) {other : String}
    {change : Entries Token → Entries Token}
    (sheds : ∀ authorization : Authorization,
      HasIdToken value { authorization with tokens := change authorization.tokens } →
        HasIdToken value authorization)
    (stays : other = id → ∀ authorization : Authorization, HasIdToken value authorization →
      IsInvalidated authorization →
        HasIdToken value { authorization with tokens := change authorization.tokens } ∧
          IsInvalidated { authorization with tokens := change authorization.tokens }) :
    (state.changeTokens other change).HasRevoked value id := by
  obtain ⟨authorization, first, rfl, invalidated⟩ := revoked.revoked
  have kept (picked : (authorization.id == other) = true) :=
    stays (beq_iff_eq.mp picked).symm authorization first.holds invalidated
  obtain ⟨left, firstLeft, same⟩ :=
    isFirst_changeFirst (fun authorization => authorization.id == other) first sheds
      fun picked => (kept picked).1
  refine ⟨revoked.idTokens, revoked.answering, revoked.unforced, left, firstLeft, ?_⟩
  rcases same with rfl | ⟨picked, rfl⟩
  · exact ⟨rfl, invalidated⟩
  · exact ⟨rfl, (kept picked).2⟩

/-- A change of one token that keeps its value, and takes back no invalidation where the token may be
the invalidated one, leaves the ID token invalidated. -/
theorem changeToken (revoked : state.HasRevoked value id) {place : TokenPlace}
    {change : Token → Token} (valued : ∀ token, (change token).value = token.value)
    (stays : place.authorization = id → ∀ token, token.invalidated = true →
      (change token).invalidated = true) :
    (state.changeToken place change).HasRevoked value id := by
  have changed (tokens : Entries Token) := get?_changed tokens place.type idTokenType change
  have valuedHere (token : Token) :
      (if place.type = idTokenType then change token else token).value = token.value := by
    split
    · exact valued token
    · rfl
  apply revoked.changeTokens
  · intro authorization hasToken
    obtain ⟨found, held, same⟩ := hasToken
    obtain ⟨token, before, rfl⟩ := Option.map_eq_some_iff.mp ((changed _).symm.trans held)
    exact ⟨token, before, (valuedHere token).symm.trans same⟩
  · intro here authorization hasToken invalidated
    obtain ⟨token, held, same⟩ := hasToken
    obtain ⟨other, heldAgain, invalidated⟩ := invalidated
    cases held.symm.trans heldAgain
    have after := (changed authorization.tokens).trans (Option.map_eq_some_iff.mpr ⟨token, held, rfl⟩)
    refine ⟨⟨_, after, (valuedHere token).trans same⟩, _, after, ?_⟩
    split
    · exact stays here token invalidated
    · exact invalidated

/-- A step that spares the authorization leaves its ID token invalidated. -/
theorem after (revoked : state.HasRevoked value id) {step : Step} (spared : step.spares id = true) :
    (state.after step).HasRevoked value id := by
  have ⟨idTokens, answering, unforced, held⟩ := revoked
  cases step with
  | addClient form =>
      simp only [State.after]
      split
      · exact revoked
      · exact ⟨idTokens, answering, unforced, held⟩
  | addAuthorization form =>
      simp only [State.after]
      split
      · exact revoked
      · rename_i added issued
        obtain ⟨authorization, first, known⟩ := held
        exact ⟨idTokens, answering, unforced, authorization, first.ahead [added], known⟩
  | removeAuthorization other =>
      obtain ⟨authorization, first, rfl, invalidated⟩ := held
      have kept : (authorization.id != other) = true := bne_comm.trans spared
      exact ⟨idTokens, answering, unforced, authorization, first.filter kept, rfl, invalidated⟩
  | invalidate place flag =>
      refine revoked.changeToken (fun token => rfl) ?_
      intro here token _
      simpa [Step.spares, here] using spared
  | setClaim place claim value =>
      exact revoked.changeToken (fun token => rfl) fun _ token invalidated => invalidated
  | deleteClaim place claim =>
      exact revoked.changeToken (fun token => rfl) fun _ token invalidated => invalidated
  | removeToken place =>
      change (state.changeTokens place.authorization fun tokens =>
        tokens.erase place.type).HasRevoked value id
      apply revoked.changeTokens
      · intro authorization hasToken
        obtain ⟨token, held, same⟩ := hasToken
        refine ⟨token, ?_, same⟩
        have left := (Entries.get?_erase authorization.tokens place.type idTokenType).symm.trans held
        split at left
        · cases left
        · exact left
      · intro here
        simp [Step.spares, here] at spared
  | setTokenType tokenType => exact ⟨beq_iff_eq.mp spared, answering, unforced, held⟩
  | missStores stores =>
      have broken := (fault?_eq_none_iff.mp answering).1
      have present : stores.contains .authorizations = false := by simpa [Step.spares] using spared
      exact ⟨idTokens, fault?_eq_none_iff.mpr ⟨broken, present⟩, unforced, held⟩
  | breakStore store message =>
      obtain ⟨broken, present⟩ := fault?_eq_none_iff.mp answering
      have other : (Store.authorizations == store) = false :=
        beq_false_of_ne (bne_iff_ne.mp spared).symm
      refine ⟨idTokens, fault?_eq_none_iff.mpr ⟨?_, present⟩, unforced, held⟩
      exact (List.lookup_cons ..).trans (by rw [other]; exact broken)
  | repairStores =>
      have present := (fault?_eq_none_iff.mp answering).2
      exact ⟨idTokens, fault?_eq_none_iff.mpr ⟨rfl, present⟩, unforced, held⟩
  | forceAuthorization other =>
      exact ⟨idTokens, answering, Option.isNone_iff_eq_none.mp spared, held⟩
  | _ => exact ⟨idTokens, answering, unforced, held⟩

/-- So do steps one after the other. -/
theorem afterAll (revoked : state.HasRevoked value id) {steps : List Step}
    (spared : ∀ step ∈ steps, step.spares id = true) :
    (state.afterAll steps).HasRevoked value id := by
  induction steps generalizing state with
  | nil => exact revoked
  | cons step rest inductionHypothesis =>
      rw [List.forall_mem_cons] at spared
      exact inductionHypothesis (revoked.after spared.1) spared.2

/-- The provider finds the authorization whose ID token was invalidated. -/
theorem exists_found (revoked : state.HasRevoked value id) :
    ∃ authorization, state.findAuthorization (.text value) state.tokenType = some authorization ∧
      IsInvalidated authorization := by
  obtain ⟨authorization, first, _, invalidated⟩ := revoked.revoked
  refine ⟨authorization, ?_, invalidated⟩
  have same : (fun authorization : Authorization => ∃ token,
      authorization.token? idTokenType = some token ∧ Value.text value = .text token.value) =
        HasIdToken value := by
    funext authorization
    simp [HasIdToken, eq_comm]
  rw [revoked.idTokens, State.findAuthorization_eq_some_iff revoked.unforced, same]
  exact first

end State.HasRevoked

/-- Once an ID token was invalidated, and until the invalidation is taken back for its authorization or
this loses the token, every request with it as hint is refused. The provider reads no other store than
that of the authorizations for it. -/
theorem validate_refuses_revoked (revoked : state.HasRevoked value id) {steps : List Step}
    (spared : ∀ step ∈ steps, step.spares id = true) (issuer : Issuer) (request : Request)
    (hinted : request.idTokenHint = .text value) :
    validate (state.afterAll steps).stores (state.afterAll steps).settings issuer request =
      ⟨[.authorization (.text value) idTokenType],
        .error (.refused ⟨.invalidToken, "id_token_hint"⟩ none)⟩ := by
  have later := revoked.afterAll spared
  obtain ⟨authorization, found, token, held, invalidated⟩ := later.exists_found
  rw [later.idTokens] at found
  have answer : (state.afterAll steps).stores.authorization (.text value) idTokenType =
      .ok (some authorization) := State.answer_eq_ok_iff.mpr ⟨later.answering, found⟩
  have inactive : activeToken idTokenType (some authorization) = refuseToken "id_token_hint" := by
    simp [activeToken, held, invalidated]
  have tokenType : (state.afterAll steps).settings.tokenType = idTokenType := later.idTokens
  unfold validate
  rw [hinted, tokenType, answer]
  simp only [ask, Consultation.ofExcept, bind_ok, inactive, refuseToken, bind_error, List.append_nil]

/-- The provider of a session, after its ID token was invalidated. -/
def providerOfRevokedToken : State :=
  providerOfSession.after (.invalidate ⟨"authorization-1", idTokenType⟩ true)

/-- An active ID token of the same value comes in with another authorization. It is invalidated, and
the invalidation is taken back for this authorization only. -/
def stepsOfSameValue : List Step :=
  [.addAuthorization
      { id := "authorization-2"
        registeredClientId := "registration-1"
        principalName := "principal"
        tokens := [(idTokenType,
          { value := "session-id-token"
            claims := Entries.ofList [("iss", .text "https://provider.test"),
              ("aud", .text "client-1")]
            invalidated := false })] },
    .invalidate ⟨"authorization-2", idTokenType⟩ true,
    .setClock (.number (.whole 1700000600)),
    .invalidate ⟨"authorization-2", idTokenType⟩ false]

/-- The end user of the session is refused, although another authorization has an active ID token that
is the hint of the request. -/
theorem session_refuses_revoked : providerOfRevokedToken.HasRevoked "session-id-token"
      "authorization-1" ∧
    (∀ step ∈ stepsOfSameValue, step.spares "authorization-1" = true) ∧
    requestInSession.idTokenHint = .text "session-id-token" ∧
    (∃ authorization ∈ (providerOfRevokedToken.afterAll stepsOfSameValue).authorizations,
      HasIdToken "session-id-token" authorization ∧ ¬ IsInvalidated authorization) ∧
    validate (providerOfRevokedToken.afterAll stepsOfSameValue).stores
        (providerOfRevokedToken.afterAll stepsOfSameValue).settings providerIssuer requestInSession =
      ⟨[.authorization (.text "session-id-token") idTokenType],
        .error (.refused ⟨.invalidToken, "id_token_hint"⟩ none)⟩ := by
  have revoked : providerOfRevokedToken.HasRevoked "session-id-token" "authorization-1" :=
    ⟨rfl, rfl, rfl, _, .here ⟨_, rfl, rfl⟩ _, rfl, _, rfl, rfl⟩
  have spared : ∀ step ∈ stepsOfSameValue, step.spares "authorization-1" = true := by
    simp [stepsOfSameValue, Step.spares]
  have active : ∃ authorization ∈ (providerOfRevokedToken.afterAll stepsOfSameValue).authorizations,
      HasIdToken "session-id-token" authorization ∧ ¬ IsInvalidated authorization := by
    refine ⟨_, List.mem_cons_of_mem _ List.mem_cons_self, ⟨_, rfl, rfl⟩, ?_⟩
    rintro ⟨token, held, invalidated⟩
    cases held
    cases invalidated
  exact ⟨revoked, spared, rfl, active,
    validate_refuses_revoked revoked spared providerIssuer requestInSession rfl⟩

end EndSession.Provider
