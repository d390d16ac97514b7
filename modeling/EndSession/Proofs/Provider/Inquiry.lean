import EndSession.Proofs.Logout.Judgement
import EndSession.Provider.Step

/-
This file tells what a provider with all its stores judges a request on. As long as no claim is set
by hand, the claims of all tokens that a provider holds are issued ones, after any steps.
-/

namespace EndSession.Provider

open Session Client Logout Claims Number

/-- What the provider judges a request on. -/
def State.inquiry (state : State) (issuer : Issuer) (request : Request) (limit : Int) : Inquiry where
  issuer := issuer
  request := request
  tokenType := state.tokenType
  limit := limit
  authorization := state.findAuthorization request.idTokenHint state.tokenType
  client := state.clients.get?
  sessions := state.sessionsOf request.principal false

/-- A store can answer when it is neither broken nor missing. -/
theorem State.fault?_eq_none_iff {state : State} {store : Store} :
    state.fault? store = none ↔
      state.broken.lookup store = none ∧ state.missing.contains store = false := by
  unfold State.fault?
  cases state.broken.lookup store <;> simp

/-- A store that can answer does so with what it holds. -/
theorem State.answer_eq_ok_iff {state : State} {α : Type} {store : Store} {result found : α} :
    state.answer store result = .ok found ↔ state.fault? store = none ∧ result = found := by
  unfold State.answer
  cases state.fault? store <;> simp

/-- The first authorization is found that has the hint as its token of this type, unless another one
is forced. -/
theorem State.findAuthorization_eq_some_iff {state : State} (unforced : state.forced = none)
    {hint : Value} {tokenType : String} {authorization : Authorization} :
    state.findAuthorization hint tokenType = some authorization ↔
      IsFirst (fun authorization => ∃ token, authorization.token? tokenType = some token ∧
        hint = .text token.value) state.authorizations authorization := by
  have holds (authorization : Authorization) : authorization.holds tokenType hint = true ↔
      ∃ token, authorization.token? tokenType = some token ∧ hint = .text token.value := by
    unfold Authorization.holds
    cases authorization.token? tokenType <;> simp [Value.same_text_left]
  unfold State.findAuthorization
  rw [unforced]
  simp only [find?_eq_some_iff_isFirst, holds]

/-- A provider of which no store is missing or broken answers all questions. -/
theorem State.isAnswered_inquiry {state : State} (up : ∀ store, state.fault? store = none)
    {time allowance : Int} (shown : Timing.wholeSeconds state.clock = .ok (.whole time))
    (allowed : state.leeway.number? = some (.whole allowance)) (issuer : Issuer)
    (request : Request) :
    (state.inquiry issuer request (time + allowance)).IsAnswered state.stores state.settings where
  tokenType := rfl
  limit := ⟨time, allowance, shown, allowed, rfl⟩
  authorization := by
    simp only [stores, answer, up]
    rfl
  client id := by
    simp only [stores, answer, up]
    rfl
  sessions := by
    simp only [stores, answer, up]
    rfl

/-- All tokens have issued claims. -/
def HoldIssued (tokens : Entries Token) : Prop :=
  ∀ type token, tokens.get? type = some token → IsIssued token.claims

/-- All tokens of the provider have issued claims. -/
def State.HoldsIssued (state : State) : Prop :=
  ∀ authorization ∈ state.authorizations, HoldIssued authorization.tokens

/-- The step sets a claim by hand, which may be no issued one. -/
def Step.setsClaim : Step → Bool
  | .setClaim _ _ _ => true
  | _ => false

/-- Whatever is asked for, the provider finds one of its authorizations. -/
theorem State.mem_of_findAuthorization {state : State} {hint : Value} {tokenType : String}
    {authorization : Authorization}
    (found : state.findAuthorization hint tokenType = some authorization) :
    authorization ∈ state.authorizations := by
  unfold findAuthorization State.authorization? at found
  split at found
  · exact List.mem_of_find?_eq_some found
  · exact List.mem_of_find?_eq_some found

theorem State.HoldsIssued.ofToken {state : State} (holds : state.HoldsIssued) (issuer : Issuer)
    (request : Request) (limit : Int) :
    (state.inquiry issuer request limit).OfToken fun _ token => IsIssued token.claims := by
  intro authorization token finds
  exact holds authorization (State.mem_of_findAuthorization finds.found) _ token finds.held

/-- Tokens that were issued from forms have issued claims. -/
theorem isIssued_of_issueTokens {forms : List (String × TokenForm)} {tokens : List (String × Token)}
    (done : issueTokens forms = .ok tokens) : ∀ pair ∈ tokens, IsIssued pair.2.claims := by
  induction forms generalizing tokens with
  | nil =>
      cases done
      simp
  | cons form rest inductionHypothesis =>
      obtain ⟨type, form⟩ := form
      simp only [issueTokens] at done
      split at done
      · cases done
      · rename_i token issued
        split at done
        · cases done
        · rename_i others otherwise
          cases done
          intro pair member
          rcases List.mem_cons.mp member with rfl | inside
          · unfold Token.issue at issued
            split at issued
            · cases issued
            · rename_i stored claims
              cases issued
              exact ⟨_, claims⟩
          · exact inductionHypothesis otherwise pair inside

/-- A new authorization holds issued tokens. -/
theorem holdIssued_of_issue {form : AuthorizationForm} {authorization : Authorization}
    (done : form.issue = .ok authorization) : HoldIssued authorization.tokens := by
  unfold AuthorizationForm.issue at done
  split at done
  · cases done
  · rename_i tokens issued
    cases done
    intro type token found
    exact isIssued_of_issueTokens issued _ (Entries.mem_of_get?_ofList found)

/-- An element of a list of which the first fitting one was changed. -/
theorem mem_changeFirst {α : Type} {fits : α → Bool} {change : α → α} {items : List α} {item : α}
    (member : item ∈ changeFirst fits change items) :
    item ∈ items ∨ ∃ old ∈ items, item = change old := by
  induction items with
  | nil => cases member
  | cons first rest inductionHypothesis =>
      simp only [changeFirst] at member
      split at member
      · rcases List.mem_cons.mp member with here | inside
        · exact Or.inr ⟨first, List.mem_cons_self, here⟩
        · exact Or.inl (List.mem_cons_of_mem first inside)
      · rcases List.mem_cons.mp member with here | inside
        · exact Or.inl (here ▸ List.mem_cons_self)
        · rcases inductionHypothesis inside with old | ⟨old, there, changed⟩
          · exact Or.inl (List.mem_cons_of_mem first old)
          · exact Or.inr ⟨old, List.mem_cons_of_mem first there, changed⟩

/-- A change of the tokens of one authorization that keeps issued tokens issued keeps all. -/
theorem State.HoldsIssued.changeTokens {state : State} (holds : state.HoldsIssued) (id : String)
    {change : Entries Token → Entries Token}
    (keeps : ∀ tokens, HoldIssued tokens → HoldIssued (change tokens)) :
    (state.changeTokens id change).HoldsIssued := by
  intro authorization member
  rcases mem_changeFirst member with old | ⟨old, inside, rfl⟩
  · exact holds authorization old
  · exact keeps old.tokens (holds old inside)

/-- A change of the token of one type changes no token of another type. -/
theorem get?_changed (tokens : Entries Token) (type other : String) (change : Token → Token) :
    (match tokens.get? type with
      | none => tokens
      | some token => tokens.put type (change token)).get? other =
      (tokens.get? other).map fun token => if type = other then change token else token := by
  by_cases same : type = other
  · subst same
    cases found : tokens.get? type <;> simp [found, Entries.get?_put]
  · cases tokens.get? type <;> simp [same, Entries.get?_put]

/-- A change of one token that keeps issued claims issued keeps all. -/
theorem State.HoldsIssued.changeToken {state : State} (holds : state.HoldsIssued) (place : TokenPlace)
    {change : Token → Token}
    (keeps : ∀ token, IsIssued token.claims → IsIssued (change token).claims) :
    (state.changeToken place change).HoldsIssued := by
  apply holds.changeTokens
  intro tokens issued type token found
  have changed := get?_changed tokens place.type type change
  obtain ⟨old, held, rfl⟩ := Option.map_eq_some_iff.mp (changed.symm.trans found)
  split
  · exact keeps old (issued type old held)
  · exact issued type old held

/-- A step that sets no claim by hand keeps the claims of all tokens issued ones. -/
theorem State.HoldsIssued.after {state : State} (holds : state.HoldsIssued) {step : Step}
    (untouched : step.setsClaim = false) : (state.after step).HoldsIssued := by
  cases step with
  | addClient form =>
      simp only [State.after]
      split <;> exact holds
  | addAuthorization form =>
      simp only [State.after]
      split
      · exact holds
      · rename_i authorization issued
        intro other member
        rcases List.mem_append.mp member with old | new
        · exact holds other old
        · rw [List.mem_singleton.mp new]
          exact holdIssued_of_issue issued
  | removeAuthorization id =>
      intro authorization member
      exact holds authorization (List.mem_of_mem_filter member)
  | invalidate place flag => exact holds.changeToken place fun token issued => issued
  | setClaim place claim value => cases untouched
  | deleteClaim place claim => exact holds.changeToken place fun token issued => issued.erase claim
  | removeToken place =>
      apply holds.changeTokens
      intro tokens issued type token found
      rw [Entries.get?_erase] at found
      split at found
      · cases found
      · exact issued type token found
  | _ => exact holds

/-- Steps that set no claim by hand keep the claims of all tokens issued ones. -/
theorem State.HoldsIssued.afterAll {state : State} (holds : state.HoldsIssued) {steps : List Step}
    (untouched : ∀ step ∈ steps, step.setsClaim = false) : (state.afterAll steps).HoldsIssued := by
  induction steps generalizing state with
  | nil => exact holds
  | cons step rest inductionHypothesis =>
      rw [List.forall_mem_cons] at untouched
      exact inductionHypothesis (holds.after untouched.1) untouched.2

/-- A new provider holds no token. -/
theorem State.holdsIssued_initial (issuer : Text) (clock leeway : Value)
    (policy : Uri.TransportPolicy) : (State.initial issuer clock leeway policy).HoldsIssued := by
  intro authorization member
  cases member

end EndSession.Provider
