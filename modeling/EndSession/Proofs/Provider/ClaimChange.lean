import EndSession.Proofs.Logout.Correspondence
import EndSession.Proofs.Provider.Inquiry

/-
This file changes the claims of one token that a provider holds. Whatever is asked for, the provider
then finds what it found before, up to the claims of this token.
-/

namespace EndSession.Provider

open Session Client Logout Claims

/-- The provider with the claims of one token changed, if it is there. This is what the steps do that
set or delete a claim by hand. -/
def State.withClaims (state : State) (place : TokenPlace)
    (change : Entries Value → Entries Value) : State :=
  state.changeToken place fun token => { token with claims := change token.claims }

/-- The authorizations have the same id and client, and alike tokens of every type. -/
structure AlikeInAll (related : Entries Value → Entries Value → Prop)
    (authorization other : Authorization) : Prop where
  id : other.id = authorization.id
  registeredClientId : other.registeredClientId = authorization.registeredClientId
  token : ∀ type, Option.Rel (AlikeTokens related) (authorization.token? type) (other.token? type)

variable {related : Entries Value → Entries Value → Prop}

/-- Alike authorizations hold the same values. -/
theorem AlikeInAll.holds_eq {authorization other : Authorization}
    (alike : AlikeInAll related authorization other) (type : String) (value : Value) :
    other.holds type value = authorization.holds type value := by
  have tokens := alike.token type
  unfold Authorization.holds
  generalize authorization.token? type = held at tokens
  generalize other.token? type = heldOther at tokens
  cases tokens with
  | none => rfl
  | some alikeTokens =>
      dsimp only
      rw [alikeTokens.value]

/-- A list with its first fitting element changed is related to the list item by item. -/
theorem forall₂_changeFirst {α : Type} {relation : α → α → Prop} (fits : α → Bool) {change : α → α}
    {items : List α}
    (each : ∀ item ∈ items, relation item item ∧ relation item (change item)) :
    List.Forall₂ relation items (changeFirst fits change items) := by
  induction items with
  | nil => exact .nil
  | cons first rest inductionHypothesis =>
      rw [List.forall_mem_cons] at each
      simp only [changeFirst]
      split
      · exact .cons each.1.2 (List.forall₂_same.mpr fun item member => (each.2 item member).1)
      · exact .cons each.1.1 (inductionHypothesis each.2)

/-- Searches that fit related items together find related items. -/
theorem rel_find? {α : Type} {relation : α → α → Prop} {fits : α → Bool} {items others : List α}
    (together : ∀ item other, relation item other → fits other = fits item)
    (each : List.Forall₂ relation items others) :
    Option.Rel relation (items.find? fits) (others.find? fits) := by
  induction each with
  | nil => exact .none
  | @cons item other items others here _ inductionHypothesis =>
      simp only [List.find?_cons, together item other here]
      cases fits item with
      | true => exact .some here
      | false => exact inductionHypothesis

/-- A value that may be there is related to what a change of it may make of it. -/
theorem rel_map {α : Type} {relation : α → α → Prop} {change : α → α} {found : Option α}
    (each : ∀ value ∈ found, relation value (change value)) :
    Option.Rel relation found (found.map change) := by
  cases found with
  | none => exact .none
  | some value => exact .some (each value rfl)

/-- The authorizations of a provider are alike before and after a change of claims that keeps them
related. -/
theorem State.alike_withClaims {state : State} (place : TokenPlace)
    {change : Entries Value → Entries Value}
    (keeps : ∀ authorization ∈ state.authorizations, ∀ type token,
      authorization.token? type = some token →
        related token.claims token.claims ∧ related token.claims (change token.claims)) :
    List.Forall₂ (AlikeInAll related) state.authorizations
      (state.withClaims place change).authorizations := by
  apply forall₂_changeFirst
  intro authorization member
  refine ⟨⟨rfl, rfl, fun type => ?_⟩, ⟨rfl, rfl, fun type => ?_⟩⟩
  · have held := keeps authorization member type
    generalize authorization.token? type = found at held
    cases found with
    | none => exact .none
    | some token => exact .some ⟨rfl, rfl, (held token rfl).1⟩
  · have changed := get?_changed authorization.tokens place.type type
      fun token => { token with claims := change token.claims }
    have alike : Option.Rel (AlikeTokens related) (authorization.token? type)
        ((authorization.tokens.get? type).map fun token =>
          if place.type = type then { token with claims := change token.claims } else token) := by
      apply rel_map
      intro token found
      obtain ⟨same, other⟩ := keeps authorization member type token found
      split
      · exact ⟨rfl, rfl, other⟩
      · exact ⟨rfl, rfl, same⟩
    rw [← changed] at alike
    exact alike

/-- The stores of a provider are alike before and after a change of claims that keeps them related. -/
theorem State.alikeStores_withClaims {state : State} (place : TokenPlace)
    {change : Entries Value → Entries Value}
    (keeps : ∀ authorization ∈ state.authorizations, ∀ type token,
      authorization.token? type = some token →
        related token.claims token.claims ∧ related token.claims (change token.claims))
    (hint : Value) (tokenType : String) :
    AlikeStores related hint tokenType state.stores (state.withClaims place change).stores where
  authorization := by
    have found : Option.Rel (AlikeInAll related) (state.findAuthorization hint tokenType)
        ((state.withClaims place change).findAuthorization hint tokenType) := by
      have each := state.alike_withClaims place keeps
      have unforced : (state.withClaims place change).forced = state.forced := rfl
      unfold State.findAuthorization
      rw [unforced]
      cases state.forced with
      | some id =>
          apply rel_find? _ each
          intro authorization other alike
          rw [alike.id]
      | none =>
          apply rel_find? _ each
          intro authorization other alike
          exact alike.holds_eq tokenType hint
    have same : (state.withClaims place change).fault? .authorizations =
        state.fault? .authorizations := rfl
    simp only [State.stores, State.answer, same]
    generalize state.findAuthorization hint tokenType = before at found
    generalize (state.withClaims place change).findAuthorization hint tokenType = after at found
    cases state.fault? .authorizations with
    | some fault => exact .failed rfl
    | none =>
        apply Corresponds.succeeded
        cases found with
        | none => exact .none
        | some alike => exact .some ⟨alike.registeredClientId, alike.token tokenType⟩
  client := rfl

end EndSession.Provider
