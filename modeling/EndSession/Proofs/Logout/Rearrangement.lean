import EndSession.Proofs.Logout.Relevance
import EndSession.Proofs.Provider.ClaimChange
import EndSession.Proofs.Provider.Grounds

/-
This file states that neither the order of claims nor the order and the repetition of the parties of an
audience decides whether a logout request is granted. They only decide which fault is named.
-/

namespace EndSession.Logout

open Session Client Claims Number Provider

/-- The claims are the same, or they are audiences with the same parties. -/
inductive IsSameClaim : String × Value → String × Value → Prop where
  | same (pair : String × Value) : IsSameClaim pair pair
  | audience {parties others : List Text} (same : ∀ party, party ∈ parties ↔ party ∈ others) :
      IsSameClaim ("aud", .list (parties.map .text)) ("aud", .list (others.map .text))

/-- The claims are the same in another order, up to the order and the repetition of the parties of
their audience. -/
def IsRearranged (claims others : Entries Value) : Prop :=
  ∃ reordered : Entries Value, claims.toList.Perm reordered.toList ∧
    List.Forall₂ IsSameClaim reordered.toList others.toList

theorem IsSameClaim.name_eq {pair other : String × Value} (same : IsSameClaim pair other) :
    pair.1 = other.1 := by
  cases same <;> rfl

namespace IsRearranged

variable {claims others : Entries Value}

theorem refl (claims : Entries Value) : IsRearranged claims claims :=
  ⟨claims, .refl _, List.forall₂_same.mpr fun pair _ => .same pair⟩

/-- A name finds the same claim in rearranged claims. -/
theorem rel_get? (rearranged : IsRearranged claims others) (name : String) :
    Option.Rel (fun value other => IsSameClaim (name, value) (name, other)) (claims.get? name)
      (others.get? name) := by
  obtain ⟨reordered, permuted, each⟩ := rearranged
  rw [← Entries.get?_of_perm permuted name]
  apply Entries.rel_lookup fun name value other => IsSameClaim (name, value) (name, other)
  apply each.imp
  rintro ⟨key, value⟩ ⟨key', other⟩ same
  obtain rfl : key = key' := same.name_eq
  exact ⟨rfl, same⟩

/-- Claims are rearranged when their audience is written with the same parties. -/
theorem put_audience {parties others : List Text}
    (found : claims.get? "aud" = some (.list (parties.map .text)))
    (same : ∀ party, party ∈ parties ↔ party ∈ others) :
    IsRearranged claims (claims.put "aud" (.list (others.map .text))) := by
  refine ⟨claims, .refl _, ?_⟩
  obtain ⟨pairs, distinct⟩ := claims
  simp only [Entries.get?, Entries.put] at found ⊢
  -- Only the pairs matter from here on, so that the induction is free of their distinct names.
  clear distinct
  induction pairs with
  | nil => cases found
  | cons pair rest inductionHypothesis =>
      obtain ⟨name, value⟩ := pair
      by_cases here : name = "aud"
      · subst here
        simp only [Entries.lookup, if_true, Option.some.injEq] at found
        subst found
        simp only [Entries.write, if_true]
        exact .cons (.audience same) (List.forall₂_same.mpr fun pair _ => .same pair)
      · simp only [Entries.lookup, here, if_false] at found
        simp only [Entries.write, here, if_false]
        exact .cons (.same _) (inductionHypothesis found)

/-- Every claim but the audience is the same in rearranged claims. -/
theorem get?_eq (rearranged : IsRearranged claims others) {name : String} (other : name ≠ "aud") :
    others.get? name = claims.get? name := by
  have each := rearranged.rel_get? name
  generalize claims.get? name = found at each
  generalize others.get? name = foundOther at each
  cases each with
  | none => rfl
  | some same =>
      cases same with
      | same => rfl
      | audience => exact absurd rfl other

/-- A name finds nothing in rearranged claims where it found nothing. -/
theorem get?_eq_none_iff (rearranged : IsRearranged claims others) (name : String) :
    claims.get? name = none ↔ others.get? name = none := by
  have each := rearranged.rel_get? name
  generalize claims.get? name = found at each
  generalize others.get? name = foundOther at each
  cases each <;> simp

/-- All claims have a property that same claims share, when all rearranged ones have it. -/
theorem forall_iff (rearranged : IsRearranged claims others) {property : String × Value → Prop}
    (shared : ∀ pair other, IsSameClaim pair other → (property pair ↔ property other)) :
    (∀ pair ∈ claims.toList, property pair) ↔ ∀ pair ∈ others.toList, property pair := by
  rw [Entries.forall_mem_iff, Entries.forall_mem_iff]
  apply forall_congr'
  intro name
  have each := rearranged.rel_get? name
  generalize claims.get? name = found at each
  generalize others.get? name = foundOther at each
  cases each with
  | none => simp
  | some same => simpa using shared _ _ same

theorem valueOf_eq (rearranged : IsRearranged claims others) {name : String}
    (other : name ≠ "aud") : valueOf others name = valueOf claims name := by
  unfold valueOf
  rw [rearranged.get?_eq other]

end IsRearranged

/-- A claim that passes alone still does with its parties rearranged. -/
theorem passesAlone_of_same (issuer : Issuer) (horizon : Except TimeFault Numeric)
    {pair other : String × Value} (same : IsSameClaim pair other) :
    PassesAlone (issuerOptions issuer) horizon pair.1 pair.2 ↔
      PassesAlone (issuerOptions issuer) horizon other.1 other.2 := by
  cases same with
  | same pair => exact Iff.rfl
  | @audience parties others same =>
      exact iff_of_true (isHarmless_audience parties issuer horizon)
        (isHarmless_audience others issuer horizon)

/-- A hint still passes with its claims rearranged. -/
theorem IsRearranged.checkHint_iff {claims others : Entries Value}
    (rearranged : IsRearranged claims others) (settings : Settings) (issuer : Issuer) :
    checkHint settings issuer claims = .ok () ↔ checkHint settings issuer others = .ok () := by
  rw [checkHint_eq_ok_iff, checkHint_eq_ok_iff, passes_iff, passes_iff,
    rearranged.forall_iff fun _ _ same => passesAlone_of_same issuer _ same]
  simp only [ne_eq, rearranged.get?_eq_none_iff]

/-- The audience of rearranged claims has the same parties. -/
theorem IsRearranged.hintAudience_corresponds {claims others : Entries Value}
    (rearranged : IsRearranged claims others) :
    Corresponds (fun _ _ => True) SameTexts (hintAudience claims) (hintAudience others) := by
  have each := rearranged.rel_get? "aud"
  have reflexive (outcome : Except Failure (List Value)) :
      Corresponds (fun _ _ => True) SameTexts outcome outcome :=
    .refl (fun _ => trivial) (fun _ _ => Iff.rfl) outcome
  unfold hintAudience audience
  generalize claims.get? "aud" = found at each
  generalize others.get? "aud" = foundOther at each
  cases each with
  | none => exact reflexive _
  | @some value other same =>
      cases same with
      | same => exact reflexive _
      | @audience parties parties' same =>
          cases parties with
          | nil =>
              cases parties' with
              | nil => exact reflexive _
              | cons party' rest' => exact absurd ((same party').mpr List.mem_cons_self) List.not_mem_nil
          | cons party rest =>
              cases parties' with
              | nil => exact absurd ((same party).mp List.mem_cons_self) List.not_mem_nil
              | cons party' rest' =>
                  apply Corresponds.succeeded
                  intro content
                  simpa using same content

/-- Rearranged claims are judged alike, up to the fault that is named. -/
theorem IsRearranged.judgedAlike {claims others : Entries Value}
    (rearranged : IsRearranged claims others) (settings : Settings) (issuer : Issuer) :
    JudgedAlike (fun _ _ => True) settings issuer claims others where
  hint := .of_passes_iff (rearranged.checkHint_iff settings issuer)
  audience := rearranged.hintAudience_corresponds

/-- Two claims that are both refused. -/
def subjectFirst : Entries Value :=
  Entries.ofList [("sub", .number (.whole 5)), ("jti", .number (.whole 7))]

/-- The claims in the other order. -/
def identifierFirst : Entries Value :=
  Entries.ofList [("jti", .number (.whole 7)), ("sub", .number (.whole 5))]

/-- A logout request is granted with a token exactly when it is granted with one that has the same
claims in another order, and the same parties in another order or repeated; the results differ in the
claims of the token only. Under any requirements, the checks of claims pass exactly when they do in
another order, but the claim that a refusal names may be another one. -/
theorem acceptance_indifferent_to_order :
    (∀ (stores others : Stores) (settings : Settings) (issuer : Issuer) (request : Request),
      AlikeStores IsRearranged request.idTokenHint settings.tokenType stores others →
      others.sessions = stores.sessions →
        Corresponds (fun _ _ => True) (AlikeResults IsRearranged)
          (validate stores settings issuer request).outcome
          (validate others settings issuer request).outcome) ∧
    (∀ (options : Options) (timing : Timing) (claims others : Entries Value),
      claims.toList.Perm others.toList →
        (Passes options timing claims ↔ Passes options timing others)) ∧
    ∃ (claims others : Entries Value) (options : Options) (timing : Timing) (name name' : String)
        (reason reason' : Reason),
      claims.toList.Perm others.toList ∧ name ≠ name' ∧
        checkIdToken options timing claims = .error (.refused (.invalid name reason)) ∧
        checkIdToken options timing others = .error (.refused (.invalid name' reason')) := by
  refine ⟨?_, ?_, ?_⟩
  · intro stores others settings issuer request alike sameSessions
    apply validate_corresponds_in_session (fun _ => trivial) alike sameSessions
    · intro claims claims' rearranged
      exact rearranged.judgedAlike settings issuer
    · intro claims claims' rearranged
      exact ⟨rearranged.valueOf_eq (by decide), rearranged.valueOf_eq (by decide)⟩
  · intro options timing claims others permuted
    exact ⟨passes_of_perm permuted, passes_of_perm permuted.symm⟩
  · exact ⟨subjectFirst, identifierFirst, Entries.empty, ⟨.null, .null, .null⟩, "sub", "jti",
      .notStringOrUri, .notString, List.Perm.swap _ _ _, by decide, checkIdToken_empty _ _,
      checkIdToken_empty _ _⟩

/-- Rearranged claims may be read backwards. -/
theorem IsRearranged.reverse {claims others : Entries Value}
    (rearranged : IsRearranged claims others) : IsRearranged claims others.reverse := by
  obtain ⟨reordered, permuted, each⟩ := rearranged
  exact ⟨reordered.reverse, permuted.trans (List.reverse_perm _).symm,
    List.forall₂_reverse_iff.mpr each⟩

/-- The texts of an audience that is a list of them. -/
def listedParties (claims : Entries Value) : Option (List Text) :=
  match claims.get? "aud" with
  | some (.list items) => Value.texts? items
  | _ => none

theorem listedParties_eq_some {claims : Entries Value} {parties : List Text}
    (listed : listedParties claims = some parties) :
    claims.get? "aud" = some (.list (parties.map .text)) := by
  unfold listedParties at listed
  split at listed
  · rename_i items found
    rw [found, (Value.texts?_eq_some_iff items parties).mp listed]
  · cases listed

/-- Claims backwards, with two parties in another order and one of them twice. -/
def withOtherOrder (claims : Entries Value) : Entries Value :=
  (claims.put "aud" (.list ([("client-2" : Text), "client-1", "client-2"].map .text))).reverse

/-- The provider of the session with its token rearranged. -/
def providerOfRearrangedToken : State :=
  providerOfSession.withClaims ⟨"authorization-1", idTokenType⟩ withOtherOrder

/-- The request in the session is granted with the rearranged token, too, and two wrong claims fail in
both orders. -/
theorem session_indifferent_to_order :
    (∃ result other,
      (validate providerOfSession.stores providerOfSession.settings providerIssuer
        requestInSession).outcome = .ok result ∧
      (validate providerOfRearrangedToken.stores providerOfSession.settings providerIssuer
        requestInSession).outcome = .ok other ∧
      AlikeResults IsRearranged result other) ∧
    (Passes Entries.empty ⟨.null, .null, .null⟩ subjectFirst ↔
      Passes Entries.empty ⟨.null, .null, .null⟩ identifierFirst) := by
  obtain ⟨sameDecision, sameChecks, _⟩ := acceptance_indifferent_to_order
  have parties : ∀ authorization ∈ providerOfSession.authorizations,
      ∀ pair ∈ authorization.tokens.toList,
        listedParties pair.2.claims = some [("client-1" : Text), "client-2"] := by
    decide +kernel
  have alike : AlikeStores IsRearranged requestInSession.idTokenHint
      providerOfSession.settings.tokenType providerOfSession.stores
      providerOfRearrangedToken.stores := by
    apply State.alikeStores_withClaims
    intro authorization member type token held
    have listed := parties authorization member _ ((Entries.get?_eq_some_iff _ _ _).mp held)
    have sameParties (party : Text) : party ∈ [("client-1" : Text), "client-2"] ↔
        party ∈ [("client-2" : Text), "client-1", "client-2"] := by
      simp only [List.mem_cons, List.not_mem_nil, or_false]
      constructor
      · rintro (first | second)
        · exact Or.inr (Or.inl first)
        · exact Or.inl second
      · rintro (second | first | second)
        · exact Or.inr second
        · exact Or.inl first
        · exact Or.inr second
    exact ⟨.refl _, (IsRearranged.put_audience (listedParties_eq_some listed) sameParties).reverse⟩
  have corresponds := sameDecision providerOfSession.stores providerOfRearrangedToken.stores
    providerOfSession.settings providerIssuer requestInSession alike rfl
  obtain ⟨result, granted⟩ := exists_granted_in_session
  rw [granted] at corresponds
  obtain ⟨other, grantedOther, same⟩ := corresponds.exists_ok
  exact ⟨⟨result, other, granted, grantedOther, same⟩, sameChecks _ _ _ _ (List.Perm.swap _ _ _)⟩

end EndSession.Logout
