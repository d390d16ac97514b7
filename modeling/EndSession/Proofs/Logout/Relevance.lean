import EndSession.Proofs.Claims.Kinds
import EndSession.Proofs.Logout.Correspondence
import EndSession.Proofs.Logout.HintCheck

/-
This file compares tokens that agree on some of their claims. The check of a hint does not see the
other claims, as long as they can be issued and no check looks at their names.
-/

namespace EndSession.Logout

open Session Client Claims Number

/-- The claims agree on the names that are kept, in value and order. Those under other names are
issuable. -/
structure AgreeOn (kept : String → Bool) (claims others : Entries Value) : Prop where
  same : others.restrict kept = claims.restrict kept
  issuable : ∀ pair ∈ claims.toList, kept pair.1 = false → IsIssuable pair.1 pair.2
  issuableOthers : ∀ pair ∈ others.toList, kept pair.1 = false → IsIssuable pair.1 pair.2

namespace AgreeOn

variable {kept : String → Bool} {claims others : Entries Value}

/-- A kept name finds the same in both claims. -/
theorem get?_eq (agree : AgreeOn kept claims others) {name : String} (isKept : kept name = true) :
    others.get? name = claims.get? name := by
  have found := congrArg (fun entries => entries.get? name) agree.same
  simpa only [Entries.get?_restrict, isKept, if_true] using found

theorem valueOf_eq (agree : AgreeOn kept claims others) {name : String}
    (isKept : kept name = true) : valueOf others name = valueOf claims name := by
  unfold valueOf
  rw [agree.get?_eq isKept]

/-- Issued claims agree with themselves. -/
theorem refl (issued : IsIssued claims) : AgreeOn kept claims claims where
  same := rfl
  issuable _ member _ := issued.isIssuable member
  issuableOthers _ member _ := issued.isIssuable member

/-- Claims still agree when one under a name that is not kept is written. -/
theorem put (agree : AgreeOn kept claims others) {name : String} (dropped : kept name = false)
    {value : Value} (issuable : IsIssuable name value) :
    AgreeOn kept claims (others.put name value) where
  same := (Entries.restrict_put dropped others value).trans agree.same
  issuable := agree.issuable
  issuableOthers pair member unkept := by
    obtain ⟨claim, written⟩ := pair
    have found := ((others.put name value).get?_eq_some_iff claim written).mpr member
    rw [Entries.get?_put] at found
    split at found
    · rename_i same
      cases same
      cases found
      exact issuable
    · exact agree.issuableOthers _ ((others.get?_eq_some_iff claim written).mp found) unkept

end AgreeOn

/-- The value can be stored under the name of the claim, and no hint is refused for what is stored. -/
def IsHarmless (claim : String) (value : Value) : Prop :=
  ∀ issuer horizon, PassesAlone (issuerOptions issuer) horizon claim value

/-- The claims that the check of a hint looks at. -/
def checkedClaims : List String :=
  ["iss", "sub", "aud", "nbf", "iat", "jti"]

/-- Whatever is issuable under a name that no check looks at is harmless. -/
theorem isHarmless_of_unchecked {claim : String} (unchecked : claim ∉ checkedClaims) {value : Value}
    (issuable : IsIssuable claim value) : IsHarmless claim value := by
  intro issuer horizon
  obtain ⟨stored, done⟩ := issuable.exists_convert
  refine ⟨stored, done, ?_⟩
  simp only [checkedClaims, List.mem_cons, List.not_mem_nil, or_false, not_or] at unchecked
  by_cases expiry : claim = "exp"
  · rw [expiry]
    rfl
  have rule : ruleOf claim = .free := by
    unfold ruleOf
    simp only [unchecked, expiry, or_self, if_false]
  have checks := checkClaim_undated horizon (unrequired_issuerOptions issuer unchecked.1)
    (by rw [rule]; decide) (by rw [rule]; rfl) stored.toValue
  exact checks.eq_ok_iff.mpr (by rw [rule]; rfl)

/-- A text is harmless as the subject. -/
theorem isHarmless_subject (name : Text) : IsHarmless "sub" (.text name) := by
  intro issuer horizon
  refine ⟨.text name, convert_text rfl name, ?_⟩
  have unrequired := unrequired_issuerOptions issuer (show "sub" ≠ "iss" by decide)
  have checks := checkClaim_undated horizon unrequired (by decide) rfl (.text name)
  exact checks.eq_ok_iff.mpr rfl

/-- A list of texts is harmless as the audience. -/
theorem isHarmless_audience (parties : List Text) :
    IsHarmless "aud" (.list (parties.map .text)) := by
  intro issuer horizon
  refine ⟨.texts parties, (Converts.list (by decide) parties).convert_eq, ?_⟩
  have unrequired := unrequired_issuerOptions issuer (show "aud" ≠ "iss" by decide)
  have checks := checkClaim_undated horizon unrequired (by decide) rfl (.list (parties.map .text))
  exact checks.eq_ok_iff.mpr ((shapeFault?_eq_none_iff (by decide) _).mpr
    ⟨by simp, fun _ => Or.inr ⟨parties, rfl⟩⟩)

/-- The checks of a hint may leave out claims that pass. -/
theorem checkIdToken_restrict {kept : String → Bool} (issuerKept : kept "iss" = true)
    {issuer : Issuer} {timing : Timing} {claims : Entries Value}
    (passes : ∀ pair ∈ claims.toList, kept pair.1 = false →
      checkClaim (issuerOptions issuer) timing.horizon pair.1 pair.2 = .ok ()) :
    checkIdToken (issuerOptions issuer) timing (claims.restrict kept) =
      checkIdToken (issuerOptions issuer) timing claims := by
  have sameIssuer : valueOf (claims.restrict kept) "iss" = valueOf claims "iss" := by
    rw [valueOf, Entries.get?_restrict, if_pos issuerKept]
    rfl
  unfold checkIdToken
  rw [missing_issuerOptions, missing_issuerOptions, sameIssuer, Entries.restrict,
    checkAll_filter passes]

/-- The check of a hint does not see harmless claims. -/
theorem checkHint_restrict {kept : String → Bool} (issuerKept : kept "iss" = true)
    {claims : Entries Value}
    (harmless : ∀ pair ∈ claims.toList, kept pair.1 = false → IsHarmless pair.1 pair.2)
    (settings : Settings) (issuer : Issuer) :
    checkHint settings issuer (claims.restrict kept) = checkHint settings issuer claims := by
  have passesAlone (horizon : Except TimeFault Numeric) : ∀ pair ∈ claims.toList,
      kept pair.1 = false → PassesAlone (issuerOptions issuer) horizon pair.1 pair.2 :=
    fun pair member dropped => harmless pair member dropped issuer horizon
  have storable : ∀ pair ∈ claims.toList, kept pair.1 = false →
      ∃ stored, convert pair.1 pair.2 = .ok stored := by
    intro pair member dropped
    obtain ⟨stored, done, _⟩ := passesAlone (.error .notNumber) pair member dropped
    exact ⟨stored, done⟩
  unfold checkHint
  rw [issue_restrict storable]
  cases issued : issue claims with
  | error fault => rfl
  | ok stored =>
      have sameChecks := checkIdToken_restrict issuerKept
        (forall_stored_of_passesAlone issued (passesAlone
          (Timing.horizon ⟨.null, settings.leeway, settings.clock⟩)))
      simp only [Except.map, sameChecks]

/-- The audience of a hint is in one of its claims. -/
theorem hintAudience_congr {claims others : Entries Value}
    (same : others.get? "aud" = claims.get? "aud") : hintAudience others = hintAudience claims := by
  unfold hintAudience audience
  rw [same]

/-- Claims are judged alike when they agree on the issuer and the audience, and those that they do not
agree on are harmless. -/
theorem AgreeOn.judgedAlike {kept : String → Bool} {claims others : Entries Value}
    (agree : AgreeOn kept claims others) (issuerKept : kept "iss" = true)
    (audienceKept : kept "aud" = true)
    (harmless : ∀ pair ∈ claims.toList, kept pair.1 = false → IsHarmless pair.1 pair.2)
    (harmlessOthers : ∀ pair ∈ others.toList, kept pair.1 = false → IsHarmless pair.1 pair.2)
    (settings : Settings) (issuer : Issuer) : JudgedAlike Eq settings issuer claims others where
  hint := by
    apply Corresponds.of_eq fun _ => rfl
    rw [← checkHint_restrict issuerKept harmless, ← checkHint_restrict issuerKept harmlessOthers,
      agree.same]
  audience := by
    rw [hintAudience_congr (agree.get?_eq audienceKept)]
    exact .refl (fun _ => rfl) (fun _ _ => Iff.rfl) _

end EndSession.Logout
