import EndSession.Proofs.Claims.Passing
import EndSession.Proofs.Logout.HintClaims

/-
This file judges the check of a whole hint: it passes exactly when the issuer is there and every
claim is admissible, and otherwise reports the first claim that is not.
-/

namespace EndSession.Logout

open Claims Number

/-- Of checks that pass under a condition the first one that does not hold is refused. -/
theorem isFirst_refused_iff {check : String → Value → Except CheckFault Unit}
    {admitted : String → Value → Prop}
    (each : ∀ claim value, Checks claim (admitted claim value) (check claim value))
    {pairs : List (String × Value)} {pair : String × Value} :
    IsFirst (fun pair => check pair.1 pair.2 ≠ .ok ()) pairs pair ↔
      IsFirst (fun pair => ¬ admitted pair.1 pair.2) pairs pair := by
  simp only [ne_eq, (each _ _).eq_ok_iff]

/-- The checks of all claims stop at the first one that is refused. -/
theorem checkAll_first {check : String → Value → Except CheckFault Unit}
    {admitted : String → Value → Prop}
    (each : ∀ claim value, Checks claim (admitted claim value) (check claim value))
    (pairs : List (String × Value)) :
    (checkAll check pairs = .ok () ∧ ∀ pair ∈ pairs, admitted pair.1 pair.2) ∨
      ∃ pair reason, IsFirst (fun pair => ¬ admitted pair.1 pair.2) pairs pair ∧
        checkAll check pairs = .error (.refused (.invalid pair.1 reason)) := by
  cases outcome : checkAll check pairs with
  | ok done =>
      refine Or.inl ⟨rfl, fun pair member => ?_⟩
      exact (each pair.1 pair.2).eq_ok_iff.mp ((checkAll_eq_ok_iff check pairs).mp outcome pair member)
  | error fault =>
      obtain ⟨pair, first, refused⟩ := checkAll_eq_error_iff.mp outcome
      have checks := each pair.1 pair.2
      rw [refused] at checks
      cases checks with
      | refused fails reason =>
          exact Or.inr ⟨pair, reason, (isFirst_refused_iff each).mp first, rfl⟩

/-- A hint passes when its claims do, under the requirement on the issuer and at the clock. -/
theorem checkHint_eq_ok_iff {settings : Settings} {issuer : Issuer} {claims : Entries Value} :
    checkHint settings issuer claims = .ok () ↔
      Passes (issuerOptions issuer) ⟨.null, settings.leeway, settings.clock⟩ claims := by
  unfold checkHint Passes
  cases issue claims with
  | error fault => simp
  | ok stored =>
      simp only [Except.ok.injEq, exists_eq_left']
      split <;> simp_all

/-- The issuer is the only claim that has to be there. -/
theorem missing_issuerOptions (issuer : Issuer) (claims : Entries Value) :
    (issuerOptions issuer).missing claims = if (valueOf claims "iss").isNull then ["iss"] else [] := by
  have essential : (Requirement.exactly (.text issuer.name)).isEssential = true := rfl
  unfold Options.missing
  rw [toList_issuerOptions]
  unfold valueOf
  cases absent : ((claims.get? "iss").getD .null).isNull <;> simp [essential, absent]

/-- No requirement of the issuer takes a name that the checker keeps. -/
theorem keptNames_issuerOptions (issuer : Issuer) :
    keptNames.any (issuerOptions issuer).contains = false := by
  simp [keptNames, Entries.contains, get?_issuerOptions]

/-- A claim of the issued token that is not there has no value. -/
theorem isNull_valueOf {claims : Entries Value} (issued : IsIssued claims) (claim : String) :
    (valueOf claims claim).isNull = true ↔ claims.get? claim = none := by
  unfold valueOf
  cases found : claims.get? claim with
  | none => simp [Value.isNull]
  | some value =>
      obtain ⟨stored, rfl⟩ := issued.stored found
      cases stored <;> simp [StoredValue.toValue, Value.isNull]

/-- The horizon of a check at the clock is the time and the allowance together. -/
theorem horizon_of_clock {leeway clock : Value} {time allowance : Int}
    (shown : Timing.wholeSeconds clock = .ok (.whole time))
    (allowed : leeway.number? = some (.whole allowance)) :
    Timing.horizon ⟨.null, leeway, clock⟩ = .ok (.whole (time + allowance)) := by
  have now : (Value.number (.whole time)).number? = some (.whole time) := rfl
  simp [Timing.horizon, Timing.resolve, Timing.allow, Value.isNull, shown, now, allowed]

/-- The claims of a hint are in order: the issuer is there, and every claim is admissible. -/
def FitsHint (issuer : Issuer) (limit : Int) (claims : Entries Value) : Prop :=
  claims.get? "iss" ≠ none ∧
    ∀ pair ∈ claims.toList, IsAdmissible issuer limit pair.1 pair.2

/-- The name under which claims that do not fit are reported: the issuer's if it is absent, and
otherwise that of the first claim which is not admissible. -/
def ReportsClaims (issuer : Issuer) (limit : Int) (claims : Entries Value) (parameter : String) :
    Prop :=
  claims.get? "iss" = none ∧ parameter = "iss" ∨
    claims.get? "iss" ≠ none ∧
      ∃ pair, IsFirst (fun pair => ¬ IsAdmissible issuer limit pair.1 pair.2) claims.toList pair ∧
        parameter = if pair.1 ∈ ["iss", "sub", "aud"] then pair.1 else "id_token_hint"

theorem parameterOf_eq (claim : String) :
    parameterOf claim = if claim ∈ ["iss", "sub", "aud"] then claim else "id_token_hint" := by
  simp [parameterOf]

/-- The checks of issued claims pass the claims that fit, and otherwise name what does not. -/
theorem checkIdToken_verdict (issuer : Issuer) {limit : Int} {timing : Timing}
    (horizon : timing.horizon = .ok (.whole limit)) {claims : Entries Value}
    (issued : IsIssued claims) :
    (checkIdToken (issuerOptions issuer) timing claims = .ok () ∧ FitsHint issuer limit claims) ∨
      ¬ FitsHint issuer limit claims ∧
        ∃ refusal, checkIdToken (issuerOptions issuer) timing claims = .error (.refused refusal) ∧
          ReportsClaims issuer limit claims (parameterOf refusal.claim) := by
  unfold checkIdToken
  rw [keptNames_issuerOptions, missing_issuerOptions, horizon]
  cases absent : (valueOf claims "iss").isNull with
  | true =>
      have missing := (isNull_valueOf issued "iss").mp absent
      refine Or.inr ⟨fun fits => fits.1 missing, .missing ["iss"], rfl, Or.inl ⟨missing, ?_⟩⟩
      rfl
  | false =>
      have present : claims.get? "iss" ≠ none := by
        intro missing
        rw [(isNull_valueOf issued "iss").mpr missing] at absent
        cases absent
      rcases checkAll_first (checkClaim_admissible issuer limit) claims.toList with
        ⟨passes, all⟩ | ⟨pair, reason, first, stops⟩
      · exact Or.inl ⟨passes, present, all⟩
      · refine Or.inr ⟨?_, .invalid pair.1 reason, stops, Or.inr ⟨present, pair, first, ?_⟩⟩
        · intro fits
          exact first.holds (fits.2 pair first.mem)
        · exact parameterOf_eq pair.1

/-- The checks of issued claims pass exactly the claims that fit. -/
theorem checkIdToken_eq_ok_iff_fits (issuer : Issuer) {limit : Int} {timing : Timing}
    (horizon : timing.horizon = .ok (.whole limit)) {claims : Entries Value}
    (issued : IsIssued claims) :
    checkIdToken (issuerOptions issuer) timing claims = .ok () ↔ FitsHint issuer limit claims := by
  rcases checkIdToken_verdict issuer horizon issued with ⟨passes, fits⟩ | ⟨unfit, refusal, stops, _⟩
  · exact iff_of_true passes fits
  · rw [stops]
    exact iff_of_false nofun unfit

/-- The check of a hint with issued claims passes the claims that fit, and otherwise refuses the
token under the name of what does not. -/
theorem checkHint_verdict (settings : Settings) (issuer : Issuer) {time allowance : Int}
    (shown : Timing.wholeSeconds settings.clock = .ok (.whole time))
    (allowed : settings.leeway.number? = some (.whole allowance)) {claims : Entries Value}
    (issued : IsIssued claims) :
    (checkHint settings issuer claims = .ok () ∧ FitsHint issuer (time + allowance) claims) ∨
      ¬ FitsHint issuer (time + allowance) claims ∧
        ∃ parameter cause,
          checkHint settings issuer claims = .error (.refused ⟨.invalidToken, parameter⟩ cause) ∧
            ReportsClaims issuer (time + allowance) claims parameter := by
  unfold checkHint
  rw [issued.issue_eq]
  rcases checkIdToken_verdict issuer (horizon_of_clock shown allowed) issued with
    ⟨passes, fits⟩ | ⟨unfit, refusal, stops, reports⟩
  · refine Or.inl ⟨?_, fits⟩
    simp only [passes]
  · refine Or.inr ⟨unfit, parameterOf refusal.claim, some refusal, ?_, reports⟩
    simp only [stops]

/-- A hint that passes its check names the issuer that judges, whatever its other claims and the
settings are. -/
theorem issuer_of_checkHint {settings : Settings} {issuer : Issuer} {claims : Entries Value}
    (passes : checkHint settings issuer claims = .ok ()) :
    claims.get? "iss" = some (.text issuer.name) := by
  obtain ⟨stored, issued, checked⟩ := checkHint_eq_ok_iff.mp passes
  obtain ⟨_, present, each⟩ := checkIdToken_eq_ok_iff.mp checked
  rw [missing_issuerOptions] at present
  cases found : stored.get? "iss" with
  | none => simp [valueOf, found, Value.isNull] at present
  | some value =>
      have here := each ("iss", value) ((stored.get?_eq_some_iff "iss" value).mp found)
      have same := (checkClaim_issuer issuer _ value).eq_ok_iff.mp here
      rw [same] at found
      exact get?_eq_text_of_issue issued found

end EndSession.Logout
