import EndSession.Logout.Decision
import EndSession.Proofs.Claims.Issuance
import EndSession.Proofs.First

/-
This file tells which claims a hint may hold: those of its issuer, in the shapes that their names ask
for, with no date behind the limit. The check of a hint passes exactly these.
-/

namespace EndSession.Logout

open Claims Number

/-- What a hint may hold under the name of a claim. -/
structure IsAdmissible (issuer : Issuer) (limit : Int) (claim : String) (value : Value) : Prop where
  issuer : claim = "iss" → value = .text issuer.name
  text : claim = "sub" ∨ claim = "jti" → ∃ content, value = .text content
  parties : claim = "aud" →
    (∃ party, value = .text party) ∨ ∃ parties : List Text, value = .list (parties.map .text)
  date : claim = "nbf" ∨ claim = "iat" →
    ∃ number moment, value = .number number ∧ number.toRat? = some moment ∧ moment ≤ (limit : Rat)

/-- An acceptable URI is not empty. -/
theorem Issuer.name_ne_empty (issuer : Issuer) : issuer.name ≠ "" := by
  intro empty
  have acceptable := issuer.acceptable
  rw [empty] at acceptable
  exact absurd acceptable (by decide +kernel)

@[simp] theorem toList_issuerOptions (issuer : Issuer) :
    (issuerOptions issuer).toList = [("iss", Requirement.exactly (.text issuer.name))] := rfl

/-- The issuer is the only claim with a requirement. -/
theorem get?_issuerOptions (issuer : Issuer) (claim : String) :
    (issuerOptions issuer).get? claim =
      if "iss" = claim then some (Requirement.exactly (.text issuer.name)) else none := by
  rw [Entries.get?, toList_issuerOptions]
  rfl

/-- A text is admitted when it is the expected one, which is not blank. -/
theorem admits_exactly {name : Text} (filled : name ≠ "") (content : Text) :
    (Requirement.exactly (.text name)).admits (.text content) = .ok (decide (content = name)) := by
  have settings : (Requirement.exactly (.text name)).settings.toList =
      [("essential", .bool true), ("value", .text name)] := rfl
  have setting (asked : String) : (Requirement.exactly (.text name)).setting asked =
      (Entries.lookup asked [("essential", .bool true), ("value", .text name)]).getD .null := rfl
  unfold Requirement.admits
  simp only [settings, setting, Entries.lookup, Requirement.isBlank, Requirement.isValue, Value.same,
    Value.isNull, Value.isTrue]
  by_cases blank : content = ""
  · simp [blank, Ne.symm filled]
  · simp [blank]
    rfl

theorem checkAdmitted_issuer (issuer : Issuer) (content : Text) :
    (issuerOptions issuer).checkAdmitted "iss" (.text content) =
      if content = issuer.name then .ok () else .error (.refused (.invalid "iss" .notAdmitted)) := by
  unfold Options.checkAdmitted
  rw [get?_issuerOptions, if_pos rfl]
  simp only [admits_exactly issuer.name_ne_empty]
  by_cases same : content = issuer.name
  · rw [decide_eq_true same, if_pos same]
  · rw [decide_eq_false same, if_neg same]

/-- A claim without a requirement is admitted. -/
theorem checkAdmitted_of_none {options : Options} {claim : String}
    (unrequired : options.get? claim = none) (value : Value) :
    options.checkAdmitted claim value = .ok () := by
  unfold Options.checkAdmitted
  rw [unrequired]

/-- Every claim but the issuer is without a requirement. -/
theorem unrequired_issuerOptions (issuer : Issuer) {claim : String} (other : claim ≠ "iss") :
    (issuerOptions issuer).get? claim = none := by
  rw [get?_issuerOptions, if_neg (Ne.symm other)]

/-- A check of one claim passes under a condition, and otherwise refuses the claim. -/
inductive Checks (claim : String) (condition : Prop) : Except CheckFault Unit → Prop where
  | passed (holds : condition) : Checks claim condition (.ok ())
  | refused (fails : ¬ condition) (reason : Reason) :
      Checks claim condition (.error (.refused (.invalid claim reason)))

namespace Checks

variable {claim : String} {condition : Prop} {outcome : Except CheckFault Unit}

theorem of_iff {other : Prop} (checks : Checks claim condition outcome)
    (same : condition ↔ other) : Checks claim other outcome :=
  propext same ▸ checks

theorem eq_ok_iff (checks : Checks claim condition outcome) : outcome = .ok () ↔ condition := by
  cases checks with
  | passed holds => exact ⟨fun _ => holds, fun _ => rfl⟩
  | refused fails reason => exact ⟨fun impossible => (nomatch impossible), fun holds => absurd holds fails⟩

end Checks

/-- The issuer of the hint is the one that judges, whatever the time. -/
theorem checkClaim_issuer (issuer : Issuer) (horizon : Except TimeFault Numeric) (value : Value) :
    Checks "iss" (value = .text issuer.name)
      (checkClaim (issuerOptions issuer) horizon "iss" value) := by
  have rule : ruleOf "iss" = .stringOrUri := rfl
  unfold checkClaim
  cases value with
  | text content =>
      simp only [rule, shapeFault?, isText, Value.text?, lateness?, checkAdmitted_issuer]
      by_cases same : content = issuer.name
      · rw [if_pos same]
        exact .passed (congrArg Value.text same)
      · rw [if_neg same]
        exact .refused (fun equal => same (Value.text.inj equal)) .notAdmitted
  | _ => exact .refused (by simp) .notStringOrUri

/-- A claim with neither a date nor a requirement passes when its value has the shape that its name
asks for. -/
theorem checkClaim_undated {options : Options} (horizon : Except TimeFault Numeric) {claim : String}
    (unrequired : options.get? claim = none) (checked : ruleOf claim ≠ .expiry)
    (undated : lateness? (ruleOf claim) = none) (value : Value) :
    Checks claim (shapeFault? (ruleOf claim) value = none)
      (checkClaim options horizon claim value) := by
  unfold checkClaim
  simp only [checked, if_false, undated, checkAdmitted_of_none unrequired]
  cases shape : shapeFault? (ruleOf claim) value with
  | none => exact .passed rfl
  | some reason => exact .refused (by simp) reason

/-- A whole number is less than a finite one as rationals are. -/
theorem less_of_toRat? {number : Numeric} {moment : Rat} (finite : number.toRat? = some moment)
    (limit : Int) : (Numeric.whole limit).less number = decide ((limit : Rat) < moment) := by
  unfold Numeric.less
  split <;> simp_all [Numeric.toRat?, Binary64.toRat?]

/-- The check of a date that has no requirement: the value is no finite number, it lies behind the
limit, or it passes. -/
inductive ChecksDate (limit : Int) (claim : String) : Value → Except CheckFault Unit → Prop where
  | misshapen {value : Value}
      (fails : ¬ ∃ number moment, value = .number number ∧ number.toRat? = some moment) :
      ChecksDate limit claim value (.error (.refused (.invalid claim .notNumericDate)))
  | late {number : Numeric} {moment : Rat} {reason : Reason} (finite : number.toRat? = some moment)
      (behind : (limit : Rat) < moment) (isReason : lateness? (ruleOf claim) = some reason) :
      ChecksDate limit claim (.number number) (.error (.refused (.invalid claim reason)))
  | begun {number : Numeric} {moment : Rat} (finite : number.toRat? = some moment)
      (inTime : moment ≤ (limit : Rat)) : ChecksDate limit claim (.number number) (.ok ())

theorem checksDate_checkClaim {options : Options} (limit : Int) {claim : String}
    (unrequired : options.get? claim = none) (name : claim = "nbf" ∨ claim = "iat")
    (value : Value) :
    ChecksDate limit claim value (checkClaim options (.ok (.whole limit)) claim value) := by
  have checked : ruleOf claim ≠ .expiry := by
    rcases name with rfl | rfl <;> decide
  have shape : shapeFault? (ruleOf claim) value =
      if isFiniteNumber value then none else some .notNumericDate := by
    rcases name with rfl | rfl <;> rfl
  obtain ⟨reason, dated⟩ : ∃ reason, lateness? (ruleOf claim) = some reason := by
    rcases name with rfl | rfl <;> exact ⟨_, rfl⟩
  unfold checkClaim
  simp only [checked, if_false, shape, dated, checkAdmitted_of_none unrequired]
  cases value with
  | number number =>
      cases finite : number.toRat? with
      | none =>
          have infinite : isFiniteNumber (.number number) = false := by
            simp [isFiniteNumber, Numeric.isFinite, finite]
          simp only [infinite]
          refine .misshapen ?_
          rintro ⟨_, moment, same, found⟩
          cases same
          rw [finite] at found
          cases found
      | some moment =>
          have number' : isFiniteNumber (.number number) = true := by
            simp [isFiniteNumber, Numeric.isFinite, finite]
          simp only [number', if_true, checkDate, less_of_toRat? finite]
          by_cases behind : (limit : Rat) < moment
          · simp only [behind, decide_true, if_true]
            exact .late finite behind dated
          · simp only [behind, decide_false]
            exact .begun finite (Rat.not_lt.mp behind)
  | _ => exact .misshapen (by simp)

/-- A date without a requirement is a finite number that does not lie behind the horizon. -/
theorem checkClaim_date {options : Options} (limit : Int) {claim : String}
    (unrequired : options.get? claim = none) (name : claim = "nbf" ∨ claim = "iat")
    (value : Value) :
    Checks claim
      (∃ number moment, value = .number number ∧ number.toRat? = some moment ∧
        moment ≤ (limit : Rat))
      (checkClaim options (.ok (.whole limit)) claim value) := by
  have checks := checksDate_checkClaim limit unrequired name value
  generalize checkClaim options (.ok (.whole limit)) claim value = outcome at checks
  cases checks with
  | misshapen fails =>
      refine .refused ?_ .notNumericDate
      rintro ⟨number, moment, same, finite, _⟩
      exact fails ⟨number, moment, same, finite⟩
  | @late number moment reason finite behind _ =>
      refine .refused ?_ reason
      rintro ⟨_, moment', same, found, early⟩
      cases same
      rw [finite] at found
      cases found
      exact absurd behind (Rat.not_lt.mpr early)
  | begun finite inTime => exact .passed ⟨_, _, rfl, finite, inTime⟩

theorem all_isText_iff (items : List Value) :
    items.all isText = true ↔ ∃ texts : List Text, items = texts.map .text := by
  constructor
  · intro texts
    induction items with
    | nil => exact ⟨[], rfl⟩
    | cons item items inductionHypothesis =>
        simp only [List.all_cons, Bool.and_eq_true] at texts
        obtain ⟨others, rfl⟩ := inductionHypothesis texts.2
        cases item with
        | text content => exact ⟨content :: others, rfl⟩
        | _ => exact absurd texts.1 (by simp [isText, Value.text?])
  · intro shape
    obtain ⟨texts, rfl⟩ := shape
    simp [isText, Value.text?]

/-- What passes the checks under the name of a claim on which there is no requirement. -/
structure IsInOrder (limit : Int) (claim : String) (value : Value) : Prop where
  text : claim = "iss" ∨ claim = "sub" ∨ claim = "jti" → ∃ content, value = .text content
  parties : claim = "aud" →
    (∃ party, value = .text party) ∨ ∃ parties : List Text, value = .list (parties.map .text)
  date : claim = "nbf" ∨ claim = "iat" →
    ∃ number moment, value = .number number ∧ number.toRat? = some moment ∧ moment ≤ (limit : Rat)

/-- The shape that a name asks for, of a claim other than the dates. -/
theorem shapeFault?_eq_none_iff {claim : String} (dated : ¬ (claim = "nbf" ∨ claim = "iat"))
    (value : Value) :
    shapeFault? (ruleOf claim) value = none ↔
      (claim = "iss" ∨ claim = "sub" ∨ claim = "jti" → ∃ content, value = .text content) ∧
        (claim = "aud" → (∃ party, value = .text party) ∨
          ∃ parties : List Text, value = .list (parties.map .text)) := by
  rw [not_or] at dated
  by_cases text : claim = "iss" ∨ claim = "sub" ∨ claim = "jti"
  · have shape : shapeFault? (ruleOf claim) value = none ↔ isText value = true := by
      rcases text with rfl | rfl | rfl <;> simp [ruleOf, shapeFault?]
    have other : claim ≠ "aud" := by
      rcases text with rfl | rfl | rfl <;> decide
    rw [shape]
    cases value <;> simp [isText, Value.text?, text, other]
  by_cases audience : claim = "aud"
  · subst audience
    have shape : shapeFault? (ruleOf "aud") value = none ↔ isAudience value = true := by
      simp [ruleOf, shapeFault?]
    rw [shape]
    cases value with
    | list items => simpa [isAudience] using all_isText_iff items
    | _ => simp [isAudience]
  · have free : shapeFault? (ruleOf claim) value = none := by
      simp only [not_or] at text
      unfold ruleOf
      simp only [text, audience, dated, or_self, if_false]
      split <;> rfl
    simp [free, text, audience]

/-- Only the two dates of the beginning have a rule of lateness. -/
theorem lateness?_ruleOf {claim : String} (dated : ¬ (claim = "nbf" ∨ claim = "iat")) :
    lateness? (ruleOf claim) = none := by
  rw [not_or] at dated
  unfold ruleOf
  simp only [dated, if_false]
  split_ifs <;> rfl

/-- Only the expiry has the rule of its name. -/
theorem ruleOf_ne_expiry {claim : String} (other : claim ≠ "exp") : ruleOf claim ≠ .expiry := by
  unfold ruleOf
  simp only [other, if_false]
  split_ifs <;> decide

/-- The check of a claim without a requirement passes exactly what is in order. -/
theorem checkClaim_inOrder {options : Options} (limit : Int) {claim : String}
    (unrequired : options.get? claim = none) (value : Value) :
    Checks claim (IsInOrder limit claim value)
      (checkClaim options (.ok (.whole limit)) claim value) := by
  by_cases dated : claim = "nbf" ∨ claim = "iat"
  · apply (checkClaim_date limit unrequired dated value).of_iff
    constructor
    · intro date
      rcases dated with rfl | rfl <;> exact ⟨by simp, by simp, fun _ => date⟩
    · intro inOrder
      exact inOrder.date dated
  by_cases expiry : claim = "exp"
  · subst expiry
    have passes : checkClaim options (.ok (.whole limit)) "exp" value = .ok () := rfl
    rw [passes]
    exact .passed ⟨by simp, by simp, by simp⟩
  · have checks := checkClaim_undated (.ok (.whole limit)) unrequired (ruleOf_ne_expiry expiry)
      (lateness?_ruleOf dated) value
    apply checks.of_iff
    rw [shapeFault?_eq_none_iff dated]
    constructor
    · intro shapes
      exact ⟨shapes.1, shapes.2, fun here => absurd here dated⟩
    · intro inOrder
      exact ⟨inOrder.text, inOrder.parties⟩

/-- The check of one claim passes exactly what is admissible. -/
theorem checkClaim_admissible (issuer : Issuer) (limit : Int) (claim : String) (value : Value) :
    Checks claim (IsAdmissible issuer limit claim value)
      (checkClaim (issuerOptions issuer) (.ok (.whole limit)) claim value) := by
  by_cases iss : claim = "iss"
  · subst iss
    apply (checkClaim_issuer issuer (.ok (.whole limit)) value).of_iff
    constructor
    · intro same
      exact ⟨fun _ => same, by simp, by simp, by simp⟩
    · intro fits
      exact fits.issuer rfl
  · apply (checkClaim_inOrder limit (unrequired_issuerOptions issuer iss) value).of_iff
    constructor
    · intro inOrder
      exact ⟨fun here => absurd here iss, fun name => inOrder.text (Or.inr name), inOrder.parties,
        inOrder.date⟩
    · intro fits
      exact ⟨fun name => fits.text (name.resolve_left iss), fits.parties, fits.date⟩

end EndSession.Logout
