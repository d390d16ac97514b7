import EndSession.Proofs.Logout.Relevance
import EndSession.Proofs.Provider.ClaimChange
import EndSession.Proofs.Provider.Grounds

/-
This file states what time does to a hint: one that was accepted stays accepted, its expiry is never
looked at, and it is refused on account of time only for a beginning that lies ahead.
-/

namespace EndSession.Logout

open Session Client Claims Consultation Number Provider

/-- The settings with this time on the clock, and this allowance. -/
def Settings.atTime (settings : Settings) (time allowance : Int) : Settings :=
  { settings with
    clock := .number (.whole time)
    leeway := .number (.whole allowance) }

/-- What is admissible stays so under a later limit. -/
theorem IsAdmissible.later {issuer : Issuer} {limit later : Int} {claim : String} {value : Value}
    (admissible : IsAdmissible issuer limit claim value) (order : limit ≤ later) :
    IsAdmissible issuer later claim value where
  issuer := admissible.issuer
  text := admissible.text
  parties := admissible.parties
  date name := by
    obtain ⟨number, moment, same, finite, early⟩ := admissible.date name
    exact ⟨number, moment, same, finite, Rat.le_trans early (Rat.intCast_le_intCast.mpr order)⟩

/-- Claims that fit stay so under a later limit. -/
theorem FitsHint.later {issuer : Issuer} {limit later : Int} {claims : Entries Value}
    (fits : FitsHint issuer limit claims) (order : limit ≤ later) : FitsHint issuer later claims :=
  ⟨fits.1, fun pair member => (fits.2 pair member).later order⟩

/-- A hint that passes its check passes it later. -/
theorem checkHint_later {settings : Settings} {issuer : Issuer} {claims : Entries Value}
    {time allowance time' allowance' : Int} (order : time + allowance ≤ time' + allowance')
    (passes : checkHint (settings.atTime time allowance) issuer claims = .ok ()) :
    checkHint (settings.atTime time' allowance') issuer claims = .ok () := by
  obtain ⟨stored, issued, checked⟩ := checkHint_eq_ok_iff.mp passes
  have fits := (checkIdToken_eq_ok_iff_fits issuer (Timing.horizon_clock allowance time)
    ⟨claims, issued⟩).mp checked
  have later := (checkIdToken_eq_ok_iff_fits issuer (Timing.horizon_clock allowance' time')
    ⟨claims, issued⟩).mpr (fits.later order)
  exact checkHint_eq_ok_iff.mpr ⟨stored, issued, later⟩

/-- Settings for tokens of one type grant the same when the hints that pass the check of the first ones
pass that of the others. -/
theorem granted_of_checkHint {stores : Stores} {settings others : Settings} {issuer : Issuer}
    {request : Request} {result : Result} (sameType : others.tokenType = settings.tokenType)
    (passes : ∀ claims, checkHint settings issuer claims = .ok () →
      checkHint others issuer claims = .ok ())
    (granted : (validate stores settings issuer request).outcome = .ok result) :
    (validate stores others issuer request).outcome = .ok result := by
  unfold validate at granted ⊢
  rw [sameType]
  obtain ⟨found, read, granted⟩ := bind_eq_ok_iff.mp granted
  obtain ⟨⟨authorization, token⟩, active, granted⟩ := bind_eq_ok_iff.mp granted
  obtain ⟨_, checked, granted⟩ := bind_eq_ok_iff.mp granted
  refine bind_eq_ok_iff.mpr ⟨found, read, ?_⟩
  refine bind_eq_ok_iff.mpr ⟨(authorization, token), active, ?_⟩
  exact bind_eq_ok_iff.mpr ⟨(), passes token.claims checked, granted⟩

/-- The claims that a judgement looks at: those that are checked, and the session hash. -/
def judgedClaims : List String :=
  "sid" :: checkedClaims

/-- The claims agree on those that a judgement looks at. -/
def AgreeOnJudged : Entries Value → Entries Value → Prop :=
  AgreeOn judgedClaims.contains

/-- Claims that agree on those that are looked at are judged alike. -/
theorem AgreeOnJudged.judgedAlike {claims others : Entries Value}
    (agree : AgreeOnJudged claims others) (settings : Settings) (issuer : Issuer) :
    JudgedAlike Eq settings issuer claims others := by
  have harmless {pair : String × Value} (dropped : judgedClaims.contains pair.1 = false)
      (issuable : IsIssuable pair.1 pair.2) : IsHarmless pair.1 pair.2 := by
    apply isHarmless_of_unchecked _ issuable
    intro checked
    have judged : pair.1 ∈ judgedClaims := List.mem_cons_of_mem "sid" checked
    rw [List.contains_iff_mem.mpr judged] at dropped
    cases dropped
  exact AgreeOn.judgedAlike agree rfl rfl
    (fun pair member dropped => harmless dropped (agree.issuable pair member dropped))
    (fun pair member dropped => harmless dropped (agree.issuableOthers pair member dropped))
    settings issuer

/-- A claim is refused because it begins in the future. -/
inductive IsTimeRefusal : Except CheckFault Unit → Prop where
  | notYetValid (claim : String) :
      IsTimeRefusal (.error (.refused (.invalid claim .notYetValid)))
  | issuedInFuture (claim : String) :
      IsTimeRefusal (.error (.refused (.invalid claim .issuedInFuture)))

theorem IsTimeRefusal.exists_fault {outcome : Except CheckFault Unit}
    (refusal : IsTimeRefusal outcome) : ∃ fault, outcome = .error fault := by
  cases refusal <;> exact ⟨_, rfl⟩

/-- The claim is a beginning that lies behind the limit. -/
structure IsLate (limit : Int) (claim : String) (value : Value) : Prop where
  name : claim = "nbf" ∨ claim = "iat"
  behind : ∃ number moment, value = .number number ∧ number.toRat? = some moment ∧
    (limit : Rat) < moment

/-- A beginning in whole seconds is late when it is greater than the limit. -/
theorem isLate_whole {limit seconds : Int} {claim : String} (name : claim = "nbf" ∨ claim = "iat")
    (behind : limit < seconds) : IsLate limit claim (.number (.whole seconds)) :=
  ⟨name, .whole seconds, seconds, rfl, rfl, Rat.intCast_lt_intCast.mpr behind⟩

/-- What is late is not in order. -/
theorem IsLate.not_isInOrder {limit : Int} {claim : String} {value : Value}
    (late : IsLate limit claim value) : ¬ IsInOrder limit claim value := by
  intro inOrder
  obtain ⟨number, moment, same, finite, behind⟩ := late.behind
  obtain ⟨number', moment', same', finite', inTime⟩ := inOrder.date late.name
  cases same.symm.trans same'
  cases finite.symm.trans finite'
  exact absurd behind (Rat.not_lt.mpr inTime)

/-- A wrong shape is no matter of time. -/
theorem not_isTimeRefusal_of_shape {rule : Rule} {value : Value} {reason : Reason}
    (shape : shapeFault? rule value = some reason) (claim : String) :
    ¬ IsTimeRefusal (.error (.refused (.invalid claim reason))) := by
  intro refusal
  cases refusal <;> cases rule <;> simp [shapeFault?] at shape

/-- Without requirements a claim is refused on account of time exactly when it is late. -/
theorem isTimeRefusal_checkClaim_iff (limit : Int) (claim : String) (value : Value) :
    IsTimeRefusal (checkClaim Entries.empty (.ok (.whole limit)) claim value) ↔
      IsLate limit claim value := by
  have unrequired : (Entries.empty : Options).get? claim = none := rfl
  by_cases dated : claim = "nbf" ∨ claim = "iat"
  · have checks := checksDate_checkClaim limit unrequired dated value
    generalize checkClaim Entries.empty (.ok (.whole limit)) claim value = outcome at checks
    cases checks with
    | misshapen fails =>
        refine iff_of_false nofun ?_
        rintro ⟨_, number, moment, same, finite, _⟩
        exact fails ⟨number, moment, same, finite⟩
    | late finite behind isReason =>
        refine iff_of_true ?_ ⟨dated, _, _, rfl, finite, behind⟩
        rcases dated with rfl | rfl
        · cases isReason
          exact .notYetValid "nbf"
        · cases isReason
          exact .issuedInFuture "iat"
    | begun finite inTime =>
        refine iff_of_false nofun ?_
        rintro ⟨_, number, moment, same, finite', behind⟩
        cases same
        cases finite.symm.trans finite'
        exact absurd behind (Rat.not_lt.mpr inTime)
  · refine iff_of_false ?_ fun late => dated late.name
    unfold checkClaim
    simp only [lateness?_ruleOf dated, checkAdmitted_of_none unrequired]
    split
    · nofun
    · split
      · rename_i reason shape
        exact not_isTimeRefusal_of_shape shape claim
      · nofun

/-- Without requirements claims are refused on account of time exactly when the first one that is not
in order is late. -/
theorem isTimeRefusal_checkIdToken_iff (now leeway : Int) (clock : Value) (claims : Entries Value) :
    IsTimeRefusal (checkIdToken Entries.empty
        ⟨.number (.whole now), .number (.whole leeway), clock⟩ claims) ↔
      ∃ pair, IsFirst (fun pair => ¬ IsInOrder (now + leeway) pair.1 pair.2) claims.toList pair ∧
        IsLate (now + leeway) pair.1 pair.2 := by
  have each (claim : String) (value : Value) : Checks claim (IsInOrder (now + leeway) claim value)
      (checkClaim Entries.empty (.ok (.whole (now + leeway))) claim value) :=
    checkClaim_inOrder (now + leeway) rfl value
  rw [checkIdToken_empty, Timing.horizon_whole]
  constructor
  · intro refusal
    obtain ⟨fault, stops⟩ := refusal.exists_fault
    obtain ⟨pair, first, refused⟩ := checkAll_eq_error_iff.mp stops
    refine ⟨pair, (isFirst_refused_iff each).mp first, ?_⟩
    rw [stops, ← refused] at refusal
    exact (isTimeRefusal_checkClaim_iff _ _ _).mp refusal
  · rintro ⟨pair, first, late⟩
    have refusal := (isTimeRefusal_checkClaim_iff _ _ _).mpr late
    obtain ⟨fault, refused⟩ := refusal.exists_fault
    rw [checkAll_eq_error_iff.mpr ⟨pair, (isFirst_refused_iff each).mpr first, refused⟩]
    rw [refused] at refusal
    exact refusal

/-- Without requirements claims with a late one do not pass. -/
theorem checkIdToken_ne_ok_of_late {now leeway : Int} {claims : Entries Value}
    {pair : String × Value} (member : pair ∈ claims.toList)
    (late : IsLate (now + leeway) pair.1 pair.2) (clock : Value) :
    checkIdToken Entries.empty ⟨.number (.whole now), .number (.whole leeway), clock⟩ claims ≠
      .ok () := by
  rw [checkIdToken_empty, Timing.horizon_whole]
  intro passes
  have passed := (checkAll_eq_ok_iff _ _).mp passes pair member
  exact late.not_isInOrder ((checkClaim_inOrder (now + leeway) rfl pair.2).eq_ok_iff.mp passed)

/-- What was granted at a time with an allowance is granted whenever the two add up to at least as
much. Claims that a judgement does not look at, the expiry among them, change neither whether a request
is granted nor what it is refused with, nor anything of the result but the claims of its token. Without
requirements claims with a beginning behind the time and the allowance do not pass, and they are
refused on account of time exactly when such a claim is the first one that is not in order. -/
theorem hint_behaviour_in_time :
    (∀ (stores : Stores) (settings : Settings) (issuer : Issuer) (request : Request)
        (result : Result) (time allowance time' allowance' : Int),
      time + allowance ≤ time' + allowance' →
      (validate stores (settings.atTime time allowance) issuer request).outcome = .ok result →
        (validate stores (settings.atTime time' allowance') issuer request).outcome = .ok result) ∧
    (∀ (stores others : Stores) (settings : Settings) (issuer : Issuer) (request : Request),
      AlikeStores AgreeOnJudged request.idTokenHint settings.tokenType stores others →
      others.sessions = stores.sessions →
        Corresponds Eq (AlikeResults AgreeOnJudged)
          (validate stores settings issuer request).outcome
          (validate others settings issuer request).outcome) ∧
    ∀ (now leeway : Int) (clock : Value) (claims : Entries Value),
      ((∃ pair ∈ claims.toList, IsLate (now + leeway) pair.1 pair.2) →
        checkIdToken Entries.empty ⟨.number (.whole now), .number (.whole leeway), clock⟩ claims ≠
          .ok ()) ∧
      (IsTimeRefusal (checkIdToken Entries.empty
          ⟨.number (.whole now), .number (.whole leeway), clock⟩ claims) ↔
        ∃ pair, IsFirst (fun pair => ¬ IsInOrder (now + leeway) pair.1 pair.2) claims.toList pair ∧
          IsLate (now + leeway) pair.1 pair.2) := by
  refine ⟨?_, ?_, ?_⟩
  · intro stores settings issuer request result time allowance time' allowance' order granted
    have passes (claims : Entries Value)
        (passed : checkHint (settings.atTime time allowance) issuer claims = .ok ()) :
        checkHint (settings.atTime time' allowance') issuer claims = .ok () :=
      checkHint_later order passed
    have sameType : (settings.atTime time' allowance').tokenType =
      (settings.atTime time allowance).tokenType := rfl
    exact granted_of_checkHint sameType passes granted
  · intro stores others settings issuer request alike sameSessions
    apply validate_corresponds_in_session (fun _ => rfl) alike sameSessions
    · intro claims claims' agree
      exact agree.judgedAlike settings issuer
    · intro claims claims' agree
      exact ⟨AgreeOn.valueOf_eq agree rfl, AgreeOn.valueOf_eq agree rfl⟩
  · intro now leeway clock claims
    refine ⟨?_, isTimeRefusal_checkIdToken_iff now leeway clock claims⟩
    rintro ⟨pair, member, late⟩
    exact checkIdToken_ne_ok_of_late member late clock

/-- A subject that is no text, and a beginning in two seconds. -/
def lateBehindSubject : Entries Value :=
  Entries.ofList [("sub", .number (.whole 5)), ("nbf", .number (.whole 2))]

/-- The beginning of these claims is late at the time zero, but they are not refused on account of
time: the subject in front of it is refused. -/
theorem late_behind_refused_subject :
    IsIssued lateBehindSubject ∧
      checkIdToken Entries.empty ⟨.number (.whole 0), .number (.whole 0), .null⟩ lateBehindSubject =
        .error (.refused (.invalid "sub" .notStringOrUri)) ∧
      ¬ (IsTimeRefusal (checkIdToken Entries.empty
            ⟨.number (.whole 0), .number (.whole 0), .null⟩ lateBehindSubject) ↔
          ∃ pair ∈ lateBehindSubject.toList, IsLate (0 + 0) pair.1 pair.2) := by
  have refused : checkIdToken Entries.empty ⟨.number (.whole 0), .number (.whole 0), .null⟩
      lateBehindSubject = .error (.refused (.invalid "sub" .notStringOrUri)) :=
    checkIdToken_empty _ _
  have member : ("nbf", Value.number (.whole 2)) ∈ lateBehindSubject.toList :=
    List.mem_cons_of_mem _ List.mem_cons_self
  have late : IsLate (0 + 0) "nbf" (.number (.whole 2)) := isLate_whole (Or.inl rfl) (by decide)
  refine ⟨⟨lateBehindSubject, rfl⟩, refused, ?_⟩
  rw [refused]
  intro same
  cases same.mpr ⟨_, member, late⟩

/-- Claims that are no matter of the judgement: an expiry, and one of the client's own. -/
def withUnjudgedClaims (claims : Entries Value) : Entries Value :=
  (claims.put "exp" (.number (.whole 1))).put "roles" (.list (["admin"].map .text))

/-- The request in the session is granted in the same way when it comes later, and when its token has
expired. A token that begins in a second is refused on account of time. -/
theorem session_in_time :
    (∃ result other,
      (validate providerOfSession.stores providerOfSession.settings providerIssuer
        requestInSession).outcome = .ok result ∧
      (validate providerOfSession.stores (providerOfSession.settings.atTime 4102444800 0)
        providerIssuer requestInSession).outcome = .ok result ∧
      (validate
        (providerOfSession.withClaims ⟨"authorization-1", idTokenType⟩ withUnjudgedClaims).stores
        providerOfSession.settings providerIssuer requestInSession).outcome = .ok other ∧
      AlikeResults AgreeOnJudged result other) ∧
    IsTimeRefusal (checkIdToken Entries.empty
      ⟨.number (.whole (-1)), .number (.whole 0), .null⟩
      (Entries.ofList [("nbf", .number (.whole 0))])) := by
  obtain ⟨later, unjudged, timely⟩ := hint_behaviour_in_time
  obtain ⟨result, granted⟩ := exists_granted_in_session
  have grantedLater := later providerOfSession.stores providerOfSession.settings providerIssuer
    requestInSession result 1700000000 60 4102444800 0 (by decide) granted
  have alike : AlikeStores AgreeOnJudged requestInSession.idTokenHint
      providerOfSession.settings.tokenType providerOfSession.stores
      (providerOfSession.withClaims ⟨"authorization-1", idTokenType⟩ withUnjudgedClaims).stores := by
    apply State.alikeStores_withClaims
    intro authorization member type token held
    have issued := holdsIssued_providerOfSession authorization member type token held
    refine ⟨.refl issued, ?_⟩
    exact ((AgreeOn.refl issued).put rfl (.number _)).put rfl (.list (by decide) _)
  have corresponds := unjudged providerOfSession.stores _ providerOfSession.settings providerIssuer
    requestInSession alike rfl
  rw [granted] at corresponds
  obtain ⟨other, grantedOther, same⟩ := corresponds.exists_ok
  refine ⟨⟨result, other, granted, grantedLater, grantedOther, same⟩, ?_⟩
  have late : IsLate (-1 + 0) "nbf" (.number (.whole 0)) := isLate_whole (Or.inl rfl) (by decide)
  have first : IsFirst (fun pair : String × Value => ¬ IsInOrder (-1 + 0) pair.1 pair.2)
      [("nbf", .number (.whole 0))] ("nbf", .number (.whole 0)) := by
    apply IsFirst.here
    exact late.not_isInOrder
  exact (timely (-1) 0 .null _).2.mpr ⟨_, first, late⟩

end EndSession.Logout
