import EndSession.Proofs.Logout.Admission
import EndSession.Proofs.Logout.Relevance
import EndSession.Proofs.Provider.ClaimChange
import EndSession.Proofs.Provider.Grounds

/-
This file states that nothing about the sessions of an end user or the subject of the token decides a
logout request without an authenticated end user.
-/

namespace EndSession.Logout

open Session Client Claims Consultation Number Provider

/-- The claims name a subject, which is not empty. -/
def HasSubject (claims : Entries Value) : Prop :=
  ∃ name, name ≠ "" ∧ claims.get? "sub" = some (.text name)

/-- The claims agree on everything but the session hash, or both name a subject and agree on
everything but the session hash and the subject. -/
inductive DifferInEndUser (claims others : Entries Value) : Prop where
  | session (agree : AgreeOn (fun name => name != "sid") claims others)
  | subject (agree : AgreeOn (fun name => name != "sid" && name != "sub") claims others)
      (named : HasSubject claims) (namedOther : HasSubject others)

/-- An issuable session hash is harmless. -/
theorem isHarmless_session {pair : String × Value} (dropped : (pair.1 != "sid") = false)
    (issuable : IsIssuable pair.1 pair.2) : IsHarmless pair.1 pair.2 := by
  have name : pair.1 = "sid" := by simpa using dropped
  apply isHarmless_of_unchecked _ issuable
  rw [name]
  decide

/-- An issuable session hash is harmless, and so is the subject that claims name. -/
theorem isHarmless_endUser {claims : Entries Value} (named : HasSubject claims)
    {pair : String × Value} (member : pair ∈ claims.toList)
    (dropped : (pair.1 != "sid" && pair.1 != "sub") = false) (issuable : IsIssuable pair.1 pair.2) :
    IsHarmless pair.1 pair.2 := by
  rcases Bool.and_eq_false_iff.mp dropped with session | subject
  · exact isHarmless_session session issuable
  · obtain ⟨claim, value⟩ := pair
    obtain rfl : claim = "sub" := by simpa using subject
    obtain ⟨name, _, found⟩ := named
    cases ((claims.get?_eq_some_iff "sub" value).mpr member).symm.trans found
    exact isHarmless_subject name

/-- Claims that differ in the end user are judged alike. -/
theorem DifferInEndUser.judgedAlike {claims others : Entries Value}
    (differ : DifferInEndUser claims others) (settings : Settings) (issuer : Issuer) :
    JudgedAlike Eq settings issuer claims others := by
  cases differ with
  | session agree =>
      refine agree.judgedAlike rfl rfl ?_ ?_ settings issuer
      · exact fun pair member dropped => isHarmless_session dropped (agree.issuable pair member dropped)
      · exact fun pair member dropped =>
          isHarmless_session dropped (agree.issuableOthers pair member dropped)
  | subject agree named namedOther =>
      refine agree.judgedAlike rfl rfl ?_ ?_ settings issuer
      · exact fun pair member dropped =>
          isHarmless_endUser named member dropped (agree.issuable pair member dropped)
      · exact fun pair member dropped =>
          isHarmless_endUser namedOther member dropped (agree.issuableOthers pair member dropped)

/-- Without an authenticated end user no session is looked for. -/
theorem sessionOf_unauthenticated {request : Request}
    (unauthenticated : request.principal.isAuthenticated = false) (stores : Stores)
    (claims : Entries Value) : sessionOf stores request claims = Consultation.value none := by
  unfold sessionOf
  rw [unauthenticated]
  rfl

/-- For an end user who is not authenticated, the judgement is the same with any other sessions, any
other session of the request, any other session hash and any other subject, failures included, and
even when the sessions cannot be read. Whatever is granted is granted without a session to the end
user of the request. -/
theorem validate_indifferent_to_end_user {stores others : Stores} {request : Request}
    (settings : Settings) (issuer : Issuer)
    (unauthenticated : request.principal.isAuthenticated = false)
    (alike : AlikeStores DifferInEndUser request.idTokenHint settings.tokenType stores others)
    (sessionId : Option Text) :
    Corresponds Eq (AlikeResults DifferInEndUser)
      (validate stores settings issuer request).outcome
      (validate others settings issuer (request.inSession sessionId)).outcome ∧
    ∀ result, (validate stores settings issuer request).outcome = .ok result →
      result.sessionId = none ∧ result.principal = request.principal := by
  constructor
  · apply validate_corresponds (fun _ => rfl) sessionId alike
    · exact fun claims others differ => differ.judgedAlike settings issuer
    · intro claims others' _
      have unauthenticated' : (request.inSession sessionId).principal.isAuthenticated = false :=
        unauthenticated
      rw [sessionOf_unauthenticated unauthenticated, sessionOf_unauthenticated unauthenticated']
      exact .succeeded rfl
  · intro result granted
    obtain ⟨token, client, session, _, found, rfl⟩ := validate_eq_ok_iff.mp granted
    rw [sessionOf_unauthenticated unauthenticated] at found
    cases found
    exact ⟨rfl, rfl⟩

/-- The request in the session before its end user has authenticated. -/
def requestWhilePending : Request :=
  { requestInSession with principal := .pending (some "principal") }

/-- Claims with another session hash, which is none, and another subject. -/
def withOtherEndUser (claims : Entries Value) : Entries Value :=
  (claims.put "sid" (.number (.whole 7))).put "sub" (.text "other")

/-- The stores of the provider with a token of another end user and no sessions to be read. -/
def storesOfOtherEndUser : Stores :=
  { (providerOfSession.withClaims ⟨"authorization-1", idTokenType⟩ withOtherEndUser).stores with
    sessions := fun _ _ => .error .missing }

/-- The pending request is granted the same without its session and with a token of another end
user. -/
theorem pending_indifferent_to_end_user :
    requestWhilePending.principal.isAuthenticated = false ∧
    AlikeStores DifferInEndUser requestWhilePending.idTokenHint idTokenType providerOfSession.stores
      storesOfOtherEndUser ∧
    ∃ result other,
      (validate providerOfSession.stores providerOfSession.settings providerIssuer
        requestWhilePending).outcome = .ok result ∧
      (validate storesOfOtherEndUser providerOfSession.settings providerIssuer
        (requestWhilePending.inSession none)).outcome = .ok other ∧
      AlikeResults DifferInEndUser result other ∧ result.sessionId = none := by
  have subjects : ∀ authorization ∈ providerOfSession.authorizations,
      ∀ pair ∈ authorization.tokens.toList,
        (pair.2.claims.get? "sub").bind Value.text? = some "principal" := by
    decide +kernel
  have alike : AlikeStores DifferInEndUser requestWhilePending.idTokenHint idTokenType
      providerOfSession.stores
      (providerOfSession.withClaims ⟨"authorization-1", idTokenType⟩ withOtherEndUser).stores := by
    apply State.alikeStores_withClaims
    intro authorization member type token held
    have issued := holdsIssued_providerOfSession authorization member type token held
    have subject : HasSubject token.claims := by
      have found := subjects authorization member _ ((Entries.get?_eq_some_iff _ _ _).mp held)
      obtain ⟨value, present, text⟩ := Option.bind_eq_some_iff.mp found
      cases value with
      | text name => exact ⟨"principal", by decide, (Option.some.inj text) ▸ present⟩
      | _ => cases text
    refine ⟨.session (.refl issued), .subject ?_ subject ⟨"other", by decide, ?_⟩⟩
    · exact ((AgreeOn.refl issued).put rfl (.number _)).put rfl (.text (by decide) _)
    · exact Entries.get?_put _ _ _ _
  have alike : AlikeStores DifferInEndUser requestWhilePending.idTokenHint idTokenType
      providerOfSession.stores storesOfOtherEndUser := ⟨alike.authorization, alike.client⟩
  obtain ⟨corresponds, sessionless⟩ :=
    validate_indifferent_to_end_user providerOfSession.settings providerIssuer rfl alike none
  have computed : ((validate providerOfSession.stores providerOfSession.settings providerIssuer
      requestWhilePending).outcome.toOption.map Result.clientId) = some "client-1" := by
    decide +kernel
  obtain ⟨result, granted, _⟩ := exists_of_map_toOption computed
  rw [granted] at corresponds
  obtain ⟨other, grantedOther, same⟩ := corresponds.exists_ok
  exact ⟨rfl, alike, result, other, granted, grantedOther, same, (sessionless result granted).1⟩

end EndSession.Logout
