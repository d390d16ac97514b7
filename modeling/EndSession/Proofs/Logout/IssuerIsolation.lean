import EndSession.Proofs.Logout.Checks
import EndSession.Proofs.Logout.Consultation
import EndSession.Proofs.Provider.Grounds

/-
This file separates issuers that share their stores: a request that one of them grants is granted by
no other one, since the token that is found for it names its issuer.
-/

namespace EndSession.Logout

open Session Client Claims Consultation Provider

variable {stores : Stores} {settings : Settings} {issuer : Issuer} {request : Request}

/-- The token is held by the authorization that the stores find for the hint of the request. -/
def Stores.Hold (stores : Stores) (settings : Settings) (request : Request) (token : Token) : Prop :=
  ∃ authorization,
    stores.authorization request.idTokenHint settings.tokenType = .ok (some authorization) ∧
      authorization.token? settings.tokenType = some token

/-- At most one token is held for a request. -/
theorem Stores.Hold.unique {token other : Token} (holds : stores.Hold settings request token)
    (holdsOther : stores.Hold settings request other) : token = other := by
  obtain ⟨authorization, found, held⟩ := holds
  obtain ⟨authorization', found', held'⟩ := holdsOther
  have same := Option.some.inj (Except.ok.inj (found.symm.trans found'))
  rw [same] at held
  exact Option.some.inj (held.symm.trans held')

/-- The token of a request that was granted is the one held for it, and it passed its check. -/
theorem checked_of_granted {result : Result}
    (granted : (validate stores settings issuer request).outcome = .ok result) :
    stores.Hold settings request result.idToken ∧
      checkHint settings issuer result.idToken.claims = .ok () := by
  unfold validate at granted
  obtain ⟨found, read, granted⟩ := bind_eq_ok_iff.mp granted
  obtain ⟨⟨authorization, token⟩, active, granted⟩ := bind_eq_ok_iff.mp granted
  obtain ⟨_, checked, granted⟩ := bind_eq_ok_iff.mp granted
  obtain ⟨_, _, granted⟩ := bind_eq_ok_iff.mp granted
  obtain ⟨_, _, granted⟩ := bind_eq_ok_iff.mp granted
  obtain ⟨_, _, granted⟩ := bind_eq_ok_iff.mp granted
  obtain ⟨_, _, granted⟩ := bind_eq_ok_iff.mp granted
  obtain ⟨_, _, granted⟩ := bind_eq_ok_iff.mp granted
  cases granted
  obtain ⟨rfl, held, _⟩ := activeToken_eq_ok_iff.mp active
  exact ⟨⟨authorization, ask_eq_ok_iff.mp read, held⟩, checked⟩

/-- Of the issuers that share stores at most one grants a request, and it is the one that the held
token names in its claim of the issuer, as this very text. -/
theorem validate_granted_by_one_issuer (stores : Stores) (settings : Settings) (request : Request) :
    (∀ issuer result, (validate stores settings issuer request).outcome = .ok result →
      stores.Hold settings request result.idToken ∧
        result.idToken.claims.get? "iss" = some (.text issuer.name)) ∧
    ∀ first second, first ≠ second →
      ¬ ((∃ result, (validate stores settings first request).outcome = .ok result) ∧
        ∃ result, (validate stores settings second request).outcome = .ok result) := by
  have named (issuer : Issuer) (result : Result)
      (granted : (validate stores settings issuer request).outcome = .ok result) :
      stores.Hold settings request result.idToken ∧
        result.idToken.claims.get? "iss" = some (.text issuer.name) := by
    obtain ⟨holds, checked⟩ := checked_of_granted granted
    exact ⟨holds, issuer_of_checkHint checked⟩
  refine ⟨named, ?_⟩
  intro first second different both
  obtain ⟨⟨result, granted⟩, other, grantedOther⟩ := both
  obtain ⟨holds, issuer⟩ := named first result granted
  obtain ⟨holdsOther, issuerOther⟩ := named second other grantedOther
  rw [← holds.unique holdsOther, issuer] at issuerOther
  have same : first.name = second.name := Value.text.inj (Option.some.inj issuerOther)
  apply different
  obtain ⟨name, acceptable⟩ := first
  obtain ⟨name', acceptable'⟩ := second
  change name = name' at same
  subst same
  rfl

/-- Another issuer, with the stores of the first one. -/
def otherIssuer : Issuer where
  name := "https://provider.test/other"
  acceptable := by decide +kernel

/-- The request in the session is granted by the issuer of its token and not by the other one. -/
theorem session_granted_by_one_issuer :
    (∃ result, (validate providerOfSession.stores providerOfSession.settings providerIssuer
        requestInSession).outcome = .ok result ∧
      result.idToken.claims.get? "iss" = some (.text "https://provider.test")) ∧
    ∀ result, (validate providerOfSession.stores providerOfSession.settings otherIssuer
      requestInSession).outcome ≠ .ok result := by
  obtain ⟨named, apart⟩ := validate_granted_by_one_issuer providerOfSession.stores
    providerOfSession.settings requestInSession
  have computed : ((validate providerOfSession.stores providerOfSession.settings providerIssuer
      requestInSession).outcome.toOption.map Result.clientId) = some "client-1" := by
    decide +kernel
  obtain ⟨result, granted, _⟩ := exists_of_map_toOption computed
  refine ⟨⟨result, granted, (named _ _ granted).2⟩, ?_⟩
  intro other grantedOther
  exact apart providerIssuer otherIssuer (by decide) ⟨⟨result, granted⟩, other, grantedOther⟩

end EndSession.Logout
