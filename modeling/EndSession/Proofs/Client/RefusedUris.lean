import EndSession.Proofs.Client.Registration
import EndSession.Proofs.First

/-
This file tells why metadata of a client is refused: because of the first of its post-logout redirect
URIs that is refused. What cannot be read as a URI is refused like any other URI that is no address.
-/

namespace EndSession.Client

open Claims Uri

/-- The fault of a value that is refused as a post-logout redirect URI. -/
inductive IsRefusedAs (policy : TransportPolicy) (metadata : Entries Value) :
    Value → MetadataFault → Prop where
  | notText {value : Value} (other : ∀ uri, value ≠ .text uri) :
      IsRefusedAs policy metadata value
        (.check (.refused (.invalid "post_logout_redirect_uris" .notAdmitted)))
  | unreadable {uri : Text} {fault : Fault} (unread : Parts.read uri.toList = .error fault) :
      IsRefusedAs policy metadata (.text uri)
        (.check (.refused (.invalid "post_logout_redirect_uris" .notAdmitted)))
  | noAddress {uri : Text} {parts : Parts} (read : Parts.read uri.toList = .ok parts)
      (lacking : ¬ parts.IsAddress) :
      IsRefusedAs policy metadata (.text uri)
        (.check (.refused (.invalid "post_logout_redirect_uris" .notAdmitted)))
  | insecure {uri : Text} {parts : Parts} (read : Parts.read uri.toList = .ok parts)
      (address : parts.IsAddress)
      (isPublic : metadata.get? "token_endpoint_auth_method" = some (.text "none"))
      (insecure : isSecure policy uri = false) :
      IsRefusedAs policy metadata (.text uri) .insecureUri

/-- The value is refused as a post-logout redirect URI. -/
def IsRefused (policy : TransportPolicy) (metadata : Entries Value) (value : Value) : Prop :=
  ∃ fault, IsRefusedAs policy metadata value fault

/-- A text is refused for its form when it is no acceptable URI. -/
theorem isRefusedAs_of_unacceptable (policy : TransportPolicy) (metadata : Entries Value) {uri : Text}
    (unacceptable : isAcceptable true uri = false) :
    IsRefusedAs policy metadata (.text uri)
      (.check (.refused (.invalid "post_logout_redirect_uris" .notAdmitted))) := by
  rcases (isAcceptable_eq_false_iff uri).mp unacceptable with ⟨fault, unread⟩ | ⟨parts, read, lacking⟩
  · exact .unreadable unread
  · exact .noAddress read lacking

/-- The check of a value fails with the fault that it is refused with. -/
theorem checkUri_eq_error_iff {policy : TransportPolicy} {metadata : Entries Value} {value : Value}
    {fault : MetadataFault} :
    checkUri policy (isPublic metadata) value = .error fault ↔
      IsRefusedAs policy metadata value fault := by
  constructor
  · intro fails
    cases value with
    | text uri =>
        cases acceptable : isAcceptable true uri with
        | false =>
            simp only [checkUri, acceptable, Bool.not_false, if_true] at fails
            cases fails
            exact isRefusedAs_of_unacceptable policy metadata acceptable
        | true =>
            simp only [checkUri, acceptable, Bool.not_true, Bool.false_eq_true, if_false] at fails
            split at fails
            · rename_i risky
              cases fails
              rw [Bool.and_eq_true, Bool.not_eq_true', isPublic_iff] at risky
              obtain ⟨parts, read, address, _⟩ := (isAcceptable_iff true uri).mp acceptable
              exact .insecure read address risky.1 risky.2
            · cases fails
    | _ =>
        cases fails
        exact .notText (by simp)
  · intro refused
    -- What cannot be read and what is no address fail in the same test.
    have unacceptable {uri : Text} (unacceptable : isAcceptable true uri = false) :
        checkUri policy (isPublic metadata) (.text uri) =
          .error (.check (.refused (.invalid "post_logout_redirect_uris" .notAdmitted))) := by
      rw [checkUri, unacceptable]
      rfl
    cases refused with
    | notText other =>
        cases value with
        | text uri => exact absurd rfl (other uri)
        | _ => rfl
    | unreadable unread =>
        exact unacceptable ((isAcceptable_eq_false_iff _).mpr (Or.inl ⟨_, unread⟩))
    | noAddress read lacking =>
        exact unacceptable ((isAcceptable_eq_false_iff _).mpr (Or.inr ⟨_, read, lacking⟩))
    | insecure read address isPublic insecure =>
        have acceptable := (isAcceptable_iff true _).mpr ⟨_, read, address, Or.inl rfl⟩
        rw [checkUri, acceptable, (isPublic_iff metadata).mpr isPublic, insecure]
        rfl

/-- A value is refused exactly when it does not pass. -/
theorem isRefused_iff (policy : TransportPolicy) (metadata : Entries Value) (value : Value) :
    IsRefused policy metadata value ↔ checkUri policy (isPublic metadata) value ≠ .ok () := by
  simp only [IsRefused, ← checkUri_eq_error_iff]
  cases checkUri policy (isPublic metadata) value <;> simp

/-- The URIs are checked in turn. -/
theorem checkUris_eq_forM (policy : TransportPolicy) (clientIsPublic : Bool) (values : List Value) :
    checkUris policy clientIsPublic values = forM values (checkUri policy clientIsPublic) := by
  induction values with
  | nil => rfl
  | cons value rest inductionHypothesis =>
      rw [checkUris, List.forM_cons, inductionHypothesis]
      cases checkUri policy clientIsPublic value <;> rfl

/-- Metadata whose post-logout redirect URIs are neither a list nor a tuple is refused for them. Otherwise
it is refused with the fault of the first value that is refused, and passes when none is. -/
theorem checkMetadata_refuses_first {policy : TransportPolicy} {metadata : Entries Value} {value : Value}
    (given : metadata.get? "post_logout_redirect_uris" = some value) (filled : value.isTrue = true) :
    ((∀ values, value ≠ .list values ∧ value ≠ .tuple values) →
      checkMetadata policy Entries.empty metadata =
        .error (.check (.refused (.invalid "post_logout_redirect_uris" .notAdmitted)))) ∧
    ∀ values, value = .list values ∨ value = .tuple values →
      (∀ fault, checkMetadata policy Entries.empty metadata = .error fault ↔
        ∃ value, IsFirst (IsRefused policy metadata) values value ∧
          IsRefusedAs policy metadata value fault) ∧
      (checkMetadata policy Entries.empty metadata = .ok () ↔
        ∀ value ∈ values, ¬ IsRefused policy metadata value) := by
  have listed : valueOf metadata postLogoutClaim = value := by
    rw [valueOf, postLogoutClaim, given, Option.getD_some]
  rw [checkMetadata_empty, checkPostLogout, listed]
  simp only [filled, Bool.not_true, Bool.false_eq_true, if_false]
  constructor
  · intro other
    have noSequence : sequence? value = none := by
      unfold sequence?
      split
      · exact absurd rfl (other _).1
      · exact absurd rfl (other _).2
      · rfl
    rw [noSequence]
    rfl
  · intro values form
    have found : sequence? value = some values := by
      rcases form with rfl | rfl <;> rfl
    rw [found]
    dsimp only
    constructor
    · intro fault
      simp only [checkUris_eq_forM, forM_eq_error_iff, checkUri_eq_error_iff, ← isRefused_iff]
    · simp only [checkUris_eq_ok_iff, isRefused_iff, ne_eq, Classical.not_not]

/-- A URI that is fine, one that is not secure, and one with a bracket that is never closed. -/
def mixedUris : List Value :=
  [.text "https://client.test/ended", .text "http://client.test/ended", .text "https://[::1/ended"]

/-- The metadata of a client with these URIs. -/
def metadataOfMixed (method : String) : Entries Value :=
  Entries.ofList [("token_endpoint_auth_method", .text method), (postLogoutClaim, .list mixedUris)]

/-- Of a public client the URI that is not secure is refused, and of another one the URI that cannot be
read. A single text is refused as it is. -/
theorem metadataOfMixed_refuses_first :
    checkMetadata .strict Entries.empty (metadataOfMixed "none") = .error .insecureUri ∧
    checkMetadata .strict Entries.empty (metadataOfMixed "client_secret_basic") =
      .error (.check (.refused (.invalid "post_logout_redirect_uris" .notAdmitted))) ∧
    checkMetadata .strict Entries.empty
        (Entries.ofList [(postLogoutClaim, .text "https://client.test/ended")]) =
      .error (.check (.refused (.invalid "post_logout_redirect_uris" .notAdmitted))) := by
  have fine (method : String) :
      ¬ IsRefused .strict (metadataOfMixed method) (.text "https://client.test/ended") := by
    rw [isRefused_iff, ne_eq, Classical.not_not, checkUri_isPublic_eq_ok_iff]
    exact ⟨_, rfl, by decide +kernel, fun _ => by decide +kernel⟩
  have insecure : IsRefusedAs .strict (metadataOfMixed "none") (.text "http://client.test/ended")
      .insecureUri := by
    obtain ⟨parts, read, address, _⟩ :=
      (isAcceptable_iff true "http://client.test/ended").mp (by decide +kernel)
    exact .insecure read address rfl (by decide +kernel)
  have fine' : ¬ IsRefused .strict (metadataOfMixed "client_secret_basic")
      (.text "http://client.test/ended") := by
    rw [isRefused_iff, ne_eq, Classical.not_not, checkUri_isPublic_eq_ok_iff]
    refine ⟨_, rfl, by decide +kernel, fun isPublic => ?_⟩
    have found : (metadataOfMixed "client_secret_basic").get? "token_endpoint_auth_method" =
      some (.text "client_secret_basic") := rfl
    simp [found] at isPublic
  have unread : Parts.read ("https://[::1/ended" : Text).toList = .error .brackets := rfl
  have unreadable : IsRefusedAs .strict (metadataOfMixed "client_secret_basic")
      (.text "https://[::1/ended")
      (.check (.refused (.invalid "post_logout_redirect_uris" .notAdmitted))) := .unreadable unread
  have firstOfPublic : IsFirst (IsRefused .strict (metadataOfMixed "none")) mixedUris
      (.text "http://client.test/ended") :=
    ⟨[.text "https://client.test/ended"], _, rfl, by simpa using fine "none", ⟨_, insecure⟩⟩
  have firstOfOther : IsFirst (IsRefused .strict (metadataOfMixed "client_secret_basic")) mixedUris
      (.text "https://[::1/ended") :=
    ⟨[.text "https://client.test/ended", .text "http://client.test/ended"], _, rfl,
      by simpa using ⟨fine "client_secret_basic", fine'⟩, ⟨_, unreadable⟩⟩
  refine ⟨?_, ?_, ?_⟩
  · exact (((checkMetadata_refuses_first rfl rfl).2 mixedUris (Or.inl rfl)).1 _).mpr
      ⟨_, firstOfPublic, insecure⟩
  · exact (((checkMetadata_refuses_first rfl rfl).2 mixedUris (Or.inl rfl)).1 _).mpr
      ⟨_, firstOfOther, unreadable⟩
  · exact (checkMetadata_refuses_first rfl rfl).1 (by simp)

end EndSession.Client
