import EndSession.Proofs.Client.Registration
import EndSession.Proofs.Uri.Transport

/-
This file proves that a public client never has the end user sent to an unsafe place: whatever its
metadata lists, each post-logout redirect URI that the registered client accepts is a safe one.
-/

namespace EndSession.Client

open Claims Uri

/-- What a client accepts of values of any kind is one of its registered texts. -/
theorem registered_of_acceptsValue {client : RegisteredClient} {value : Value}
    (accepted : client.acceptsValue value = .ok true) :
    ∃ uri, value = .text uri ∧ uri ∈ client.postLogoutRedirectUris := by
  unfold RegisteredClient.acceptsValue at accepted
  split at accepted
  · cases accepted
  · split at accepted
    · rename_i uri _
      exact ⟨uri, rfl, (client.accepts_iff uri).mp (Except.ok.inj accepted)⟩
    · cases accepted

/-- A client that cannot authenticate accepts only safe URIs, unless transport without encryption is
allowed by a setting that is not empty. -/
theorem public_client_accepts_only_safe {setting : Option String}
    (strict : setting = none ∨ setting = some "") {metadata : Entries Value}
    (unauthenticated : metadata.get? "token_endpoint_auth_method" = some (.text "none"))
    {id : String} {clientId : Text} {client : RegisteredClient}
    (registered : RegisteredClient.fromMetadata (.ofSetting (setting.getD "")) id clientId metadata =
      .ok client) {value : Value} (accepted : client.acceptsValue value = .ok true) :
    ∃ uri parts, value = .text uri ∧ Parts.read uri.toList = .ok parts ∧ parts.IsSafe := by
  obtain ⟨uri, rfl, member⟩ := registered_of_acceptsValue accepted
  have policy : TransportPolicy.ofSetting (setting.getD "") = .strict := by
    rcases strict with rfl | rfl <;> rfl
  rw [policy] at registered
  have isPublic : isPublic metadata = true := by
    simp [Client.isPublic, valueOf, unauthenticated]
  have checked := checkUri_of_registered registered member
  obtain ⟨same, text, acceptable, secure⟩ := (checkUri_eq_ok_iff .strict _ _).mp checked
  cases text
  obtain ⟨parts, done, safe⟩ := isSafe_of_isSecure acceptable (secure isPublic)
  exact ⟨uri, parts, rfl, done, safe⟩

/-- A URI of this machine with blanks in front, a tab in its scheme, a line end in its host, letters
of both cases, and marks of a user and of parameters in its path. -/
def disguisedUri : Text := "  Ht\ttP://[::FFFF:127.0.0.1]:80\n80/ended@client.test;user:password@b"

/-- The metadata of a public client with this URI. -/
def metadataOfPublicClient : Entries Value :=
  Entries.ofList [("token_endpoint_auth_method", .text "none"),
    (postLogoutClaim, .tuple [.text "https://client.test/ended", .text disguisedUri])]

/-- The disguised URI is accepted, and is one of this machine. -/
theorem disguised_uri_is_safe :
    ∃ client parts,
      RegisteredClient.fromMetadata (.ofSetting "") "registration-1" "client-1"
        metadataOfPublicClient = .ok client ∧
      client.acceptsValue (.text disguisedUri) = .ok true ∧
      Parts.read disguisedUri.toList = .ok parts ∧ parts.scheme = ("http" : Text).toList ∧
        parts.IsSafe := by
  have computed : (RegisteredClient.fromMetadata (.ofSetting "") "registration-1" "client-1"
      metadataOfPublicClient).toOption.map RegisteredClient.postLogoutRedirectUris =
        some [("https://client.test/ended" : Text), disguisedUri] := by
    decide +kernel
  have scheme : (Parts.read disguisedUri.toList).toOption.map Parts.scheme =
      some ("http" : Text).toList := by
    decide +kernel
  cases registered : RegisteredClient.fromMetadata (.ofSetting "") "registration-1" "client-1"
      metadataOfPublicClient with
  | error fault =>
      rw [registered] at computed
      cases computed
  | ok client =>
      rw [registered] at computed
      have kept : client.postLogoutRedirectUris = [("https://client.test/ended" : Text), disguisedUri] :=
        Option.some.inj computed
      have accepted : client.acceptsValue (.text disguisedUri) = .ok true := by
        have accepts := (client.accepts_iff disguisedUri).mpr (by simp [kept])
        exact congrArg Except.ok accepts
      have unset : (none : Option String) = none ∨ (none : Option String) = some "" := Or.inl rfl
      obtain ⟨uri, parts, same, done, safe⟩ :=
        public_client_accepts_only_safe unset rfl registered accepted
      cases same
      rw [done] at scheme
      exact ⟨client, parts, rfl, accepted, done, Option.some.inj scheme, safe⟩

end EndSession.Client
