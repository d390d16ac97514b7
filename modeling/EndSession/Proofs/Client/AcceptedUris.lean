import EndSession.Proofs.Client.Registration

/-
This file proves that a registered client accepts exactly the post-logout redirect URIs that its
metadata lists, all of which were checked, and that checked metadata always makes a client.
-/

namespace EndSession.Client

open Claims

/-- The metadata has nothing to register as post-logout redirect URIs. -/
def ListsNone (metadata : Entries Value) : Prop :=
  ∀ value, metadata.get? "post_logout_redirect_uris" = some value → value.isTrue = false

/-- The metadata lists these post-logout redirect URIs, and all of them may be registered. -/
structure ListsAll (policy : Uri.TransportPolicy) (metadata : Entries Value) (uris : List Text) :
    Prop where
  listed : ∃ value, metadata.get? "post_logout_redirect_uris" = some value ∧ Lists value uris
  each : ∀ uri ∈ uris, MayRegister policy metadata uri

theorem listsNone_iff (metadata : Entries Value) :
    ListsNone metadata ↔ (valueOf metadata postLogoutClaim).isTrue = false := by
  unfold ListsNone valueOf
  change _ ↔ ((metadata.get? "post_logout_redirect_uris").getD .null).isTrue = false
  cases metadata.get? "post_logout_redirect_uris" <;> simp [Value.isTrue]

theorem listsAll_iff (policy : Uri.TransportPolicy) (metadata : Entries Value) (uris : List Text) :
    ListsAll policy metadata uris ↔
      Lists (valueOf metadata postLogoutClaim) uris ∧ ∀ uri ∈ uris, MayRegister policy metadata uri := by
  have found : (∃ value, metadata.get? "post_logout_redirect_uris" = some value ∧ Lists value uris) ↔
      Lists (valueOf metadata postLogoutClaim) uris := by
    change _ ↔ Lists ((metadata.get? "post_logout_redirect_uris").getD .null) uris
    cases metadata.get? "post_logout_redirect_uris" with
    | none => simp [lists_iff, sequence?]
    | some value => simp
  rw [← found]
  exact ⟨fun all => ⟨all.listed, all.each⟩, fun ⟨listed, each⟩ => ⟨listed, each⟩⟩

/-- Texts form a set. -/
theorem exists_members_of_texts (texts : List Text) :
    ∃ members, RegisteredClient.members (.list (texts.map .text)) = .ok members := by
  have keys : Value.areKeys (texts.map .text) = true := by
    induction texts with
    | nil => rfl
    | cons text texts inductionHypothesis => simp [Value.areKeys, Value.isKey, inductionHypothesis]
  unfold RegisteredClient.members
  split
  · exact ⟨[], rfl⟩
  · simp [Value.items, keys, Value.ofItems]

/-- Of texts a client accepts those that it keeps. -/
theorem acceptsValue_text (client : RegisteredClient) (uri : Text) :
    client.acceptsValue (.text uri) = .ok (decide (uri ∈ client.postLogoutRedirectUris)) := by
  simp [RegisteredClient.acceptsValue, RegisteredClient.accepts, Value.canBeSought, Value.isKey]

/-- A client that was registered accepts no post-logout redirect URI where its metadata has none, and
otherwise exactly the listed ones, character for character, each of which may be registered. Metadata
that has none, or lists only such URIs, makes a client, as long as its redirect URIs are absent or a
list of texts. -/
theorem fromMetadata_accepts_exactly (policy : Uri.TransportPolicy) (id : String)
    (clientId : Text) (metadata : Entries Value) :
    (∀ client, RegisteredClient.fromMetadata policy id clientId metadata = .ok client →
      (ListsNone metadata ∧ ∀ uri, client.acceptsValue (.text uri) = .ok false) ∨
      ∃ uris, ListsAll policy metadata uris ∧
        ∀ uri, client.acceptsValue (.text uri) = .ok (decide (uri ∈ uris))) ∧
    ((ListsNone metadata ∨ ∃ uris, ListsAll policy metadata uris) →
      (metadata.get? "redirect_uris" = none ∨
        ∃ texts : List Text, metadata.get? "redirect_uris" = some (.list (texts.map .text))) →
      ∃ client, RegisteredClient.fromMetadata policy id clientId metadata = .ok client) := by
  simp only [listsNone_iff, listsAll_iff, acceptsValue_text, fromMetadata_eq_ok_iff,
    checkPostLogout_eq_ok_iff]
  constructor
  · rintro client ⟨checked, redirectUris, _, rfl⟩
    rcases checked with unfilled | ⟨uris, lists, each⟩
    · refine Or.inl ⟨unfilled, fun uri => ?_⟩
      simp [textsOf_of_unfilled unfilled]
    · refine Or.inr ⟨uris, ⟨lists, each⟩, fun uri => ?_⟩
      simp only [textsOf_of_lists lists]
  · intro checked redirects
    obtain ⟨redirectUris, made⟩ : ∃ redirectUris,
        RegisteredClient.members (valueOf metadata "redirect_uris") = .ok redirectUris := by
      rcases redirects with absent | ⟨texts, listed⟩
      · exact ⟨[], by simp [valueOf, absent, RegisteredClient.members, Value.isTrue]⟩
      · rw [valueOf, listed]
        exact exists_members_of_texts texts
    exact ⟨_, checked, redirectUris, made, rfl⟩

/-- The post-logout redirect URIs of a public client, one of them on its own machine. -/
def endedUris : List Text := ["https://client.test/ended", "http://[::1]:8080/ended"]

/-- The metadata of this client. -/
def metadataOfTuple : Entries Value :=
  Entries.ofList [("redirect_uris", .list ([("https://client.test/callback" : Text)].map .text)),
    ("token_endpoint_auth_method", .text "none"), (postLogoutClaim, .tuple (endedUris.map .text))]

/-- The client is registered, and accepts a URI of the tuple, but not one with a slash more. -/
theorem metadataOfTuple_accepts_exactly :
    ∃ client, RegisteredClient.fromMetadata .strict "registration-1" "client-1" metadataOfTuple =
        .ok client ∧
      client.acceptsValue (.text "http://[::1]:8080/ended") = .ok true ∧
      client.acceptsValue (.text "http://[::1]:8080/ended/") = .ok false := by
  obtain ⟨accepts, registers⟩ :=
    fromMetadata_accepts_exactly .strict "registration-1" "client-1" metadataOfTuple
  have each : ∀ uri ∈ endedUris, MayRegister .strict metadataOfTuple uri := by
    simp only [endedUris, List.forall_mem_cons]
    exact ⟨⟨by decide +kernel, fun _ => by decide +kernel⟩,
      ⟨by decide +kernel, fun _ => by decide +kernel⟩, nofun⟩
  have all : ListsAll .strict metadataOfTuple endedUris := ⟨⟨_, rfl, .tuple endedUris⟩, each⟩
  obtain ⟨client, registered⟩ := registers (Or.inr ⟨endedUris, all⟩) (Or.inr ⟨_, rfl⟩)
  rcases accepts client registered with ⟨none, _⟩ | ⟨uris, ⟨⟨value, found, lists⟩, _⟩, exactly⟩
  · cases none _ rfl
  · cases found
    have same := (textsOf_of_lists lists).symm.trans (textsOf_of_lists (.tuple endedUris))
    rw [same] at exactly
    exact ⟨client, registered, exactly _, exactly _⟩

end EndSession.Client
