import EndSession.Client.Registered

/-
This file tells from which metadata a client can be registered, and which post-logout redirect URIs it
then has.
-/

namespace EndSession.Client

open Claims

/-- A client is public when its metadata says that it does not authenticate. -/
theorem isPublic_iff (metadata : Entries Value) :
    isPublic metadata = true ↔
      metadata.get? "token_endpoint_auth_method" = some (.text "none") := by
  rw [isPublic, Value.same_text_right, valueOf_eq_text_iff]

/-- Without options only the post-logout redirect URIs are checked. -/
theorem checkMetadata_empty (policy : Uri.TransportPolicy) (metadata : Entries Value) :
    checkMetadata policy Entries.empty metadata = checkPostLogout policy metadata := by
  have passed : checkOptions Entries.empty metadata = .ok () := by
    have each := (checkAll_eq_ok_iff (Options.checkAdmitted Entries.empty) metadata.toList).mpr
      fun _ _ => rfl
    rw [checkOptions, Options.missing_empty, each]
    rfl
  rw [checkMetadata, passed]

/-- A URI passes when it is acceptable, and secure for a public client. -/
theorem checkUri_eq_ok_iff (policy : Uri.TransportPolicy) (clientIsPublic : Bool) (value : Value) :
    checkUri policy clientIsPublic value = .ok () ↔
      ∃ uri, value = .text uri ∧ Uri.isAcceptable true uri = true ∧
        (clientIsPublic = true → Uri.isSecure policy uri = true) := by
  cases value with
  | text uri =>
      cases acceptable : Uri.isAcceptable true uri <;> cases clientIsPublic <;>
        cases secure : Uri.isSecure policy uri <;> simp [checkUri, refusedUris, acceptable, secure]
  | _ => simp [checkUri]

/-- The value is a list or a tuple of these texts. -/
inductive Lists : Value → List Text → Prop where
  | list (texts : List Text) : Lists (.list (texts.map .text)) texts
  | tuple (texts : List Text) : Lists (.tuple (texts.map .text)) texts

theorem lists_iff (value : Value) (texts : List Text) :
    Lists value texts ↔ sequence? value = some (texts.map .text) := by
  constructor
  · intro lists
    cases lists <;> rfl
  · intro found
    unfold sequence? at found
    split at found
    · cases found
      exact .list texts
    · cases found
      exact .tuple texts
    · cases found

/-- The texts of a list or a tuple of texts are these. -/
theorem textsOf_of_lists {value : Value} {texts : List Text} (lists : Lists value texts) :
    RegisteredClient.textsOf value = texts := by
  have all := (Value.texts?_eq_some_iff (texts.map .text) texts).mpr rfl
  simp [RegisteredClient.textsOf, (lists_iff value texts).mp lists, all]

/-- A value that is not true has no texts. -/
theorem textsOf_of_unfilled {value : Value} (unfilled : value.isTrue = false) :
    RegisteredClient.textsOf value = [] := by
  cases value with
  | list items =>
      cases items with
      | nil => rfl
      | cons item items => cases unfilled
  | tuple items =>
      cases items with
      | nil => rfl
      | cons item items => cases unfilled
  | _ => rfl

/-- The URI may be registered: it is acceptable, and secure if the client is public. -/
structure MayRegister (policy : Uri.TransportPolicy) (metadata : Entries Value) (uri : Text) :
    Prop where
  acceptable : Uri.isAcceptable true uri = true
  secure : metadata.get? "token_endpoint_auth_method" = some (.text "none") →
    Uri.isSecure policy uri = true

/-- A URI passes its check when it is a text that may be registered. -/
theorem checkUri_isPublic_eq_ok_iff (policy : Uri.TransportPolicy) (metadata : Entries Value)
    (value : Value) :
    checkUri policy (isPublic metadata) value = .ok () ↔
      ∃ uri, value = .text uri ∧ MayRegister policy metadata uri := by
  rw [checkUri_eq_ok_iff, isPublic_iff]
  constructor
  · rintro ⟨uri, text, acceptable, secure⟩
    exact ⟨uri, text, acceptable, secure⟩
  · rintro ⟨uri, text, acceptable, secure⟩
    exact ⟨uri, text, acceptable, secure⟩

/-- Values are texts that have a property when they are the list of such texts. -/
theorem forall_text_iff {values : List Value} {property : Text → Prop} :
    (∀ value ∈ values, ∃ text, value = .text text ∧ property text) ↔
      ∃ texts : List Text, values = texts.map .text ∧ ∀ text ∈ texts, property text := by
  constructor
  · intro each
    induction values with
    | nil => exact ⟨[], rfl, nofun⟩
    | cons value values inductionHypothesis =>
        rw [List.forall_mem_cons] at each
        obtain ⟨⟨text, rfl, holds⟩, others⟩ := each
        obtain ⟨texts, rfl, hold⟩ := inductionHypothesis others
        exact ⟨text :: texts, rfl, List.forall_mem_cons.mpr ⟨holds, hold⟩⟩
  · rintro ⟨texts, rfl, hold⟩ value member
    obtain ⟨text, inside, rfl⟩ := List.mem_map.mp member
    exact ⟨text, rfl, hold text inside⟩

/-- The post-logout redirect URIs pass when there are none, or when they are a list or a tuple of texts
that may be registered. -/
theorem checkPostLogout_eq_ok_iff (policy : Uri.TransportPolicy) (metadata : Entries Value) :
    checkPostLogout policy metadata = .ok () ↔
      (valueOf metadata postLogoutClaim).isTrue = false ∨
        ∃ uris, Lists (valueOf metadata postLogoutClaim) uris ∧
          ∀ uri ∈ uris, MayRegister policy metadata uri := by
  unfold checkPostLogout
  simp only [lists_iff]
  cases filled : (valueOf metadata postLogoutClaim).isTrue with
  | false => simp
  | true =>
      cases sequence? (valueOf metadata postLogoutClaim) with
      | none => simp
      | some values =>
          simp [checkUris_eq_ok_iff, checkUri_isPublic_eq_ok_iff, forall_text_iff]

/-- A client is registered when the post-logout redirect URIs of its metadata pass and its redirect URIs
form a set, and its post-logout redirect URIs are then the listed ones. -/
theorem fromMetadata_eq_ok_iff {policy : Uri.TransportPolicy} {id : String} {clientId : Text}
    {metadata : Entries Value} {client : RegisteredClient} :
    RegisteredClient.fromMetadata policy id clientId metadata = .ok client ↔
      checkPostLogout policy metadata = .ok () ∧ ∃ redirectUris,
        RegisteredClient.members (valueOf metadata "redirect_uris") = .ok redirectUris ∧
          client = ⟨id, clientId, redirectUris,
            RegisteredClient.textsOf (valueOf metadata postLogoutClaim)⟩ := by
  unfold RegisteredClient.fromMetadata
  rw [checkMetadata_empty]
  cases checkPostLogout policy metadata with
  | error fault => simp
  | ok done =>
      cases RegisteredClient.members (valueOf metadata "redirect_uris") with
      | error misuse => simp
      | ok redirectUris => simp [eq_comm]

/-- Every registered post-logout redirect URI could be registered. -/
theorem mayRegister_of_registered {policy : Uri.TransportPolicy} {id : String} {clientId : Text}
    {metadata : Entries Value} {client : RegisteredClient}
    (registered : RegisteredClient.fromMetadata policy id clientId metadata = .ok client)
    {uri : Text} (member : uri ∈ client.postLogoutRedirectUris) :
    MayRegister policy metadata uri := by
  obtain ⟨checked, _, _, rfl⟩ := fromMetadata_eq_ok_iff.mp registered
  rcases (checkPostLogout_eq_ok_iff policy metadata).mp checked with unfilled | ⟨uris, lists, each⟩
  · rw [textsOf_of_unfilled unfilled] at member
    cases member
  · rw [textsOf_of_lists lists] at member
    exact each uri member

/-- Every registered post-logout redirect URI passed its check. -/
theorem checkUri_of_registered {policy : Uri.TransportPolicy} {id : String} {clientId : Text}
    {metadata : Entries Value} {client : RegisteredClient}
    (registered : RegisteredClient.fromMetadata policy id clientId metadata = .ok client)
    {uri : Text} (member : uri ∈ client.postLogoutRedirectUris) :
    checkUri policy (isPublic metadata) (.text uri) = .ok () :=
  (checkUri_isPublic_eq_ok_iff policy metadata _).mpr
    ⟨uri, rfl, mayRegister_of_registered registered member⟩

/-- Every registered post-logout redirect URI is acceptable. -/
theorem isAcceptable_of_registered {policy : Uri.TransportPolicy} {id : String} {clientId : Text}
    {metadata : Entries Value} {client : RegisteredClient}
    (registered : RegisteredClient.fromMetadata policy id clientId metadata = .ok client)
    {uri : Text} (member : uri ∈ client.postLogoutRedirectUris) :
    Uri.isAcceptable true uri = true :=
  (mayRegister_of_registered registered member).acceptable

end EndSession.Client
