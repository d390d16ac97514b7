import EndSession.Client.Metadata

/-
This file holds registered clients. A post-logout redirect URI is accepted when it is, character for
character, one of those that were registered.
-/

namespace EndSession.Client

open Claims

/-- A registered client. -/
structure RegisteredClient where
  /-- The name of the client in the registry. -/
  id : String
  /-- The name that the client goes by in requests and tokens. -/
  clientId : Text
  redirectUris : List Value
  postLogoutRedirectUris : List Text

/-- A client cannot be registered. -/
inductive RegistrationFault where
  | metadata (fault : MetadataFault)
  /-- The redirect URIs do not form a set. -/
  | misuse (misuse : Value.Misuse)

namespace RegisteredClient

/-- The members of a set made from a value, in which equal members are one. -/
def members (value : Value) : Except Value.Misuse (List Value) :=
  if !value.isTrue then .ok []
  else
    match value.items with
    | .error misuse => .error misuse
    | .ok items =>
      if Value.areKeys items then
        match Value.ofItems true items with
        | .set _ members => .ok members
        | _ => .ok items
      else .error .kind

/-- The texts of a list or a tuple of texts. -/
def textsOf (value : Value) : List Text :=
  ((sequence? value).bind Value.texts?).getD []

/-- The client that the metadata describes, once the metadata has passed its checks. -/
def fromMetadata (policy : Uri.TransportPolicy) (id : String) (clientId : Text)
    (metadata : Entries Value) : Except RegistrationFault RegisteredClient :=
  match checkMetadata policy Entries.empty metadata with
  | .error fault => .error (.metadata fault)
  | .ok () =>
    match members (valueOf metadata "redirect_uris") with
    | .error misuse => .error (.misuse misuse)
    | .ok redirectUris =>
      .ok ⟨id, clientId, redirectUris, textsOf (valueOf metadata postLogoutClaim)⟩

/-- The post-logout redirect URI is registered. -/
def accepts (client : RegisteredClient) (uri : Text) : Bool :=
  client.postLogoutRedirectUris.contains uri

/-- A value of any kind is registered. Only what can be sought in a set can be asked for. -/
def acceptsValue (client : RegisteredClient) (value : Value) : Except Value.Misuse Bool :=
  if !value.canBeSought then .error .kind
  else
    match value with
    | .text uri => .ok (client.accepts uri)
    | _ => .ok false

/-- The order in which members of a set are listed: numbers by size, then texts by their code
points. -/
def listedBefore (left right : Value) : Bool :=
  match left.number?, right.number? with
  | some small, some large => !large.less small
  | some _, none => true
  | none, some _ => false
  | none, none =>
    match left.text?, right.text? with
    | some early, some late => early.isOrdered late
    | _, _ => true

/-- The redirect URIs in order, each once. -/
def listedRedirectUris (client : RegisteredClient) : List Value :=
  client.redirectUris.mergeSort listedBefore

/-- The post-logout redirect URIs in order, each once. -/
def listedPostLogoutRedirectUris (client : RegisteredClient) : List Text :=
  client.postLogoutRedirectUris.eraseDups.mergeSort Text.isOrdered

/-- A URI is accepted exactly when it is one of those that are kept. -/
theorem accepts_iff (client : RegisteredClient) (uri : Text) :
    client.accepts uri = true ↔ uri ∈ client.postLogoutRedirectUris := by
  simp [accepts]

end RegisteredClient

end EndSession.Client
