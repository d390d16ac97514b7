import EndSession.Claims.Attribute
import EndSession.Uri.Acceptance

/-
This file checks the metadata of a client before the client is registered. Every post-logout
redirect URI must be acceptable, and that of a public client secure as well.
-/

namespace EndSession.Client

open Claims

/-- Why metadata is refused. -/
inductive MetadataFault where
  /-- A claim of the metadata did not pass its checks. -/
  | check (fault : CheckFault)
  /-- A public client has a post-logout redirect URI that is not secure. -/
  | insecureUri

/-- The message about a URI that is not secure. -/
def insecureUriMessage : String :=
  "\"post_logout_redirect_uris\" MUST use \"https\" scheme for public clients"

/-- The claim that holds the post-logout redirect URIs. -/
def postLogoutClaim : String := "post_logout_redirect_uris"

/-- The claims of metadata that can be read by their name. -/
def registeredMetadata : List String :=
  ["redirect_uris", postLogoutClaim, "token_endpoint_auth_method"]

/-- A public client has no way to authenticate. -/
def isPublic (metadata : Entries Value) : Bool :=
  (valueOf metadata "token_endpoint_auth_method").same (.text "none")

/-- The refusal of the post-logout redirect URIs. -/
def refusedUris : MetadataFault :=
  .check (.refused (.invalid postLogoutClaim .notAdmitted))

/-- One post-logout redirect URI. -/
def checkUri (policy : Uri.TransportPolicy) (clientIsPublic : Bool) (value : Value) :
    Except MetadataFault Unit :=
  match value with
  | .text uri =>
    if !Uri.isAcceptable true uri then .error refusedUris
    else if clientIsPublic && !Uri.isSecure policy uri then .error .insecureUri
    else .ok ()
  | _ => .error refusedUris

/-- The URIs in order. The first one that does not pass decides. -/
def checkUris (policy : Uri.TransportPolicy) (clientIsPublic : Bool) :
    List Value → Except MetadataFault Unit
  | [] => .ok ()
  | value :: rest =>
    match checkUri policy clientIsPublic value with
    | .error fault => .error fault
    | .ok () => checkUris policy clientIsPublic rest

/-- The items of a list or a tuple. -/
def sequence? : Value → Option (List Value)
  | .list items => some items
  | .tuple items => some items
  | _ => none

/-- The post-logout redirect URIs, which may be absent or empty. -/
def checkPostLogout (policy : Uri.TransportPolicy) (metadata : Entries Value) :
    Except MetadataFault Unit :=
  let value := valueOf metadata postLogoutClaim
  if !value.isTrue then .ok ()
  else
    match sequence? value with
    | none => .error refusedUris
    | some uris => checkUris policy (isPublic metadata) uris

/-- The requirements of the options: first the essential claims, then each claim in order. -/
def checkOptions (options : Options) (metadata : Entries Value) : Except CheckFault Unit :=
  if options.contains "self" then .error (.misuse .kind)
  else
    match options.missing metadata with
    | [] => checkAll options.checkAdmitted metadata.toList
    | absent => .error (.refused (.missing absent))

/-- The checks of metadata: the options, then the post-logout redirect URIs. -/
def checkMetadata (policy : Uri.TransportPolicy) (options : Options) (metadata : Entries Value) :
    Except MetadataFault Unit :=
  match checkOptions options metadata with
  | .error fault => .error (.check fault)
  | .ok () => checkPostLogout policy metadata

/-- All URIs pass exactly when each of them does. -/
theorem checkUris_eq_ok_iff (policy : Uri.TransportPolicy) (clientIsPublic : Bool)
    (uris : List Value) :
    checkUris policy clientIsPublic uris = .ok () ↔
      ∀ uri ∈ uris, checkUri policy clientIsPublic uri = .ok () := by
  induction uris with
  | nil => simp [checkUris]
  | cons uri rest inductionHypothesis =>
      cases outcome : checkUri policy clientIsPublic uri with
      | error fault => simp [checkUris, outcome]
      | ok done => simp [checkUris, outcome, inductionHypothesis]

end EndSession.Client
