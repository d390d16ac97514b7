import EndSession.Uri.Parts

/-
This file tells which URIs are accepted: as the address of a party, and as one that is safe to send
to.
-/

namespace EndSession.Uri

/-- A URI is acceptable when it has a scheme and a host, and names no user. A fragment may be
excluded as well. -/
def isAcceptable (fragmentAllowed : Bool) (uri : Text) : Bool :=
  match Parts.read uri.toList with
  | .error _ => false
  | .ok parts =>
    !parts.authority.contains '@' && !parts.scheme.isEmpty && !parts.host.isEmpty &&
      (fragmentAllowed || parts.fragment.isEmpty)

/-- The parts have a scheme and a host, and name no user. -/
structure Parts.IsAddress (parts : Parts) : Prop where
  scheme : parts.scheme ≠ []
  host : parts.host ≠ []
  unnamed : CodePoint.char '@' ∉ parts.authority

/-- A URI is acceptable when it can be read and its parts are an address. -/
theorem isAcceptable_iff (fragmentAllowed : Bool) (uri : Text) :
    isAcceptable fragmentAllowed uri = true ↔
      ∃ parts, Parts.read uri.toList = .ok parts ∧ parts.IsAddress ∧
        (fragmentAllowed = true ∨ parts.fragment = []) := by
  unfold isAcceptable
  cases Parts.read uri.toList with
  | error fault => simp
  | ok parts =>
      simp only [Except.ok.injEq, exists_eq_left', Bool.and_eq_true, Bool.or_eq_true,
        Bool.not_eq_true', List.isEmpty_iff, List.isEmpty_eq_false_iff]
      constructor
      · rintro ⟨⟨⟨unnamed, scheme⟩, host⟩, fragment⟩
        exact ⟨⟨scheme, host, by simpa using unnamed⟩, fragment⟩
      · rintro ⟨⟨scheme, host, unnamed⟩, fragment⟩
        exact ⟨⟨⟨by simpa using unnamed, scheme⟩, host⟩, fragment⟩

/-- A URI is not acceptable when it cannot be read, or when its parts are no address. -/
theorem isAcceptable_eq_false_iff (uri : Text) :
    isAcceptable true uri = false ↔ (∃ fault, Parts.read uri.toList = .error fault) ∨
      ∃ parts, Parts.read uri.toList = .ok parts ∧ ¬ parts.IsAddress := by
  rw [← Bool.not_eq_true, isAcceptable_iff]
  cases Parts.read uri.toList <;> simp

/-- Whether transport without encryption is allowed everywhere. -/
inductive TransportPolicy where
  | strict
  | relaxed
deriving DecidableEq

/-- Any text in the setting relaxes the policy. -/
def TransportPolicy.ofSetting (setting : String) : TransportPolicy :=
  if setting = "" then strict else relaxed

/-- The host is this machine by its name or by its address. -/
def isLoopbackHost (host : List CodePoint) : Bool :=
  host.map CodePoint.toLower == ("localhost" : Text).toList ||
    (Net.Address.read? host).any Net.Address.isLoopback

/-- The parts name a host, and reach it by https, or by http on this machine. -/
def Parts.isSecure (parts : Parts) : Bool :=
  !parts.host.isEmpty &&
    (parts.scheme == ("https" : Text).toList ||
      parts.scheme == ("http" : Text).toList && isLoopbackHost parts.host)

/-- A URI is secure when its parts are, or when the policy is relaxed. -/
def isSecure (policy : TransportPolicy) (uri : Text) : Bool :=
  match policy with
  | .relaxed => true
  | .strict =>
    match Parts.read uri.toList with
    | .error _ => false
    | .ok parts => parts.isSecure

end EndSession.Uri
