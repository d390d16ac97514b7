import EndSession.Uri.Acceptance

/-
This file tells what a URI looks like that is acceptable and secure: it is reached by https, or by
http on this machine, and its authority names nobody. Both properties are those of one reading of the
URI, after blanks, tabs and line ends are gone and the scheme is in lower case.
-/

namespace EndSession

open Text

namespace Net.Address

/-- An address of this machine: of the block of IPv4 addresses that starts with 127, the IPv6 address
one, or one of that block mapped to IPv6. -/
inductive IsLocal : Address → Prop where
  | block (b c d : Nat) : IsLocal (.v4 [127, b, c, d])
  | one : IsLocal (.v6 [0, 0, 0, 0, 0, 0, 0, 1])
  | mapped (b low : Nat) (octet : b < 256) :
      IsLocal (.v6 [0, 0, 0, 0, 0, 0xFFFF, 256 * 127 + b, low])

/-- Every IPv4 address has four octets. -/
theorem length_readOctets {text : List CodePoint} {octets : List Nat}
    (read : readOctets? text = some octets) : octets.length = 4 := by
  unfold readOctets? at read
  split at read
  · simp only [List.mapM_cons, List.mapM_nil, Option.bind_eq_bind, Option.pure_def,
      Option.bind_eq_some_iff, Option.some.injEq] at read
    obtain ⟨a, _, _, ⟨b, _, _, ⟨c, _, _, ⟨d, _, _, rfl, rfl⟩, rfl⟩, rfl⟩, rfl⟩ := read
    rfl
  · cases read

/-- An address that is read has four octets or eight groups. -/
theorem length_of_read {text : List CodePoint} {address : Address} (read : read? text = some address) :
    (∃ octets, address = .v4 octets ∧ octets.length = 4) ∨
      ∃ groups, address = .v6 groups ∧ groups.length = 8 := by
  unfold read? at read
  split at read
  · cases read
  · split at read
    · rename_i octets found
      cases read
      exact Or.inl ⟨octets, rfl, length_readOctets found⟩
    · obtain ⟨groups, found, rfl⟩ := Option.map_eq_some_iff.mp read
      refine Or.inr ⟨groups, rfl, ?_⟩
      unfold readZoned? at found
      split at found
      · dsimp only at found
        split at found
        · cases found
        · exact length_readGroups found
      · exact length_readGroups found

/-- A loopback address that is read is one of this machine. -/
theorem isLocal_of_isLoopback {text : List CodePoint} {address : Address}
    (read : read? text = some address) (loopback : address.isLoopback = true) : IsLocal address := by
  rcases length_of_read read with ⟨octets, rfl, four⟩ | ⟨groups, rfl, eight⟩
  · match octets, four with
    | [a, b, c, d], _ =>
        have first : a = 127 := by simpa [isLoopback, isLoopbackOctets] using loopback
        rw [first]
        exact .block b c d
  · match groups, eight with
    | [a, b, c, d, e, f, g, h], _ =>
        have kinds : (a = 0 ∧ b = 0 ∧ c = 0 ∧ d = 0 ∧ e = 0 ∧ f = 0 ∧ g = 0 ∧ h = 1) ∨
            (a = 0 ∧ b = 0 ∧ c = 0 ∧ d = 0 ∧ e = 0 ∧ f = 0xFFFF) ∧ g / 256 = 127 := by
          simpa [isLoopback, isLoopbackOctets] using loopback
        rcases kinds with ⟨rfl, rfl, rfl, rfl, rfl, rfl, rfl, rfl⟩ |
          ⟨⟨rfl, rfl, rfl, rfl, rfl, rfl⟩, high⟩
        · exact .one
        · have whole : g = 256 * 127 + g % 256 := by omega
          rw [whole]
          exact .mapped (g % 256) h (Nat.mod_lt g (by decide))

end Net.Address

namespace Uri

/-- The text in front of the last at sign of an authority, if it has one. -/
def Authority.userInformation? (authority : List CodePoint) : Option (List CodePoint) :=
  if authority.contains '@' then some (after '@' authority.reverse).reverse else none

namespace Parts

/-- The user that the authority names: the information up to its first colon. -/
def userName? (parts : Parts) : Option (List CodePoint) :=
  (Authority.userInformation? parts.authority).map (before ':')

/-- The password that the authority gives: the information behind its first colon. -/
def password? (parts : Parts) : Option (List CodePoint) :=
  (Authority.userInformation? parts.authority).bind fun information =>
    if information.contains ':' then some (after ':' information) else none

/-- The last at sign ends the information, and its first colon the name. -/
example :
    let parts : Parts :=
      ⟨("https" : Text).toList, ("user:se:cr@et@client.test" : Text).toList, [], [], [], []⟩
    parts.userName? = some ("user" : Text).toList ∧
      parts.password? = some ("se:cr@et" : Text).toList := by
  decide

/-- The parts lead to a host over https, or over http to this machine by its name or an address of
it, and give no name and no password away. -/
structure IsSafe (parts : Parts) : Prop where
  hosted : parts.host ≠ []
  transport : parts.scheme = ("https" : Text).toList ∨ parts.scheme = ("http" : Text).toList ∧
    (parts.host.map CodePoint.toLower = ("localhost" : Text).toList ∨
      ∃ address, Net.Address.read? parts.host = some address ∧ address.IsLocal)
  userName : parts.userName? = none
  password : parts.password? = none

end Parts

/-- A host of this machine is its name or an address of it. -/
theorem local_of_isLoopbackHost {host : List CodePoint} (loopback : isLoopbackHost host = true) :
    host.map CodePoint.toLower = ("localhost" : Text).toList ∨
      ∃ address, Net.Address.read? host = some address ∧ address.IsLocal := by
  unfold isLoopbackHost at loopback
  rw [Bool.or_eq_true, beq_iff_eq, Option.any_eq_true] at loopback
  rcases loopback with name | ⟨address, read, here⟩
  · exact Or.inl name
  · exact Or.inr ⟨address, read, Net.Address.isLocal_of_isLoopback read here⟩

/-- An acceptable URI that is secure under the strict policy leads to a safe place. -/
theorem isSafe_of_isSecure {fragmentAllowed : Bool} {uri : Text}
    (acceptable : isAcceptable fragmentAllowed uri = true) (secure : isSecure .strict uri = true) :
    ∃ parts, Parts.read uri.toList = .ok parts ∧ parts.IsSafe := by
  obtain ⟨parts, done, address, _⟩ := (isAcceptable_iff fragmentAllowed uri).mp acceptable
  have none : Authority.userInformation? parts.authority = none := by
    simp [Authority.userInformation?, address.unnamed]
  simp only [isSecure, done, Parts.isSecure, Bool.and_eq_true, Bool.not_eq_true',
    List.isEmpty_eq_false_iff, Bool.or_eq_true, beq_iff_eq] at secure
  obtain ⟨hosted, transport⟩ := secure
  refine ⟨parts, done, hosted, ?_, ?_, ?_⟩
  · exact transport.imp_right fun plain => ⟨plain.1, local_of_isLoopbackHost plain.2⟩
  · simp [Parts.userName?, none]
  · simp [Parts.password?, none]

end Uri

end EndSession
