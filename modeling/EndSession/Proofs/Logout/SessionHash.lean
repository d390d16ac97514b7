import EndSession.Proofs.Digest.Base64Url
import EndSession.Proofs.Logout.Consultation
import EndSession.Proofs.Logout.Decisions
import EndSession.Proofs.Provider.Grounds

/-
This file tells what the hash of a session's id is as a text, and that it is the only text by which a
token can name this session.
-/

namespace EndSession.Logout

open Session Claims Consultation Digest Provider

/-- A token with these claims passes the check of the session that the request is made in. -/
def PassesSession (stores : Stores) (request : Request) (claims : Entries Value) : Prop :=
  ∃ found, (validateSession stores request claims).outcome = .ok found

/-- The text writes the digest of the id in base64url without padding, in the only way without bits
that no octet takes. -/
structure IsHashText (sessionId text : String) : Prop where
  length : text.length = 43
  urlSafe : ∀ char ∈ text.toList, Base64Url.IsUrlSafe char
  length_digest : (Sha256.digest (Text.Utf8.encode sessionId.toList)).length = 32
  read : Base64Url.decode text.toList = some (Sha256.digest (Text.Utf8.encode sessionId.toList))
  written : ∀ octets, Base64Url.decode text.toList = some octets →
    String.ofList (Base64Url.encode octets) = text
  unique : ∀ other : String, Base64Url.decode other.toList = Base64Url.decode text.toList →
    Base64Url.IsCanonical other.toList → other = text

/-- The hash of the octets of an id is such a text. -/
theorem isHashText_hashOctets (sessionId : String) :
    IsHashText sessionId (hashOctets (Text.Utf8.encode sessionId.toList)) := by
  have characters : (hashOctets (Text.Utf8.encode sessionId.toList)).toList =
      Base64Url.encode (Sha256.digest (Text.Utf8.encode sessionId.toList)) := String.toList_ofList
  have read : Base64Url.decode (hashOctets (Text.Utf8.encode sessionId.toList)).toList =
      some (Sha256.digest (Text.Utf8.encode sessionId.toList)) := by
    rw [characters, Base64Url.decode_encode]
  constructor
  · rw [← String.length_toList, characters, Base64Url.length_encode, Sha256.length_digest]
  · intro char member
    exact Base64Url.isUrlSafe_of_mem_encode (characters ▸ member)
  · exact Sha256.length_digest _
  · exact read
  · intro octets readAgain
    cases read.symm.trans readAgain
    rfl
  · intro other same canonical
    have written := (Base64Url.encode_eq_iff_isCanonical (same.trans read)).mpr canonical
    rw [← String.toList_inj, characters, written]

/-- Octets have the same hash when their digests are the same. -/
theorem hashOctets_eq_iff {first second : List UInt8} :
    hashOctets first = hashOctets second ↔ Sha256.digest first = Sha256.digest second := by
  unfold hashOctets
  rw [String.ofList_inj, Base64Url.encode_injective.eq_iff]

/-- No hash is empty. -/
theorem isTrue_of_isHashOf {value : Value} {sessionId : Text} (isHash : IsHashOf value sessionId) :
    value.isTrue = true := by
  obtain ⟨content, rfl⟩ := isHash.isUnicode
  rw [(isHashOf_ofString value content).mp isHash]
  have length := (isHashText_hashOctets content).length
  have filled : hashOctets (Text.Utf8.encode content.toList) ≠ "" := by
    intro empty
    rw [empty] at length
    cases length
  simpa [Value.isTrue] using filled

/-- With a current session, a token passes exactly with the hash of the session's id. -/
theorem passesSession_iff {stores : Stores} {request : Request} {sessions : List Record}
    {session : Record} (answered : stores.sessions request.principal false = .ok sessions)
    (current : IsCurrent request sessions session) (claims : Entries Value) :
    PassesSession stores request claims ↔ IsHashOf (valueOf claims "sid") session.sessionId := by
  obtain ⟨record, looked⟩ := Option.ne_none_iff_exists'.mp (currentSession_ne_none current)
  have sessionId := (isCurrent_of_currentSession looked).sessionId_eq current
  have tied (found : Option Record) : (validateSession stores request claims).outcome = .ok found ↔
      tieSession claims (some record) = .ok found := by
    simp [validateSession, bind_eq_ok_iff, answered, looked]
  simp only [PassesSession, tied, tieSession_eq_ok_iff, Option.mem_def, Option.some.injEq, forall_eq',
    sessionId]
  constructor
  · rintro ⟨found, _, _, hashed⟩
    exact hashed
  · intro hashed
    exact ⟨some record, rfl, isTrue_of_isHashOf hashed, hashed⟩

/-- Every id of characters has a hash, which is its digest in forty-three URL-safe characters. Another
id has the same hash only with the same digest. A token passes for a current session with this id
exactly when it carries this very text: no other text, and no other value, stands for the session. -/
theorem hash_is_the_only_text_of_its_session (sessionId : String) :
    ∃ text : String, hashValue (.text sessionId) = .ok text ∧ IsHashText sessionId text ∧
      (∀ other : String, hashValue (.text other) = .ok text ↔
        Sha256.digest (Text.Utf8.encode other.toList) =
          Sha256.digest (Text.Utf8.encode sessionId.toList)) ∧
      ∀ (stores : Stores) (request : Request) (sessions : List Record) (session : Record),
        stores.sessions request.principal false = .ok sessions →
        IsCurrent request sessions session → session.sessionId = sessionId →
        ∀ claims, PassesSession stores request claims ↔ claims.get? "sid" = some (.text text) := by
  refine ⟨_, sessionHash_ofString sessionId, isHashText_hashOctets sessionId, ?_, ?_⟩
  · intro other
    change sessionHash other = _ ↔ _
    rw [sessionHash_ofString, Except.ok.injEq]
    exact hashOctets_eq_iff
  · intro stores request sessions session answered current same claims
    rw [passesSession_iff answered current, same, isHashOf_ofString, valueOf_eq_text_iff]

/-- The hash of the id "session-1" but for a bit that no octet takes. -/
def hashWithSpareBit : String := "hAl4KPwxqMjSkhDfSJAahd5_0BP2hrF7530b4py3qYt"

/-- A text of the same digest with a spare bit set does not name the session. -/
theorem spare_bit_names_no_session :
    ∃ text sessions session,
      providerOfSession.stores.sessions requestInSession.principal false = .ok sessions ∧
      IsCurrent requestInSession sessions session ∧ session.sessionId = ("session-1" : Text) ∧
      hashValue (.text "session-1") = .ok text ∧
      Base64Url.decode hashWithSpareBit.toList = Base64Url.decode text.toList ∧
      PassesSession providerOfSession.stores requestInSession (Entries.ofList [("sid", .text text)]) ∧
      ¬ PassesSession providerOfSession.stores requestInSession
        (Entries.ofList [("sid", .text hashWithSpareBit)]) := by
  obtain ⟨text, hashed, isHash, _, passes⟩ := hash_is_the_only_text_of_its_session "session-1"
  have answered : providerOfSession.stores.sessions requestInSession.principal false =
      .ok [⟨.authenticated (some "principal"), "session-1", false⟩] := by decide +kernel
  have current : IsCurrent requestInSession
      [⟨.authenticated (some "principal"), "session-1", false⟩]
      ⟨.authenticated (some "principal"), "session-1", false⟩ :=
    ⟨List.mem_singleton_self _, rfl, by decide⟩
  have digest : Base64Url.decode hashWithSpareBit.toList =
      some (Sha256.digest (Text.Utf8.encode "session-1".toList)) := by decide +kernel
  have different : hashOctets (Text.Utf8.encode "session-1".toList) ≠ hashWithSpareBit := by
    decide +kernel
  have onlyText := passes _ _ _ _ answered current rfl
  refine ⟨text, _, _, answered, current, rfl, hashed, digest.trans isHash.read.symm, ?_, ?_⟩
  · exact (onlyText _).mpr rfl
  · intro accepted
    have carried : some (Value.text hashWithSpareBit) = some (.text text) := (onlyText _).mp accepted
    have same := Text.ofString_inj.mp (Value.text.inj (Option.some.inj carried))
    cases hashed.symm.trans (sessionHash_ofString "session-1")
    exact different same.symm

end EndSession.Logout
