import EndSession.Digest.Base64Url
import EndSession.Digest.Sha256
import EndSession.Session.Principal
import EndSession.Value.Octets

/-
This file holds the sessions of end users, and the hash by which a token names a session.
-/

namespace EndSession.Session

/-- A session of an end user. -/
structure Record where
  principal : Principal
  sessionId : Text
  expired : Bool
deriving DecidableEq

/-- The hash of octets: their digest as text. -/
def hashOctets (octets : List UInt8) : String :=
  String.ofList (Digest.Base64Url.encode (Digest.Sha256.digest octets))

/-- The hash of a value of any kind that has octets. -/
def hashValue (sessionId : Value) : Except Value.Misuse String :=
  match sessionId.toOctets with
  | .error misuse => .error misuse
  | .ok octets => .ok (hashOctets octets)

/-- The hash of a session's id, which a token carries in its place. An id that holds a surrogate has
none. -/
def sessionHash (sessionId : Text) : Except Value.Misuse String :=
  hashValue (.text sessionId)

/-- The value is the text of the hash of a session's id. -/
def IsHashOf (value : Value) (sessionId : Text) : Prop :=
  ∃ hash, sessionHash sessionId = .ok hash ∧ value = .text hash

/-- The hash of an id of characters is that of their octets. -/
@[simp] theorem sessionHash_ofString (content : String) :
    sessionHash content = .ok (hashOctets (Text.Utf8.encode content.toList)) := by
  simp [sessionHash, hashValue]

/-- An id is hashed exactly when it holds no surrogate. -/
theorem sessionHash_eq_surrogate_iff (sessionId : Text) :
    sessionHash sessionId = .error .surrogate ↔ ¬ sessionId.IsUnicode := by
  rw [← Value.toOctets_eq_surrogate_iff, sessionHash, hashValue]
  cases (Value.text sessionId).toOctets <;> simp

/-- Only an id without a surrogate has a hash. -/
theorem IsHashOf.isUnicode {value : Value} {sessionId : Text} (isHash : IsHashOf value sessionId) :
    sessionId.IsUnicode := by
  obtain ⟨hash, hashed, _⟩ := isHash
  by_cases unicode : sessionId.IsUnicode
  · exact unicode
  · rw [(sessionHash_eq_surrogate_iff sessionId).mpr unicode] at hashed
    cases hashed

/-- The hash of an id of characters is one text. -/
theorem isHashOf_ofString (value : Value) (content : String) :
    IsHashOf value content ↔ value = .text (hashOctets (Text.Utf8.encode content.toList)) := by
  simp [IsHashOf]

end EndSession.Session
