import EndSession.Claims.IdToken

/-
This file holds the grants of end users to clients, with the tokens that were issued for them.
-/

namespace EndSession

open Claims

/-- A token that was issued. -/
structure Token where
  value : Text
  claims : Entries Value
  /-- The token was consumed, revoked or logged out. -/
  invalidated : Bool

namespace Token

/-- The token may still be used. -/
def isActive (token : Token) : Bool :=
  !token.invalidated

/-- A token whose claims can be stored. -/
def issue (value : Text) (claims : Entries Value) (invalidated : Bool) :
    Except ConversionFault Token :=
  match Claims.issue claims with
  | .error fault => .error fault
  | .ok stored => .ok ⟨value, stored, invalidated⟩

end Token

/-- A grant to a client, with its tokens by their type. -/
structure Authorization where
  id : String
  registeredClientId : String
  principalName : Text
  tokens : Entries Token

namespace Authorization

/-- The token of a type. -/
def token? (authorization : Authorization) (type : String) : Option Token :=
  authorization.tokens.get? type

/-- The authorization has a token of this type and value. -/
def holds (authorization : Authorization) (type : String) (value : Value) : Bool :=
  match authorization.token? type with
  | none => false
  | some token => (Value.text token.value).same value

end Authorization

/-- The type of an ID token. -/
def idTokenType : String := "id_token"

/-- The version of the library. -/
def version : String := "0.3.0"

end EndSession
