import EndSession.Claims.Conversion
import EndSession.Claims.Requirement

/-
This file checks the claims of an ID token that is presented as a hint. An expired token passes; one
that is not yet valid or was issued in the future does not.
-/

namespace EndSession.Claims

open Number Calendar

/-- What the name of a claim asks of its value. -/
inductive Rule where
  | stringOrUri
  | identifier
  | audience
  | notBefore
  | issuedAt
  | expiry
  | free
deriving DecidableEq

/-- The rule of a claim. -/
def ruleOf (claim : String) : Rule :=
  if claim = "iss" ∨ claim = "sub" then .stringOrUri
  else if claim = "jti" then .identifier
  else if claim = "aud" then .audience
  else if claim = "nbf" then .notBefore
  else if claim = "iat" then .issuedAt
  else if claim = "exp" then .expiry
  else .free

/-- The value is a text. -/
def isText (value : Value) : Bool :=
  value.text?.isSome

/-- The value is a text or a list of texts. -/
def isAudience : Value → Bool
  | .text _ => true
  | .list items => items.all isText
  | _ => false

/-- The value is a finite number. A truth value is none. -/
def isFiniteNumber : Value → Bool
  | .number number => number.isFinite
  | _ => false

/-- Why the kind of a value is refused under a rule. -/
def shapeFault? (rule : Rule) (value : Value) : Option Reason :=
  match rule with
  | .stringOrUri => if isText value then none else some .notStringOrUri
  | .identifier => if isText value then none else some .notString
  | .audience => if isAudience value then none else some .notAudience
  | .notBefore => if isFiniteNumber value then none else some .notNumericDate
  | .issuedAt => if isFiniteNumber value then none else some .notNumericDate
  | .expiry => none
  | .free => none

/-- Why a date under a rule is refused when it lies behind the horizon. -/
def lateness? : Rule → Option Reason
  | .notBefore => some .notYetValid
  | .issuedAt => some .issuedInFuture
  | _ => none

/-- A date may not lie behind the horizon. A fault of the horizon shows only at a date. -/
def checkDate (horizon : Except TimeFault Numeric) (claim : String) (reason : Reason)
    (value : Value) : Except CheckFault Unit :=
  match value with
  | .number number =>
    match horizon with
    | .error fault => .error (.time fault)
    | .ok limit => if limit.less number then .error (.refused (.invalid claim reason)) else .ok ()
  | _ => .ok ()

/-- The kind of the value, then its date, then the requirement on the claim. An expiry passes
whatever it is. -/
def checkClaim (options : Options) (horizon : Except TimeFault Numeric) (claim : String)
    (value : Value) : Except CheckFault Unit :=
  let rule := ruleOf claim
  if rule = .expiry then .ok ()
  else
    match shapeFault? rule value with
    | some reason => .error (.refused (.invalid claim reason))
    | none =>
      match lateness? rule with
      | none => options.checkAdmitted claim value
      | some reason =>
        match checkDate horizon claim reason value with
        | .error fault => .error fault
        | .ok () => options.checkAdmitted claim value

/-- The names that the checker keeps for itself. A requirement cannot have one of them. -/
def keptNames : List String := ["now", "leeway", "self"]

/-- The checks of an ID token: first the essential claims, then each claim in order. The time is
looked at only when a date is met. -/
def checkIdToken (options : Options) (timing : Timing) (claims : Entries Value) :
    Except CheckFault Unit :=
  if keptNames.any options.contains then .error (.misuse .kind)
  else
    match options.missing claims with
    | [] => checkAll (checkClaim options timing.horizon) claims.toList
    | absent => .error (.refused (.missing absent))

/-- The audience of a token: a text is one party, and an absent or empty value is none. -/
def audience (claims : Entries Value) : Except Value.Misuse (List Value) :=
  let value := (claims.get? "aud").getD .null
  if !value.isTrue then .ok []
  else
    match value with
    | .text party => .ok [.text party]
    | other => other.items

/-- A claim has no date. -/
inductive DateFault where
  /-- No moment of the years 1 to 9999 has this number. -/
  | outOfRange
  /-- The value is not a number. -/
  | notNumber
deriving DecidableEq

/-- The moment that a claim denotes, if it is there. -/
def dateOf (claims : Entries Value) (claim : String) : Except DateFault (Option DateTime) :=
  let value := (claims.get? claim).getD .null
  if value.isNull then .ok none
  else
    match value.number? with
    | none => .error .notNumber
    | some number =>
      match DateTime.ofNumber? number with
      | none => .error .outOfRange
      | some moment => .ok (some moment)

/-- The moment at which a token was issued. -/
def issuedAt (claims : Entries Value) : Except DateFault (Option DateTime) :=
  dateOf claims "iat"

/-- The moment at which a token expires. -/
def expiresAt (claims : Entries Value) : Except DateFault (Option DateTime) :=
  dateOf claims "exp"

/-- The claims that can be read by their name. -/
def registeredClaims : List String :=
  ["iss", "sub", "aud", "exp", "iat", "nbf", "auth_time", "nonce", "azp", "sid"]

/-- The value of a claim, nothing if it is absent. -/
def valueOf (claims : Entries Value) (claim : String) : Value :=
  (claims.get? claim).getD .null

/-- A claim is a text only where it is there. -/
theorem valueOf_eq_text_iff (claims : Entries Value) (claim : String) (content : Text) :
    valueOf claims claim = .text content ↔ claims.get? claim = some (.text content) := by
  unfold valueOf
  cases claims.get? claim <;> simp

end EndSession.Claims
