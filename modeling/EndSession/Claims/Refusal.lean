/-
This file names why the claims of a token or of client metadata are refused, and words it.
-/

namespace EndSession.Claims

/-- Why the value of a claim is refused. -/
inductive Reason where
  /-- A requirement does not admit the value. -/
  | notAdmitted
  | notStringOrUri
  | notString
  | notAudience
  | notNumericDate
  | notYetValid
  | issuedInFuture
deriving DecidableEq

/-- Claims are refused because some are missing, or because of one value. -/
inductive Refusal where
  | missing (claims : List String)
  | invalid (claim : String) (reason : Reason)
deriving DecidableEq

namespace Refusal

/-- The claim that a refusal names. -/
def claim : Refusal → String
  | missing claims => String.intercalate "," claims
  | invalid claim _ => claim

/-- The code of a refusal. -/
def code : Refusal → String
  | missing _ => "missing_claim"
  | invalid _ _ => "invalid_claim"

/-- The sentence of a refusal. -/
def description : Refusal → String
  | missing claims => "Missing claim: '" ++ String.intercalate "," claims ++ "'"
  | invalid claim .notAdmitted => "Invalid claim: '" ++ claim ++ "'"
  | invalid claim .notStringOrUri => "Claim '" ++ claim ++ "' must be a StringOrURI value"
  | invalid claim .notString => "Claim '" ++ claim ++ "' must be a string"
  | invalid claim .notAudience =>
    "Claim '" ++ claim ++ "' must be an array of StringOrURI value or a single StringOrURI value"
  | invalid claim .notNumericDate => "Claim '" ++ claim ++ "' must be a NumericDate value"
  | invalid _ .notYetValid => "The token is not yet valid"
  | invalid _ .issuedInFuture => "The token was issued in the future"

/-- The message of a refusal is its code and its sentence. -/
def message (refusal : Refusal) : String :=
  refusal.code ++ ": " ++ refusal.description

end Refusal

end EndSession.Claims
