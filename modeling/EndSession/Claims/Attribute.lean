import EndSession.Claims.IdToken

/-
This file reads claims and what follows from them by name.
-/

namespace EndSession.Claims

/-- An attribute cannot be read. -/
inductive AttributeFault where
  /-- There is no attribute of this name. -/
  | unknown (name : String)
  | date (fault : DateFault)
  | misuse (misuse : Value.Misuse)

/-- A moment that may be absent, as a value. -/
def momentValue : Except DateFault (Option Calendar.DateTime) → Except AttributeFault Value
  | .error fault => .error (.date fault)
  | .ok none => .ok .null
  | .ok (some moment) => .ok (.moment moment)

/-- The value of a registered claim, the options, or the list of registered claims. -/
def readAttribute (registered : List String) (options : Options) (claims : Entries Value)
    (name : String) : Except AttributeFault Value :=
  if name = "options" then .ok options.toValue
  else if name = "REGISTERED_CLAIMS" then .ok (.list (registered.map fun (claim : String) => .text claim))
  else if registered.contains name then .ok (valueOf claims name)
  else .error (.unknown name)

/-- The attributes of an ID token also hold its audience and its dates. -/
def readIdTokenAttribute (options : Options) (claims : Entries Value) (name : String) :
    Except AttributeFault Value :=
  if name = "audience" then
    match audience claims with
    | .error misuse => .error (.misuse misuse)
    | .ok parties => .ok (.list parties)
  else if name = "issued_at" then momentValue (issuedAt claims)
  else if name = "expires_at" then momentValue (expiresAt claims)
  else readAttribute registeredClaims options claims name

end EndSession.Claims
