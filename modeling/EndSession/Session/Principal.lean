import EndSession.Text.CodePoint

/-
This file holds the end users on whose behalf a logout is asked for.
-/

namespace EndSession.Session

/-- The end user: not known, authenticated, or known by name while the authentication is still
pending. -/
inductive Principal where
  | anonymous
  | authenticated (name : Option Text)
  | pending (name : Option Text)
deriving DecidableEq

namespace Principal

/-- The name of the end user. -/
def name? : Principal → Option Text
  | anonymous => none
  | authenticated name => name
  | pending name => name

/-- The end user has authenticated. -/
def isAuthenticated : Principal → Bool
  | authenticated _ => true
  | _ => false

end Principal

end EndSession.Session
