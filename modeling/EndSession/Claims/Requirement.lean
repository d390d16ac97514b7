import EndSession.Claims.Refusal
import EndSession.Claims.Timing
import EndSession.Entries
import EndSession.Value.Membership

/-
This file tells which values a requirement on a claim admits.
-/

namespace EndSession.Claims

/-- A requirement is a set of named settings. A setting with no meaning only makes the requirement
one that is not empty. -/
structure Requirement where
  settings : Entries Value

/-- Requirements by the claim that they are about. -/
abbrev Options := Entries Requirement

namespace Requirement

/-- The value of a setting. One that is not given is nothing. -/
def setting (requirement : Requirement) (name : String) : Value :=
  (requirement.settings.get? name).getD .null

/-- The claim has to be there. -/
def isEssential (requirement : Requirement) : Bool :=
  (requirement.setting "essential").isTrue

/-- Blank values are refused unless they are allowed. -/
def isBlank (value : Value) : Bool :=
  value.same .null || value.same (.text "") || value.same (.list []) || value.same (.map [])

/-- A value is one of the expected ones. Of a list it is enough that one of them is in it. -/
def amongValues (expected value : Value) : Except Value.Misuse Bool :=
  match value with
  | .list items =>
    match expected.items with
    | .error misuse => .error misuse
    | .ok wanted => .ok (wanted.any fun choice => items.any (Value.same choice))
  | other => expected.contains other

/-- A value is the expected one. Of a list it is enough that the expected value is in it. -/
def isValue (expected value : Value) : Bool :=
  match value with
  | .list items => value.same expected || items.any (Value.same expected)
  | other => other.same expected

/-- The requirement admits the value. Expected values, if there are any, leave no say to the single
expected value. -/
def admits (requirement : Requirement) (value : Value) : Except Value.Misuse Bool :=
  if requirement.settings.toList.isEmpty then .ok true
  else if !(requirement.setting "allow_blank").isTrue && isBlank value then .ok false
  else if (requirement.setting "values").isTrue then
    amongValues (requirement.setting "values") value
  else if (requirement.setting "value").isNull then .ok true
  else .ok (isValue (requirement.setting "value") value)

/-- The requirement that a claim is there and has one value. -/
def exactly (value : Value) : Requirement :=
  ⟨Entries.ofList [("essential", .bool true), ("value", value)]⟩

/-- The requirement as a map of its settings. -/
def toValue (requirement : Requirement) : Value :=
  .map (requirement.settings.toList.map fun pair => (.text pair.1, pair.2))

end Requirement

/-- Why a claim did not pass its checks: it is refused, or a check does not apply to it. -/
inductive CheckFault where
  | refused (refusal : Refusal)
  | misuse (misuse : Value.Misuse)
  | time (fault : TimeFault)
deriving DecidableEq

namespace Options

/-- The essential claims that are absent or nothing, in the order of their code points. -/
def missing (options : Options) (claims : Entries Value) : List String :=
  let absent := options.toList.filter fun pair =>
    pair.2.isEssential && ((claims.get? pair.1).getD .null).isNull
  (absent.map Prod.fst).mergeSort fun left right => decide (left ≤ right)

/-- Without requirements nothing is missing. -/
@[simp] theorem missing_empty (claims : Entries Value) : missing Entries.empty claims = [] := by
  simp [missing, Entries.empty]

/-- The claim's value must be admitted by the requirement on it, if there is one. -/
def checkAdmitted (options : Options) (claim : String) (value : Value) : Except CheckFault Unit :=
  match options.get? claim with
  | none => .ok ()
  | some requirement =>
    match requirement.admits value with
    | .error misuse => .error (.misuse misuse)
    | .ok true => .ok ()
    | .ok false => .error (.refused (.invalid claim .notAdmitted))

/-- The options as a map of requirements. -/
def toValue (options : Options) : Value :=
  .map (options.toList.map fun pair => (.text pair.1, pair.2.toValue))

end Options

/-- Every pair must pass a check. The first one that does not decides. -/
def checkAll {α ε : Type} (check : String → α → Except ε Unit) : List (String × α) → Except ε Unit
  | [] => .ok ()
  | (claim, value) :: rest =>
    match check claim value with
    | .error fault => .error fault
    | .ok () => checkAll check rest

/-- All pairs pass exactly when each of them does. -/
theorem checkAll_eq_ok_iff {α ε : Type} (check : String → α → Except ε Unit)
    (pairs : List (String × α)) :
    checkAll check pairs = .ok () ↔ ∀ pair ∈ pairs, check pair.1 pair.2 = .ok () := by
  induction pairs with
  | nil => simp [checkAll]
  | cons pair rest inductionHypothesis =>
      obtain ⟨claim, value⟩ := pair
      cases outcome : check claim value with
      | error fault => simp [checkAll, outcome]
      | ok done => simp [checkAll, outcome, inductionHypothesis]

end EndSession.Claims
