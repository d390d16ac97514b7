import EndSession.Logout.Decision
import EndSession.Proofs.Claims.Issuance
import EndSession.Proofs.Value.Printer

/-
This file says which values a token can be issued with, under which names, and what becomes of them.
The kinds that are stored are closed under storing: claims of a stored token can always be stored
again, and stay what they are.
-/

namespace EndSession.Claims

open Number Calendar

/-- The value can be given to a token under the name of the claim. -/
inductive IsIssuable (claim : String) : Value → Prop where
  | moment {moment : DateTime} (dated : moment.HasUtcYear) : IsIssuable claim (.moment moment)
  | number (number : Numeric) : IsIssuable claim (.number number)
  | text (free : claim ∉ numericDateClaims) (content : Text) : IsIssuable claim (.text content)
  | list (free : claim ∉ numericDateClaims) (texts : List Text) :
      IsIssuable claim (.list (texts.map .text))
  | tuple (free : claim ∉ numericDateClaims) (texts : List Text) :
      IsIssuable claim (.tuple (texts.map .text))
  | set (free : claim ∉ numericDateClaims) (frozen : Bool) (texts : List Text) :
      IsIssuable claim (.set frozen (texts.map .text))

/-- What a given value is kept as. A moment becomes its numeric date, and whatever lists texts becomes
the list of them, which for a set has an order of its own. -/
inductive IsKeptAs : Value → Value → Prop where
  | moment (moment : DateTime) :
      IsKeptAs (.moment moment) (.number (.whole moment.epochSeconds))
  | number (number : Numeric) : IsKeptAs (.number number) (.number number)
  | text (content : Text) : IsKeptAs (.text content) (.text content)
  | list (texts : List Text) : IsKeptAs (.list (texts.map .text)) (.list (texts.map .text))
  | tuple (texts : List Text) : IsKeptAs (.tuple (texts.map .text)) (.list (texts.map .text))
  | set (frozen : Bool) {texts ordered : List Text} (same : ordered.Perm texts) :
      IsKeptAs (.set frozen (texts.map .text)) (.list (ordered.map .text))

/-- The value is of a kind that is kept under the name of the claim. -/
inductive IsKept (claim : String) : Value → Prop where
  | number (number : Numeric) : IsKept claim (.number number)
  | text (free : claim ∉ numericDateClaims) (content : Text) : IsKept claim (.text content)
  | list (free : claim ∉ numericDateClaims) (texts : List Text) :
      IsKept claim (.list (texts.map .text))

/-- The fault has a message, and this names the claim. -/
def ConversionFault.Names (fault : ConversionFault) (claim : String) : Prop :=
  ∃ opening closing, fault.message? = some (opening ++ "\"" ++ claim ++ "\"" ++ closing)

/-- A value that cannot be given is reported under the name of the claim, but a moment by its year. As
the report shows the value, one that cannot be written is reported by this and not by its name. -/
inductive IsReportedAs (claim : String) : Value → ConversionFault → Prop where
  | moment {moment : DateTime} (undated : ¬ moment.HasUtcYear) :
      IsReportedAs claim (.moment moment) .outOfRange
  | named {value : Value} {fault : ConversionFault} (other : ∀ moment, value ≠ .moment moment)
      (written : ¬ value.HoldsOverlong) (named : fault.Names claim) : IsReportedAs claim value fault
  | overlong {value : Value} (held : value.HoldsOverlong) : IsReportedAs claim value .overlong

/-- The fault shows the value, and then names the claim, or is that the value cannot be written. -/
theorem isReportedAs_of_print {claim : String} {value : Value} {fault : ConversionFault}
    (other : ∀ moment, value ≠ .moment moment) (overlong : value.print = none → fault = .overlong)
    (named : ∀ shown, value.print = some shown → fault.Names claim) :
    IsReportedAs claim value fault := by
  cases written : value.print with
  | none =>
      rw [overlong written]
      exact .overlong ((Value.print_eq_none_iff value).mp written)
  | some shown =>
      refine .named other ?_ (named shown written)
      rw [← Value.print_eq_none_iff, written]
      simp

/-- A value that no claim holds is reported. -/
theorem isReportedAs_unsupported (claim : String) {value : Value}
    (other : ∀ moment, value ≠ .moment moment) :
    IsReportedAs claim value (unsupported claim value) := by
  unfold unsupported
  apply isReportedAs_of_print other
  · intro unwritten
    rw [unwritten]
  · intro shown written
    rw [written]
    refine ⟨"Unsupported value for claim ", ": " ++ shown, ?_⟩
    have opening : "Unsupported value for claim \"" = "Unsupported value for claim " ++ "\"" := rfl
    have closing : "\": " = "\"" ++ ": " := rfl
    simp only [ConversionFault.message?, opening, closing, String.append_assoc]

/-- A value that a claim does not hold is reported. -/
theorem isReportedAs_fault (claim : String) {value : Value}
    (other : ∀ moment, value ≠ .moment moment) : IsReportedAs claim value (fault claim value) := by
  unfold fault
  split
  · apply isReportedAs_of_print other
    · intro unwritten
      rw [unwritten]
    · intro shown written
      rw [written]
      refine ⟨"Claim ", " must be a NumericDate value, got " ++ shown, ?_⟩
      have opening : "Claim \"" = "Claim " ++ "\"" := rfl
      have closing : "\" must be a NumericDate value, got " =
        "\"" ++ " must be a NumericDate value, got " := rfl
      simp only [ConversionFault.message?, opening, closing, String.append_assoc]
  · exact isReportedAs_unsupported claim other

/-- Items that are not all texts, or stand where a numeric date is kept, are reported. -/
theorem isReportedAs_of_convertItems {claim : String} {value : Value} {ordered : Bool}
    {items : List Value} {fault : ConversionFault} (other : ∀ moment, value ≠ .moment moment)
    (refused : convertItems claim value ordered items = .error fault) :
    IsReportedAs claim value fault := by
  unfold convertItems at refused
  split at refused
  · cases refused
    exact isReportedAs_fault claim other
  · split at refused
    · cases refused
      exact isReportedAs_fault claim other
    · cases refused

/-- What is stored was issuable, and is what is kept of it. -/
theorem isKeptAs_of_convert {claim : String} {value : Value} {stored : StoredValue}
    (done : convert claim value = .ok stored) :
    IsIssuable claim value ∧ IsKeptAs value stored.toValue := by
  cases convert_eq_ok_iff.mp done with
  | moment dated => exact ⟨.moment dated, .moment _⟩
  | number number => exact ⟨.number number, .number number⟩
  | text free content => exact ⟨.text free content, .text content⟩
  | list free texts => exact ⟨.list free texts, .list texts⟩
  | tuple free texts => exact ⟨.tuple free texts, .tuple texts⟩
  | set free frozen texts =>
      exact ⟨.set free frozen texts, .set frozen (List.mergeSort_perm texts _)⟩

/-- What is issuable can be stored. -/
theorem IsIssuable.exists_convert {claim : String} {value : Value} (issuable : IsIssuable claim value) :
    ∃ stored, convert claim value = .ok stored := by
  simp only [convert_eq_ok_iff]
  cases issuable with
  | moment dated => exact ⟨_, .moment dated⟩
  | number number => exact ⟨_, .number number⟩
  | text free content => exact ⟨_, .text free content⟩
  | list free texts => exact ⟨_, .list free texts⟩
  | tuple free texts => exact ⟨_, .tuple free texts⟩
  | set free frozen texts => exact ⟨_, .set free frozen texts⟩

theorem exists_convert_iff {claim : String} {value : Value} :
    (∃ stored, convert claim value = .ok stored) ↔ IsIssuable claim value := by
  constructor
  · rintro ⟨stored, done⟩
    exact (isKeptAs_of_convert done).1
  · exact IsIssuable.exists_convert

/-- Claims can be stored when each of them is issuable. -/
theorem exists_issue_iff {claims : Entries Value} :
    (∃ stored, issue claims = .ok stored) ↔ ∀ pair ∈ claims.toList, IsIssuable pair.1 pair.2 := by
  simp only [exists_issue_iff_convert, exists_convert_iff]

/-- Issued claims are issuable again. -/
theorem IsIssued.isIssuable {claims : Entries Value} (issued : IsIssued claims)
    {pair : String × Value} (member : pair ∈ claims.toList) : IsIssuable pair.1 pair.2 := by
  obtain ⟨stored, done, _⟩ := isIssued_iff.mp issued pair member
  exact (isKeptAs_of_convert done).1

/-- What cannot be stored is reported by its name or its year. -/
theorem isReportedAs_of_convert {claim : String} {value : Value} {fault : ConversionFault}
    (refused : convert claim value = .error fault) : IsReportedAs claim value fault := by
  cases value with
  | moment moment =>
      have undated : ¬ moment.HasUtcYear := by
        intro dated
        rw [(Converts.moment dated).convert_eq] at refused
        cases refused
      simp only [convert] at refused
      split at refused
      · cases refused
      · cases refused
        exact .moment undated
  | number number => cases refused
  | text content =>
      simp only [convert] at refused
      split at refused
      · cases refused
        exact isReportedAs_fault claim (by simp)
      · cases refused
  | list items => exact isReportedAs_of_convertItems (by simp) refused
  | tuple items => exact isReportedAs_of_convertItems (by simp) refused
  | set frozen items => exact isReportedAs_of_convertItems (by simp) refused
  | bool value =>
      cases refused
      exact isReportedAs_unsupported claim (by simp)
  | null | octets value | map entries =>
      cases refused
      exact isReportedAs_fault claim (by simp)

/-- What was stored is of a kind that is kept. -/
theorem isKept_of_convert {claim : String} {value : Value} {stored : StoredValue}
    (done : convert claim value = .ok stored) : IsKept claim stored.toValue := by
  cases convert_eq_ok_iff.mp done with
  | moment dated => exact .number _
  | number number => exact .number number
  | text free content => exact .text free content
  | list free texts => exact .list free texts
  | tuple free texts => exact .list free texts
  | set free frozen texts => exact .list free _

/-- The check of a hint never fails to store issued claims anew. -/
theorem IsIssued.checkHint_ne_conversion {claims : Entries Value} (issued : IsIssued claims)
    (settings : Logout.Settings) (issuer : Logout.Issuer) (fault : ConversionFault) :
    Logout.checkHint settings issuer claims ≠ .error (.conversion fault) := by
  unfold Logout.checkHint
  rw [issued.issue_eq]
  dsimp only
  split <;> simp

/-- The last second of the year 1969 on a clock that is one hour behind UTC. -/
def newYear : DateTime := ⟨⟨1969, 12, 31⟩, 22, 59, 59, 500000, some (-3600)⟩

/-- Claims of several kinds. -/
def mixedClaims : Entries Value :=
  Entries.ofList [("sub", .text "principal"), ("exp", .moment newYear),
    ("aud", .tuple [.text "client-1", .text "client-2"]), ("auth_time", .number (.whole (-7))),
    ("roles", .set true [])]

/-- Claims of which two are not issuable. -/
def mistypedClaims : Entries Value :=
  Entries.ofList [("sub", .text "principal"), ("iat", .bool true), ("exp", .text "tomorrow")]

end EndSession.Claims
