import EndSession.Claims.Conversion
import EndSession.Proofs.Calendar.Utc
import EndSession.Proofs.Entries

/-
This file tells what is stored of the claims of an issued token: texts, lists of texts and numbers.
Storing these once more changes nothing.
-/

namespace EndSession.Claims

open Number Calendar

/-- Claims as they are stored when a token is issued. -/
def IsIssued (claims : Entries Value) : Prop :=
  ∃ given, issue given = .ok claims

/-- What is stored of the values that can be stored under a name. The texts of a set are put in
order. -/
inductive Converts (claim : String) : Value → StoredValue → Prop where
  | moment {moment : DateTime} (dated : moment.HasUtcYear) :
      Converts claim (.moment moment) (.number (.whole moment.epochSeconds))
  | number (number : Numeric) : Converts claim (.number number) (.number number)
  | text (free : claim ∉ numericDateClaims) (content : Text) :
      Converts claim (.text content) (.text content)
  | list (free : claim ∉ numericDateClaims) (texts : List Text) :
      Converts claim (.list (texts.map .text)) (.texts texts)
  | tuple (free : claim ∉ numericDateClaims) (texts : List Text) :
      Converts claim (.tuple (texts.map .text)) (.texts texts)
  | set (free : claim ∉ numericDateClaims) (frozen : Bool) (texts : List Text) :
      Converts claim (.set frozen (texts.map .text))
        (.texts (texts.mergeSort Text.isOrdered))

theorem isNumericDate_eq_false_iff (claim : String) :
    isNumericDate claim = false ↔ claim ∉ numericDateClaims := by
  rw [isNumericDate, ← Bool.not_eq_true, List.contains_iff_mem]

/-- Texts are kept where no numeric date is, all of them and in their order if they have one. -/
theorem convertItems_eq_ok_iff {claim : String} {value : Value} {ordered : Bool}
    {items : List Value} {stored : StoredValue} :
    convertItems claim value ordered items = .ok stored ↔
      claim ∉ numericDateClaims ∧ ∃ texts, items = texts.map .text ∧ stored =
        .texts (if ordered then texts else texts.mergeSort Text.isOrdered) := by
  rw [← isNumericDate_eq_false_iff]
  unfold convertItems
  cases isNumericDate claim with
  | true => simp
  | false =>
      simp only [Bool.false_eq_true, if_false, true_and, ← Value.texts?_eq_some_iff]
      cases Value.texts? items <;> simp [eq_comm]

/-- A conversion succeeds with what is stored of the value. -/
theorem converts_of_convert {claim : String} {value : Value} {stored : StoredValue}
    (done : convert claim value = .ok stored) : Converts claim value stored := by
  cases value with
  | moment moment =>
      simp only [convert] at done
      split at done
      · rename_i seconds found
        cases done
        obtain ⟨dated, rfl⟩ := (moment.numericDate?_eq_some_iff seconds).mp found
        exact .moment dated
      · cases done
  | number number =>
      cases done
      exact .number number
  | text content =>
      simp only [convert] at done
      split at done
      · cases done
      · rename_i free
        cases done
        exact .text ((isNumericDate_eq_false_iff claim).mp (Bool.eq_false_iff.mpr free)) content
  | list items =>
      obtain ⟨free, texts, rfl, rfl⟩ := convertItems_eq_ok_iff.mp done
      exact .list free texts
  | tuple items =>
      obtain ⟨free, texts, rfl, rfl⟩ := convertItems_eq_ok_iff.mp done
      exact .tuple free texts
  | set frozen items =>
      obtain ⟨free, texts, rfl, rfl⟩ := convertItems_eq_ok_iff.mp done
      exact .set free frozen texts
  | null => cases done
  | bool value => cases done
  | octets value => cases done
  | map entries => cases done

/-- What can be stored is converted. -/
theorem Converts.convert_eq {claim : String} {value : Value} {stored : StoredValue}
    (converts : Converts claim value stored) : convert claim value = .ok stored := by
  cases converts with
  | @moment moment dated =>
      have found := (moment.numericDate?_eq_some_iff _).mpr ⟨dated, rfl⟩
      simp only [convert, found]
  | number number => rfl
  | text free content => exact convert_text ((isNumericDate_eq_false_iff claim).mpr free) content
  | list free texts => exact convertItems_eq_ok_iff.mpr ⟨free, texts, rfl, rfl⟩
  | tuple free texts => exact convertItems_eq_ok_iff.mpr ⟨free, texts, rfl, rfl⟩
  | set free frozen texts => exact convertItems_eq_ok_iff.mpr ⟨free, texts, rfl, rfl⟩

theorem convert_eq_ok_iff {claim : String} {value : Value} {stored : StoredValue} :
    convert claim value = .ok stored ↔ Converts claim value stored :=
  ⟨converts_of_convert, Converts.convert_eq⟩

/-- A value that was stored under a claim is stored under it again as it is. -/
theorem convert_toValue {claim : String} {value : Value} {stored : StoredValue}
    (done : convert claim value = .ok stored) : convert claim stored.toValue = .ok stored := by
  rw [convert_eq_ok_iff] at done ⊢
  cases done with
  | moment dated => exact .number _
  | number number => exact .number number
  | text free content => exact .text free content
  | list free texts => exact .list free texts
  | tuple free texts => exact .list free texts
  | set free frozen texts => exact .list free _

/-- Only a text is stored as a text. -/
theorem convert_eq_text {claim : String} {value : Value} {content : Text}
    (done : convert claim value = .ok (.text content)) : value = .text content := by
  cases convert_eq_ok_iff.mp done
  rfl

/-- The value is stored under the name of the claim as the other one. -/
def IsStoredAs (claim : String) (value kept : Value) : Prop :=
  ∃ stored, convert claim value = .ok stored ∧ kept = stored.toValue

/-- Storing claims makes each pair from the one in its place. -/
theorem forall₂_of_issue {given claims : Entries Value} (done : issue given = .ok claims) :
    List.Forall₂ (fun old new => old.1 = new.1 ∧ IsStoredAs old.1 old.2 new.2)
      given.toList claims.toList := by
  unfold issue at done
  split at done
  · cases done
  · rename_i stored converted
    cases done
    have pairs := Entries.traverse_eq_ok_iff.mp (Entries.mapExcept_eq_ok_iff.mp converted)
    apply List.forall₂_map_right_iff.mpr
    exact pairs.imp fun old new step => ⟨step.1, new.2, step.2, rfl⟩

/-- A name finds in stored claims what is stored of that which it finds in the given ones. -/
theorem rel_get?_of_issue {given claims : Entries Value} (done : issue given = .ok claims)
    (claim : String) :
    Option.Rel (IsStoredAs claim) (given.get? claim) (claims.get? claim) :=
  Entries.rel_lookup IsStoredAs (forall₂_of_issue done) claim

/-- What a name finds in given claims is stored under it. -/
theorem get?_of_issue {given claims : Entries Value} (done : issue given = .ok claims)
    {claim : String} {value : Value} (found : given.get? claim = some value) :
    ∃ stored, convert claim value = .ok stored ∧ claims.get? claim = some stored.toValue := by
  have each := rel_get?_of_issue done claim
  rw [found] at each
  generalize claims.get? claim = kept at each
  cases each with
  | some kept =>
      obtain ⟨stored, converted, rfl⟩ := kept
      exact ⟨stored, converted, rfl⟩

/-- All stored claims have a property when what is stored of each given one has it. -/
theorem forall_stored_iff {given claims : Entries Value} (done : issue given = .ok claims)
    (property : String → Value → Prop) :
    (∀ pair ∈ claims.toList, property pair.1 pair.2) ↔
      ∀ pair ∈ given.toList, ∃ stored, convert pair.1 pair.2 = .ok stored ∧
        property pair.1 stored.toValue := by
  rw [Entries.forall_mem_iff claims fun pair => property pair.1 pair.2, Entries.forall_mem_iff given
    fun pair => ∃ stored, convert pair.1 pair.2 = .ok stored ∧ property pair.1 stored.toValue]
  apply forall_congr'
  intro claim
  have each := rel_get?_of_issue done claim
  generalize given.get? claim = before at each
  generalize claims.get? claim = after at each
  cases each with
  | none => simp
  | some kept =>
      obtain ⟨stored, converted, rfl⟩ := kept
      simp [converted]

/-- Claims can be stored when each of them can. -/
theorem exists_issue_iff_convert {claims : Entries Value} :
    (∃ stored, issue claims = .ok stored) ↔
      ∀ pair ∈ claims.toList, ∃ stored, convert pair.1 pair.2 = .ok stored := by
  rw [← Entries.mapExcept_succeeds_iff]
  unfold issue
  cases claims.mapExcept convert <;> simp

/-- Claims of which every value is a stored one are stored as they are. -/
theorem issue_eq_self {claims : Entries Value}
    (each : ∀ pair ∈ claims.toList, IsStoredAs pair.1 pair.2 pair.2) : issue claims = .ok claims := by
  have storable : ∀ pair ∈ claims.toList, ∃ stored, convert pair.1 pair.2 = .ok stored := by
    intro pair member
    obtain ⟨stored, converted, _⟩ := each pair member
    exact ⟨stored, converted⟩
  obtain ⟨others, done⟩ := exists_issue_iff_convert.mpr storable
  have back : List.Forall₂ Eq claims.toList others.toList := by
    refine ((List.forall₂_and_left _ _).mpr ⟨each, forall₂_of_issue done⟩).imp ?_
    rintro ⟨name, value⟩ ⟨name', value'⟩ ⟨⟨stored, first, same⟩, rfl, stored', second, same'⟩
    cases first.symm.trans second
    exact Prod.ext rfl (same.trans same'.symm)
  rw [List.forall₂_eq_eq_eq] at back
  rw [done, Entries.ext back]

/-- Claims were issued exactly when every value is one that is stored under its name. -/
theorem isIssued_iff {claims : Entries Value} :
    IsIssued claims ↔ ∀ pair ∈ claims.toList, IsStoredAs pair.1 pair.2 pair.2 := by
  constructor
  · rintro ⟨given, done⟩
    refine (forall_stored_iff done fun claim value => IsStoredAs claim value value).mpr ?_
    intro pair member
    obtain ⟨stored, converted⟩ := exists_issue_iff_convert.mp ⟨claims, done⟩ pair member
    exact ⟨stored, converted, stored, convert_toValue converted, rfl⟩
  · intro each
    exact ⟨claims, issue_eq_self each⟩

namespace IsIssued

variable {claims : Entries Value}

/-- Storing issued claims once more changes nothing. -/
theorem issue_eq (issued : IsIssued claims) : issue claims = .ok claims :=
  issue_eq_self (isIssued_iff.mp issued)

/-- An issued claim is a text, a list of texts or a number. -/
theorem stored (issued : IsIssued claims) {claim : String} {value : Value}
    (found : claims.get? claim = some value) : ∃ stored : StoredValue, value = stored.toValue := by
  have member := (claims.get?_eq_some_iff claim value).mp found
  obtain ⟨stored, _, same⟩ := isIssued_iff.mp issued _ member
  exact ⟨stored, same⟩

/-- Issued claims stay issued when one is removed. -/
theorem erase (issued : IsIssued claims) (claim : String) : IsIssued (claims.erase claim) := by
  rw [isIssued_iff] at issued ⊢
  intro pair member
  exact issued pair (List.mem_of_mem_filter member)

end IsIssued

/-- A claim that is stored as a text was given as this text. -/
theorem get?_eq_text_of_issue {given claims : Entries Value} (done : issue given = .ok claims)
    {claim : String} {content : Text} (found : claims.get? claim = some (.text content)) :
    given.get? claim = some (.text content) := by
  have each := rel_get?_of_issue done claim
  rw [found] at each
  generalize given.get? claim = before at each
  cases each with
  | some kept =>
      obtain ⟨stored, converted, same⟩ := kept
      have text : stored = .text content := by
        cases stored <;> simp_all [StoredValue.toValue]
      rw [text] at converted
      rw [convert_eq_text converted]

/-- Some of the claims are stored like all of them, as long as every dropped one can be stored. -/
theorem issue_restrict {claims : Entries Value} {kept : String → Bool}
    (storable : ∀ pair ∈ claims.toList, kept pair.1 = false →
      ∃ stored, convert pair.1 pair.2 = .ok stored) :
    issue (claims.restrict kept) = (issue claims).map fun stored => stored.restrict kept := by
  unfold issue
  rw [Entries.mapExcept_restrict storable]
  cases claims.mapExcept convert with
  | error fault => rfl
  | ok stored => exact congrArg Except.ok (Entries.map_restrict stored kept StoredValue.toValue)

end EndSession.Claims
