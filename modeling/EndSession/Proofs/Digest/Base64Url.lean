import EndSession.Digest.Base64Url
import Mathlib.Data.List.Basic

/-
This file tells which texts are read as the same octets in the base64url alphabet. The last character
of a text can carry bits that no octet takes. The text that octets are written as is the only one of
those read as them that carries no such bit.
-/

namespace EndSession.Digest.Base64Url

/-- The character is a letter or a digit of ASCII, a hyphen or an underscore. -/
def IsUrlSafe (char : Char) : Prop :=
  ('A'.toNat ≤ char.toNat ∧ char.toNat ≤ 'Z'.toNat) ∨
    ('a'.toNat ≤ char.toNat ∧ char.toNat ≤ 'z'.toNat) ∨
    ('0'.toNat ≤ char.toNat ∧ char.toNat ≤ '9'.toNat) ∨ char = '-' ∨ char = '_'

instance : DecidablePred IsUrlSafe := fun char =>
  inferInstanceAs (Decidable (('A'.toNat ≤ char.toNat ∧ char.toNat ≤ 'Z'.toNat) ∨
    ('a'.toNat ≤ char.toNat ∧ char.toNat ≤ 'z'.toNat) ∨
    ('0'.toNat ≤ char.toNat ∧ char.toNat ≤ '9'.toNat) ∨ char = '-' ∨ char = '_'))

/-- The bits of the last value that no octet takes. -/
def spareBits : List Nat → Nat
  | _ :: _ :: _ :: _ :: rest => spareBits rest
  | [_, _, c] => c % 4
  | [_, b] => b % 16
  | _ => 0

/-- The text can be read and carries no bit that no octet takes. -/
def IsCanonical (text : List Char) : Prop :=
  ∃ values, text.mapM value? = some values ∧ spareBits values = 0

/-- Octets are written with URL-safe characters only. -/
theorem isUrlSafe_of_mem_encode {octets : List UInt8} {char : Char} (member : char ∈ encode octets) :
    IsUrlSafe char := by
  have all : alphabet.all (fun char => decide (IsUrlSafe char)) = true := by decide +kernel
  exact of_decide_eq_true (List.all_eq_true.mp all char (mem_alphabet_of_mem_encode octets char member))

/-- Different octets are written differently. -/
theorem encode_injective : Function.Injective encode := by
  intro first second same
  have read := congrArg decode same
  rw [decode_encode, decode_encode] at read
  exact Option.some.inj read

/-- A character has a value when it is the letter of this value. -/
theorem value?_eq_some_iff {char : Char} {value : Nat} :
    value? char = some value ↔ value < 64 ∧ letter value = char := by
  constructor
  · intro found
    obtain ⟨inside, same, _⟩ := List.findIdx?_eq_some_iff_getElem.mp found
    rw [beq_iff_eq] at same
    refine ⟨inside, ?_⟩
    rw [letter, List.getD_eq_getElem?_getD, List.getElem?_eq_getElem inside]
    exact same
  · rintro ⟨small, rfl⟩
    exact value?_letter value small

/-- Values below sixty-four with the same letter are the same. -/
theorem letter_inj {first second : Nat} (smallFirst : first < 64) (smallSecond : second < 64) :
    letter first = letter second ↔ first = second := by
  constructor
  · intro same
    have found := value?_letter first smallFirst
    rw [same, value?_letter second smallSecond] at found
    exact (Option.some.inj found).symm
  · exact congrArg letter

/-- A text is read as values below sixty-four, of which its characters are the letters. -/
theorem mapM_value?_eq_some_iff {text : List Char} {values : List Nat} :
    text.mapM value? = some values ↔ (∀ value ∈ values, value < 64) ∧ values.map letter = text := by
  induction text generalizing values with
  | nil => cases values <;> simp
  | cons char rest inductionHypothesis =>
      simp only [List.mapM_cons, Option.bind_eq_bind, Option.pure_def, Option.bind_eq_some_iff,
        inductionHypothesis, value?_eq_some_iff]
      constructor
      · rintro ⟨value, ⟨small, same⟩, others, ⟨smaller, sameRest⟩, joined⟩
        cases joined
        exact ⟨List.forall_mem_cons.mpr ⟨small, smaller⟩, congrArg₂ List.cons same sameRest⟩
      · rintro ⟨small, same⟩
        cases values with
        | nil => cases same
        | cons value others =>
            rw [List.forall_mem_cons] at small
            cases same
            exact ⟨value, ⟨small.1, rfl⟩, others, ⟨small.2, rfl⟩, rfl⟩

/-- The octets of values are written with the letters of these values when no bit is left over. -/
theorem encode_eq_iff_of_join {values : List Nat} {octets : List UInt8}
    (small : ∀ value ∈ values, value < 64) (joined : join values = some octets) :
    encode octets = values.map letter ↔ spareBits values = 0 := by
  have number (value : Nat) (bound : value < 256) : (UInt8.ofNat value).toNat = value :=
    UInt8.toNat_ofNat_of_lt' bound
  induction values using join.induct generalizing octets with
  | case1 a b c d rest inductionHypothesis =>
      simp only [List.forall_mem_cons] at small
      obtain ⟨boundA, boundB, boundC, boundD, others⟩ := small
      obtain ⟨tail, further, rfl⟩ := Option.map_eq_some_iff.mp joined
      simp only [encode, List.map_cons, spareBits, ← inductionHypothesis others further]
      rw [number _ (by omega), number _ (by omega), number _ (by omega)]
      have first : (a * 4 + b / 16) / 4 = a := by omega
      have second : (a * 4 + b / 16) % 4 * 16 + (b % 16 * 16 + c / 4) / 16 = b := by omega
      have third : (b % 16 * 16 + c / 4) % 16 * 4 + (c % 4 * 64 + d) / 64 = c := by omega
      have fourth : (c % 4 * 64 + d) % 64 = d := by omega
      rw [first, second, third, fourth]
      simp
  | case2 a b c =>
      simp only [List.forall_mem_cons] at small
      obtain ⟨boundA, boundB, boundC, _⟩ := small
      cases joined
      simp only [encode, List.map_cons, List.map_nil, spareBits]
      rw [number _ (by omega), number _ (by omega)]
      have first : (a * 4 + b / 16) / 4 = a := by omega
      have second : (a * 4 + b / 16) % 4 * 16 + (b % 16 * 16 + c / 4) / 16 = b := by omega
      have third : (b % 16 * 16 + c / 4) % 16 * 4 = c - c % 4 := by omega
      rw [first, second, third]
      simp only [List.cons.injEq, true_and, and_true]
      rw [letter_inj (by omega) boundC]
      omega
  | case3 a b =>
      simp only [List.forall_mem_cons] at small
      obtain ⟨boundA, boundB, _⟩ := small
      cases joined
      simp only [encode, List.map_cons, List.map_nil, spareBits]
      rw [number _ (by omega)]
      have first : (a * 4 + b / 16) / 4 = a := by omega
      have second : (a * 4 + b / 16) % 4 * 16 = b - b % 16 := by omega
      rw [first, second]
      simp only [List.cons.injEq, true_and, and_true]
      rw [letter_inj (by omega) boundB]
      omega
  | case4 value => cases joined
  | case5 =>
      cases joined
      simp [encode, spareBits]

/-- A text that is read as octets is what they are written as when it carries no bit that no octet
takes. -/
theorem encode_eq_iff_isCanonical {text : List Char} {octets : List UInt8}
    (read : decode text = some octets) : encode octets = text ↔ IsCanonical text := by
  obtain ⟨values, found, joined⟩ := Option.bind_eq_some_iff.mp read
  obtain ⟨small, same⟩ := mapM_value?_eq_some_iff.mp found
  have written := encode_eq_iff_of_join small joined
  rw [same] at written
  rw [written]
  constructor
  · intro none
    exact ⟨values, found, none⟩
  · rintro ⟨others, foundAgain, none⟩
    cases found.symm.trans foundAgain
    exact none

end EndSession.Digest.Base64Url
