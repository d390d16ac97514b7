/-
This file writes octets in the base64url alphabet without padding, and reads them back. Reading
undoes writing.
-/

namespace EndSession.Digest.Base64Url

/-- The sixty-four characters, in the order of their values. -/
def alphabet : List Char :=
  "ABCDEFGHIJKLMNOPQRSTUVWXYZabcdefghijklmnopqrstuvwxyz0123456789-_".toList

/-- The character of a value below sixty-four. -/
def letter (value : Nat) : Char :=
  alphabet.getD value 'A'

/-- The value of a character of the alphabet. -/
def value? (char : Char) : Option Nat :=
  alphabet.findIdx? (· == char)

/-- Three octets become four characters; one or two octets at the end become two or three. -/
def encode : List UInt8 → List Char
  | a :: b :: c :: rest =>
    letter (a.toNat / 4) :: letter (a.toNat % 4 * 16 + b.toNat / 16) ::
      letter (b.toNat % 16 * 4 + c.toNat / 64) :: letter (c.toNat % 64) :: encode rest
  | [a, b] =>
    [letter (a.toNat / 4), letter (a.toNat % 4 * 16 + b.toNat / 16), letter (b.toNat % 16 * 4)]
  | [a] => [letter (a.toNat / 4), letter (a.toNat % 4 * 16)]
  | [] => []

/-- The octets of values below sixty-four. Bits of the last value that no octet takes are left. -/
def join : List Nat → Option (List UInt8)
  | a :: b :: c :: d :: rest =>
    (join rest).map fun octets =>
      UInt8.ofNat (a * 4 + b / 16) :: UInt8.ofNat (b % 16 * 16 + c / 4) ::
        UInt8.ofNat (c % 4 * 64 + d) :: octets
  | [a, b, c] => some [UInt8.ofNat (a * 4 + b / 16), UInt8.ofNat (b % 16 * 16 + c / 4)]
  | [a, b] => some [UInt8.ofNat (a * 4 + b / 16)]
  | [_] => none
  | [] => some []

/-- The octets of a text, if it has a possible length and all its characters are in the alphabet. -/
def decode (text : List Char) : Option (List UInt8) :=
  (text.mapM value?).bind join

/-- A value is found again by its character. -/
theorem value?_letter (value : Nat) (small : value < 64) : value? (letter value) = some value := by
  have all : ∀ index : Fin 64, value? (letter index.val) = some index.val := by decide +kernel
  exact all ⟨value, small⟩

/-- Every character that stands for a value is in the alphabet. -/
theorem letter_mem (value : Nat) : letter value ∈ alphabet := by
  rw [letter, List.getD_eq_getElem?_getD]
  cases found : alphabet[value]? with
  | none => decide
  | some char => exact List.mem_of_getElem? found

/-- Only characters of the alphabet are written. -/
theorem mem_alphabet_of_mem_encode (octets : List UInt8) :
    ∀ char ∈ encode octets, char ∈ alphabet := by
  induction octets using encode.induct with
  | case1 a b c rest inductionHypothesis =>
      simp only [encode, List.forall_mem_cons]
      exact ⟨letter_mem _, letter_mem _, letter_mem _, letter_mem _, inductionHypothesis⟩
  | case2 a b => simp [encode, letter_mem]
  | case3 a => simp [encode, letter_mem]
  | case4 => simp [encode]

/-- Three octets take four characters, and what is left over takes one more than it has octets. -/
theorem length_encode (octets : List UInt8) :
    (encode octets).length = (4 * octets.length + 2) / 3 := by
  induction octets using encode.induct with
  | case1 a b c rest inductionHypothesis =>
      simp only [encode, List.length_cons, inductionHypothesis]
      omega
  | case2 a b => simp [encode]
  | case3 a => simp [encode]
  | case4 => simp [encode]

/-- Reading undoes writing. -/
theorem decode_encode (octets : List UInt8) : decode (encode octets) = some octets := by
  have back (octet : UInt8) : UInt8.ofNat octet.toNat = octet := UInt8.ofNat_toNat
  have range (octet : UInt8) : octet.toNat < 256 := octet.toNat_lt
  simp only [decode]
  induction octets using encode.induct with
  | case1 a b c rest inductionHypothesis =>
      have boundA := range a
      have boundB := range b
      have boundC := range c
      simp only [encode, List.mapM_cons]
      rw [value?_letter _ (by omega), value?_letter _ (by omega), value?_letter _ (by omega),
        value?_letter _ (by omega)]
      cases read : List.mapM value? (encode rest) with
      | none => simp [read] at inductionHypothesis
      | some values =>
          simp only [read, Option.bind_some] at inductionHypothesis
          have first : a.toNat / 4 * 4 + (a.toNat % 4 * 16 + b.toNat / 16) / 16 = a.toNat := by omega
          have second : (a.toNat % 4 * 16 + b.toNat / 16) % 16 * 16 +
              (b.toNat % 16 * 4 + c.toNat / 64) / 4 = b.toNat := by omega
          have third : (b.toNat % 16 * 4 + c.toNat / 64) % 4 * 64 + c.toNat % 64 = c.toNat := by
            omega
          simp only [Option.bind_eq_bind, Option.bind_some, Option.pure_def, join,
            inductionHypothesis, Option.map_some, first, second, third, back]
  | case2 a b =>
      have boundA := range a
      have boundB := range b
      simp only [encode, List.mapM_cons, List.mapM_nil]
      rw [value?_letter _ (by omega), value?_letter _ (by omega), value?_letter _ (by omega)]
      have first : a.toNat / 4 * 4 + (a.toNat % 4 * 16 + b.toNat / 16) / 16 = a.toNat := by omega
      have second : (a.toNat % 4 * 16 + b.toNat / 16) % 16 * 16 + b.toNat % 16 * 4 / 4 = b.toNat := by
        omega
      simp only [Option.bind_eq_bind, Option.bind_some, Option.pure_def, join, first, second, back]
  | case3 a =>
      have boundA := range a
      simp only [encode, List.mapM_cons, List.mapM_nil]
      rw [value?_letter _ (by omega), value?_letter _ (by omega)]
      have first : a.toNat / 4 * 4 + a.toNat % 4 * 16 / 16 = a.toNat := by omega
      simp only [Option.bind_eq_bind, Option.bind_some, Option.pure_def, join, first, back]
  | case4 => rfl

end EndSession.Digest.Base64Url
