import EndSession.Text.CodePoint

/-
This file encodes text as UTF-8 octets, of which a surrogate has none, and decodes any octets. Every
longest run of octets that starts a character and cannot end it becomes one replacement character.
Text that was encoded decodes to itself.
-/

namespace EndSession.Text.Utf8

/-- The octets of one character. -/
def encodeChar (char : Char) : List UInt8 :=
  let code := char.toNat
  if code < 0x80 then [UInt8.ofNat code]
  else if code < 0x800 then [UInt8.ofNat (0xC0 + code / 0x40), UInt8.ofNat (0x80 + code % 0x40)]
  else if code < 0x10000 then
    [UInt8.ofNat (0xE0 + code / 0x1000), UInt8.ofNat (0x80 + code / 0x40 % 0x40),
      UInt8.ofNat (0x80 + code % 0x40)]
  else
    [UInt8.ofNat (0xF0 + code / 0x40000), UInt8.ofNat (0x80 + code / 0x1000 % 0x40),
      UInt8.ofNat (0x80 + code / 0x40 % 0x40), UInt8.ofNat (0x80 + code % 0x40)]

/-- The octets of characters. -/
def encode (chars : List Char) : List UInt8 :=
  chars.flatMap encodeChar

/-- The octets of a text, which it has none of when it holds a surrogate. -/
def encode? (text : Text) : Option (List UInt8) :=
  (CodePoint.chars? text.toList).map encode

/-- A character of which the first octets are read: their value, how many more follow, and the
least and greatest value of the next. -/
structure Pending where
  value : Nat
  remaining : Nat
  low : Nat
  high : Nat

/-- What an octet means between two characters. -/
inductive Lead where
  | whole (char : Char)
  | opens (pending : Pending)
  | none

/-- The character that takes the place of octets that encode none. -/
def replacement : Char := '\uFFFD'

/-- The meaning of an octet between two characters. The bounds on the next octet leave out longer
forms than needed, the surrogates, and what lies past the last code point. -/
def lead (octet : Nat) : Lead :=
  if octet < 0x80 then .whole (Char.ofNat octet)
  else if octet < 0xC2 then .none
  else if octet < 0xE0 then .opens ⟨octet - 0xC0, 1, 0x80, 0xBF⟩
  else if octet = 0xE0 then .opens ⟨0, 2, 0xA0, 0xBF⟩
  else if octet = 0xED then .opens ⟨0xD, 2, 0x80, 0x9F⟩
  else if octet < 0xF0 then .opens ⟨octet - 0xE0, 2, 0x80, 0xBF⟩
  else if octet = 0xF0 then .opens ⟨0, 3, 0x90, 0xBF⟩
  else if octet < 0xF4 then .opens ⟨octet - 0xF0, 3, 0x80, 0xBF⟩
  else if octet = 0xF4 then .opens ⟨4, 3, 0x80, 0x8F⟩
  else .none

/-- The text of the octets that follow, when the first octets of a character may be pending. An
octet that does not continue the pending character ends it and is read again on its own. -/
def decodeFrom : Option Pending → List UInt8 → List Char
  | none, [] => []
  | some _, [] => [replacement]
  | none, octet :: rest =>
    match lead octet.toNat with
    | .whole char => char :: decodeFrom none rest
    | .opens pending => decodeFrom (some pending) rest
    | .none => replacement :: decodeFrom none rest
  | some pending, octet :: rest =>
    if pending.low ≤ octet.toNat ∧ octet.toNat ≤ pending.high then
      let value := pending.value * 0x40 + octet.toNat % 0x40
      if pending.remaining = 1 then Char.ofNat value :: decodeFrom none rest
      else decodeFrom (some ⟨value, pending.remaining - 1, 0x80, 0xBF⟩) rest
    else
      replacement ::
        match lead octet.toNat with
        | .whole char => char :: decodeFrom none rest
        | .opens pending => decodeFrom (some pending) rest
        | .none => replacement :: decodeFrom none rest

/-- The text of any octets. -/
def decode (octets : List UInt8) : List Char :=
  decodeFrom none octets

/-- A code point lies below the surrogates, or above them and in range. -/
theorem toNat_range (char : Char) :
    char.toNat < 0xD800 ∨ (0xDFFF < char.toNat ∧ char.toNat < 0x110000) :=
  char.valid

/-- An octet that opens a character leaves it pending. -/
theorem decodeFrom_lead {octet : Nat} {pending : Pending} (small : octet < 256)
    (opened : lead octet = .opens pending) (rest : List UInt8) :
    decodeFrom none (UInt8.ofNat octet :: rest) = decodeFrom (some pending) rest := by
  have same : (UInt8.ofNat octet).toNat = octet := UInt8.toNat_ofNat_of_lt' small
  simp only [decodeFrom, same, opened]

/-- An octet behind the first one holds six bits of its character. -/
theorem toNat_continuation {part : Nat} (small : part < 0x40) :
    (UInt8.ofNat (0x80 + part)).toNat = 0x80 + part :=
  UInt8.toNat_ofNat_of_lt' (Nat.lt_trans (Nat.add_lt_add_left small 0x80) (by decide))

/-- An octet in the bounds of the pending character continues it. -/
theorem decodeFrom_next {value remaining low high part : Nat} (small : part < 0x40)
    (inside : low ≤ 0x80 + part ∧ 0x80 + part ≤ high) (rest : List UInt8) :
    decodeFrom (some ⟨value, remaining + 2, low, high⟩) (UInt8.ofNat (0x80 + part) :: rest) =
      decodeFrom (some ⟨value * 0x40 + part, remaining + 1, 0x80, 0xBF⟩) rest := by
  have bits : (0x80 + part) % 0x40 = part := by omega
  simp only [decodeFrom, toNat_continuation small, bits]
  rw [if_pos inside, if_neg (by omega)]
  rfl

/-- The last octet in the bounds of the pending character ends it. -/
theorem decodeFrom_last {value low high part : Nat} (small : part < 0x40)
    (inside : low ≤ 0x80 + part ∧ 0x80 + part ≤ high) (rest : List UInt8) :
    decodeFrom (some ⟨value, 1, low, high⟩) (UInt8.ofNat (0x80 + part) :: rest) =
      Char.ofNat (value * 0x40 + part) :: decodeFrom none rest := by
  have bits : (0x80 + part) % 0x40 = part := by omega
  simp only [decodeFrom, toNat_continuation small, bits]
  rw [if_pos inside, if_pos trivial]

/-- The first of two octets opens a character of two octets. -/
theorem lead_two {code : Nat} (least : 0x80 ≤ code) (greatest : code < 0x800) :
    lead (0xC0 + code / 0x40) = .opens ⟨code / 0x40, 1, 0x80, 0xBF⟩ := by
  simp only [lead]
  rw [if_neg (by omega), if_neg (by omega), if_pos (by omega)]
  simp

/-- The first of three octets opens a character whose second octet is in bounds. -/
theorem lead_three {code : Nat} (least : 0x800 ≤ code) (greatest : code < 0x10000)
    (range : code < 0xD800 ∨ 0xDFFF < code) :
    ∃ low high, lead (0xE0 + code / 0x1000) = .opens ⟨code / 0x1000, 2, low, high⟩ ∧
      low ≤ 0x80 + code / 0x40 % 0x40 ∧ 0x80 + code / 0x40 % 0x40 ≤ high := by
  by_cases first : code / 0x1000 = 0
  · exact ⟨0xA0, 0xBF, by rw [first]; rfl, by omega, by omega⟩
  by_cases surrogate : code / 0x1000 = 0xD
  · exact ⟨0x80, 0x9F, by rw [surrogate]; rfl, by omega, by omega⟩
  refine ⟨0x80, 0xBF, ?_, by omega, by omega⟩
  simp only [lead]
  rw [if_neg (by omega), if_neg (by omega), if_neg (by omega), if_neg (by omega),
    if_neg (by omega), if_pos (by omega)]
  simp

/-- The first of four octets opens a character whose second octet is in bounds. -/
theorem lead_four {code : Nat} (least : 0x10000 ≤ code) (greatest : code < 0x110000) :
    ∃ low high, lead (0xF0 + code / 0x40000) = .opens ⟨code / 0x40000, 3, low, high⟩ ∧
      low ≤ 0x80 + code / 0x1000 % 0x40 ∧ 0x80 + code / 0x1000 % 0x40 ≤ high := by
  by_cases first : code / 0x40000 = 0
  · exact ⟨0x90, 0xBF, by rw [first]; rfl, by omega, by omega⟩
  by_cases last : code / 0x40000 = 4
  · exact ⟨0x80, 0x8F, by rw [last]; rfl, by omega, by omega⟩
  refine ⟨0x80, 0xBF, ?_, by omega, by omega⟩
  simp only [lead]
  rw [if_neg (by omega), if_neg (by omega), if_neg (by omega), if_neg (by omega),
    if_neg (by omega), if_neg (by omega), if_neg (by omega), if_pos (by omega)]
  simp

/-- The octets of a character decode to it, whatever follows. -/
theorem decodeFrom_encodeChar (char : Char) (rest : List UInt8) :
    decodeFrom none (encodeChar char ++ rest) = char :: decodeFrom none rest := by
  have range := toNat_range char
  have back : Char.ofNat char.toNat = char := Char.ofNat_toNat char
  simp only [encodeChar]
  generalize char.toNat = code at *
  have bounds : 0x80 ≤ 0x80 + code % 0x40 ∧ 0x80 + code % 0x40 ≤ 0xBF := by omega
  by_cases one : code < 0x80
  · have same : (UInt8.ofNat code).toNat = code :=
      UInt8.toNat_ofNat_of_lt' (Nat.lt_trans one (by decide))
    simp only [one, if_true, List.cons_append, List.nil_append, decodeFrom, same, lead, back]
  by_cases two : code < 0x800
  · have value : code / 0x40 * 0x40 + code % 0x40 = code := by omega
    simp only [one, two, if_true, if_false, List.cons_append, List.nil_append]
    rw [decodeFrom_lead (by omega) (lead_two (by omega) two), decodeFrom_last (by omega) bounds,
      value, back]
  by_cases three : code < 0x10000
  · obtain ⟨low, high, opened, inside⟩ := lead_three (by omega) three (by omega)
    have value : (code / 0x1000 * 0x40 + code / 0x40 % 0x40) * 0x40 + code % 0x40 = code := by
      omega
    simp only [one, two, three, if_true, if_false, List.cons_append, List.nil_append]
    rw [decodeFrom_lead (by omega) opened, decodeFrom_next (by omega) inside,
      decodeFrom_last (by omega) bounds, value, back]
  · obtain ⟨low, high, opened, inside⟩ := lead_four (by omega : 0x10000 ≤ code) (by omega)
    have value : ((code / 0x40000 * 0x40 + code / 0x1000 % 0x40) * 0x40 +
        code / 0x40 % 0x40) * 0x40 + code % 0x40 = code := by omega
    simp only [one, two, three, if_false, List.cons_append, List.nil_append]
    rw [decodeFrom_lead (by omega) opened, decodeFrom_next (by omega) inside,
      decodeFrom_next (by omega) (by omega), decodeFrom_last (by omega) bounds, value, back]

/-- Encoded text in front decodes on its own. -/
theorem decodeFrom_encode_append (text : List Char) (rest : List UInt8) :
    decodeFrom none (encode text ++ rest) = text ++ decodeFrom none rest := by
  induction text with
  | nil => rfl
  | cons char text inductionHypothesis =>
      simp only [encode, List.flatMap_cons, List.append_assoc, List.cons_append]
      rw [decodeFrom_encodeChar]
      exact congrArg _ inductionHypothesis

/-- Text that was encoded decodes to itself. -/
theorem decode_encode (text : List Char) : decode (encode text) = text := by
  have whole := decodeFrom_encode_append text []
  simpa [decode, decodeFrom] using whole

/-- A text of characters has their octets. -/
@[simp] theorem encode?_ofString (content : String) :
    encode? (Text.ofString content) = some (encode content.toList) := by
  simp [encode?]

/-- A text has octets exactly when all its code points are characters. -/
theorem isSome_encode?_iff (text : Text) : (encode? text).isSome = true ↔ text.IsUnicode := by
  rw [Text.isUnicode_iff, encode?, Option.isSome_map, Option.isSome_iff_exists]

end EndSession.Text.Utf8
