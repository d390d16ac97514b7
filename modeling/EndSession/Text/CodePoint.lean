/-
This file holds text as it is received: code points in order. A surrogate may stand among them on its
own, although it is no character and UTF-8 has no octets for it.
-/

namespace EndSession

/-- A code point: a character, or a surrogate, counted from the first one. -/
inductive CodePoint where
  | char (value : Char)
  | surrogate (index : Fin 0x800)
deriving DecidableEq

namespace CodePoint

instance : Coe Char CodePoint := ⟨char⟩

/-- The number of a code point. -/
def toNat : CodePoint → Nat
  | char value => value.toNat
  | surrogate index => 0xD800 + index.val

/-- The character that a code point is. -/
def char? : CodePoint → Option Char
  | char value => some value
  | surrogate _ => none

/-- The code point is a character of a class. -/
def isIn (members : Char → Bool) : CodePoint → Bool
  | char value => members value
  | surrogate _ => false

/-- A letter of ASCII. -/
def isAlpha : CodePoint → Bool := isIn Char.isAlpha

/-- A digit of ASCII. -/
def isDigit : CodePoint → Bool := isIn Char.isDigit

/-- A letter or a digit of ASCII. -/
def isAlphanum : CodePoint → Bool := isIn Char.isAlphanum

/-- A capital letter of ASCII in lower case. Every other code point stays. -/
def toLower : CodePoint → CodePoint
  | char value => char value.toLower
  | surrogate index => surrogate index

/-- Characters as code points. -/
def ofChars (chars : List Char) : List CodePoint :=
  chars.map char

/-- The characters that code points are, if all of them are characters. -/
def chars? : List CodePoint → Option (List Char)
  | [] => some []
  | point :: rest =>
    match point.char?, chars? rest with
    | some value, some others => some (value :: others)
    | _, _ => none

@[simp] theorem toNat_char (value : Char) : (char value).toNat = value.toNat := rfl

@[simp] theorem char_mem_ofChars {value : Char} {chars : List Char} :
    char value ∈ ofChars chars ↔ value ∈ chars := by
  simp [ofChars]

theorem ofChars_injective {left right : List Char} (same : ofChars left = ofChars right) :
    left = right := by
  apply (List.map_inj_right ?_).mp same
  intro first second equal
  exact char.inj equal

/-- Code points are all characters exactly when they are those of their characters. -/
theorem chars?_eq_some_iff {points : List CodePoint} {chars : List Char} :
    chars? points = some chars ↔ points = ofChars chars := by
  induction points generalizing chars with
  | nil => cases chars <;> simp [chars?, ofChars]
  | cons point rest inductionHypothesis =>
      cases chars with
      | nil =>
          simp only [chars?, ofChars, List.map_nil, reduceCtorEq, iff_false]
          split <;> simp
      | cons value others =>
          have tail := @inductionHypothesis others
          simp only [ofChars] at tail
          cases point <;> cases found : chars? rest <;>
            simp_all [chars?, char?, ofChars]

/-- Characters are found again among code points. -/
@[simp] theorem chars?_ofChars (chars : List Char) : chars? (ofChars chars) = some chars :=
  chars?_eq_some_iff.mpr rfl

/-- The code point is a character. -/
def IsCharacter (point : CodePoint) : Prop :=
  ∃ value, point = char value

/-- Code points that are characters are those of a list of characters. -/
theorem exists_chars {points : List CodePoint} (characters : ∀ point ∈ points, point.IsCharacter) :
    ∃ chars, points = ofChars chars := by
  induction points with
  | nil => exact ⟨[], rfl⟩
  | cons point rest inductionHypothesis =>
      rw [List.forall_mem_cons] at characters
      obtain ⟨value, rfl⟩ := characters.1
      obtain ⟨chars, rfl⟩ := inductionHypothesis characters.2
      exact ⟨value :: chars, rfl⟩

end CodePoint

/-- A text is code points in order. -/
structure Text where
  toList : List CodePoint
deriving DecidableEq

namespace Text

/-- The text of characters. -/
def ofString (content : String) : Text :=
  ⟨CodePoint.ofChars content.toList⟩

instance : Coe String Text := ⟨ofString⟩

instance : Append Text := ⟨fun left right => ⟨left.toList ++ right.toList⟩⟩

/-- All code points of the text are characters. -/
def IsUnicode (text : Text) : Prop :=
  ∃ content : String, text = content

/-- The left text stands in front of the right one in the order of code points, or is the same. -/
def isOrdered (left right : Text) : Bool :=
  !(right.toList.map CodePoint.toNat).lex (left.toList.map CodePoint.toNat) fun code other =>
    decide (code < other)

@[simp] theorem toList_ofString (content : String) :
    (ofString content).toList = CodePoint.ofChars content.toList := rfl

/-- Two texts of characters are the same text when their characters are. -/
@[simp] theorem ofString_inj {left right : String} : ofString left = ofString right ↔ left = right := by
  constructor
  · intro same
    exact String.toList_inj.mp (CodePoint.ofChars_injective (congrArg toList same))
  · exact congrArg ofString

/-- A Unicode text holds nothing but characters. -/
theorem IsUnicode.isCharacter {text : Text} (unicode : text.IsUnicode) {point : CodePoint}
    (member : point ∈ text.toList) : point.IsCharacter := by
  obtain ⟨content, rfl⟩ := unicode
  obtain ⟨value, _, rfl⟩ := List.mem_map.mp member
  exact ⟨value, rfl⟩

/-- A text has characters exactly when it is a text of them. -/
theorem isUnicode_iff (text : Text) :
    text.IsUnicode ↔ ∃ chars, CodePoint.chars? text.toList = some chars := by
  simp only [CodePoint.chars?_eq_some_iff]
  constructor
  · rintro ⟨content, rfl⟩
    exact ⟨content.toList, rfl⟩
  · rintro ⟨chars, same⟩
    refine ⟨String.ofList chars, ?_⟩
    cases text
    simpa [ofString] using same

end Text

end EndSession
