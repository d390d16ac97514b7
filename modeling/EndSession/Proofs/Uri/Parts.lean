import EndSession.Uri.Parts
import Mathlib.Data.List.TakeWhile

/-
This file proves that a URI with an authority is read again as the parts that it was written from,
provided that each part keeps within its own characters. The parts of every URI that was read do.
-/

namespace EndSession.Uri

open Text

/-- The character is none of those that are dropped everywhere. -/
def isKept (point : CodePoint) : Bool :=
  point != '\t' && point != '\r' && point != '\n'

theorem not_mem_before (mark : CodePoint) (text : List CodePoint) : mark ∉ before mark text := by
  intro member
  have different := List.mem_takeWhile_imp member
  simp at different

theorem mem_of_mem_before {mark point : CodePoint} {text : List CodePoint}
    (member : point ∈ before mark text) : point ∈ text :=
  (List.takeWhile_sublist _).subset member

theorem mem_of_mem_after {mark point : CodePoint} {text : List CodePoint}
    (member : point ∈ after mark text) : point ∈ text :=
  (List.dropWhile_sublist _).subset ((List.drop_sublist _ _).subset member)

/-- What stands in front of a part that is introduced by a mark. -/
theorem before_introduced {mark : CodePoint} {text : List CodePoint} (absent : mark ∉ text)
    (part : List CodePoint) : before mark (text ++ Parts.introduced mark part) = text := by
  unfold Parts.introduced
  split
  · rw [List.append_nil]
    apply List.takeWhile_eq_self_iff.mpr
    intro point member
    have different : point ≠ mark := fun same => absent (same ▸ member)
    simpa using different
  · exact before_append absent part

/-- A part that is introduced by a mark is what stands behind it. -/
theorem after_introduced {mark : CodePoint} {text : List CodePoint} (absent : mark ∉ text)
    (part : List CodePoint) : after mark (text ++ Parts.introduced mark part) = part := by
  unfold Parts.introduced
  split
  · rename_i empty
    rw [List.append_nil, List.isEmpty_iff.mp empty]
    have none : text.dropWhile (· != mark) = [] := by
      rw [List.dropWhile_eq_nil_iff]
      intro point member
      have different : point ≠ mark := fun same => absent (same ▸ member)
      simpa using different
    rw [after, none]
    rfl
  · exact after_append absent part

theorem mem_introduced {mark point : CodePoint} {part : List CodePoint}
    (member : point ∈ Parts.introduced mark part) : point = mark ∨ point ∈ part := by
  unfold Parts.introduced at member
  split at member
  · cases member
  · exact List.mem_cons.mp member

namespace Parts

/-- What holds of a character of a scheme in lower case. -/
structure IsLowerSchemeChar (point : CodePoint) : Prop where
  fits : isSchemeChar point = true
  lower : point.toLower = point
  plain : point ≠ ':'
  kept : isKept point = true
  visible : 0x20 < point.toNat

/-- A letter that starts a scheme and the other characters of one are ASCII, and stay characters of a
scheme in lower case. -/
theorem isLowerSchemeChar_toLower {point : CodePoint} (fits : isSchemeChar point = true) :
    IsLowerSchemeChar point.toLower ∧ (isLetter point = true → isLetter point.toLower = true) := by
  have all : ∀ index : Fin 128, isSchemeChar (Char.ofNat index.val) = true →
      (isSchemeChar (Char.ofNat index.val).toLower = true ∧
        (Char.ofNat index.val).toLower.toLower = (Char.ofNat index.val).toLower ∧
        (Char.ofNat index.val).toLower ≠ ':' ∧ isKept (Char.ofNat index.val).toLower = true ∧
        0x20 < (Char.ofNat index.val).toLower.toNat) ∧
        (isLetter (Char.ofNat index.val) = true →
          isLetter (Char.ofNat index.val).toLower = true) := by
    decide +kernel
  cases point with
  | surrogate index => cases fits
  | char char =>
      have small : char.toNat < 128 := by
        change (((((decide (65 ≤ char.val ∧ char.val ≤ 90) ||
          (decide (97 ≤ char.val) && decide (char.val ≤ 122))) ||
          (decide (48 ≤ char.val) && decide (char.val ≤ 57))) || CodePoint.char char == '+') ||
          CodePoint.char char == '-') || CodePoint.char char == '.') = true at fits
        simp only [Bool.or_eq_true, Bool.and_eq_true, decide_eq_true_eq, beq_iff_eq,
          UInt32.le_iff_toNat_le, CodePoint.char.injEq] at fits
        change (((((65 ≤ char.toNat ∧ char.toNat ≤ 90) ∨ 97 ≤ char.toNat ∧ char.toNat ≤ 122) ∨
          48 ≤ char.toNat ∧ char.toNat ≤ 57) ∨ char = '+') ∨ char = '-') ∨ char = '.' at fits
        rcases fits with ((within | rfl) | rfl) | rfl
        · omega
        · decide
        · decide
        · decide
      have here := all ⟨char.toNat, small⟩
      simp only [Char.ofNat_toNat] at here
      obtain ⟨⟨fitsLower, lower, plain, kept, visible⟩, letter⟩ := here fits
      refine ⟨⟨fitsLower, congrArg CodePoint.char lower, ?_, kept, visible⟩, letter⟩
      intro colon
      exact plain (CodePoint.char.inj colon)

/-- The text is a scheme in lower case. -/
structure IsScheme (scheme : List CodePoint) : Prop where
  starts : scheme.head?.any isLetter = true
  lower : ∀ point ∈ scheme, IsLowerSchemeChar point

/-- What follows a scheme is part of the text. -/
theorem mem_of_splitScheme {text scheme rest : List CodePoint}
    (split : splitScheme text = (scheme, rest)) : ∀ point ∈ rest, point ∈ text := by
  unfold splitScheme at split
  dsimp only at split
  split at split
  · obtain ⟨_, rfl⟩ := Prod.mk.inj split
    exact fun point => mem_of_mem_after
  · obtain ⟨_, rfl⟩ := Prod.mk.inj split
    exact fun point => id

/-- A scheme that is split off is one in lower case. -/
theorem isScheme_of_splitScheme {text scheme rest : List CodePoint}
    (split : splitScheme text = (scheme, rest)) (filled : scheme ≠ []) : IsScheme scheme := by
  unfold splitScheme at split
  dsimp only at split
  split at split
  · rename_i conditions
    obtain ⟨⟨_, starts⟩, fits⟩ : (.char ':' ∈ text ∧ (before ':' text).head?.any isLetter = true) ∧
        ∀ point ∈ before ':' text, isSchemeChar point = true := by
      simpa using conditions
    obtain ⟨rfl, rfl⟩ := Prod.mk.inj split
    constructor
    · cases first : before ':' text with
      | nil => simp [first] at filled
      | cons old others =>
          rw [first] at starts fits
          have here := (isLowerSchemeChar_toLower (fits old List.mem_cons_self)).2
          simpa using here (by simpa using starts)
    · intro point member
      obtain ⟨old, inside, rfl⟩ := List.mem_map.mp member
      exact (isLowerSchemeChar_toLower (fits old inside)).1
  · obtain ⟨rfl, _⟩ := Prod.mk.inj split
    exact absurd rfl filled

/-- A scheme is split off from what its colon introduces. -/
theorem splitScheme_append {scheme : List CodePoint} (isScheme : IsScheme scheme)
    (rest : List CodePoint) :
    splitScheme (scheme ++ .char ':' :: rest) = (scheme, rest) := by
  have absent : .char ':' ∉ scheme := fun member => (isScheme.lower _ member).plain rfl
  have fits : scheme.all isSchemeChar = true :=
    List.all_eq_true.mpr fun point member => (isScheme.lower point member).fits
  have lower : scheme.map CodePoint.toLower = scheme := by
    rw [List.map_congr_left fun point member => (isScheme.lower point member).lower, List.map_id']
  unfold splitScheme
  simp only [before_append absent, after_append absent, isScheme.starts, fits, lower]
  simp

/-- What follows an authority is part of the text. -/
theorem mem_of_splitAuthority {text authority rest : List CodePoint}
    (split : splitAuthority text = (authority, rest)) : ∀ point ∈ rest, point ∈ text := by
  unfold splitAuthority at split
  split at split
  · obtain ⟨_, rfl⟩ := Prod.mk.inj split
    intro point member
    simp [(List.dropWhile_sublist _).subset member]
  · obtain ⟨_, rfl⟩ := Prod.mk.inj split
    exact fun point => id

/-- An authority that is split off holds no character that ends one, and such a character follows. -/
theorem splitAuthority_spec {text authority rest : List CodePoint}
    (split : splitAuthority text = (authority, rest)) (filled : authority ≠ []) :
    (∀ point ∈ authority, endsAuthority point = false ∧ point ∈ text) ∧
      ∀ point ∈ rest.head?, endsAuthority point = true := by
  unfold splitAuthority at split
  split at split
  · rename_i behind
    obtain ⟨rfl, rfl⟩ := Prod.mk.inj split
    refine ⟨?_, ?_⟩
    · intro point member
      refine ⟨by simpa using List.mem_takeWhile_imp member, ?_⟩
      simp [(List.takeWhile_sublist _).subset member]
    · intro point member
      have ends := List.head?_dropWhile_not (!endsAuthority ·) behind
      rw [member] at ends
      simpa using ends
  · obtain ⟨rfl, _⟩ := Prod.mk.inj split
    exact absurd rfl filled

/-- An authority is split off from a character that ends it. -/
theorem splitAuthority_append {authority rest : List CodePoint}
    (plain : ∀ point ∈ authority, endsAuthority point = false)
    (ends : ∀ point ∈ rest.head?, endsAuthority point = true) :
    splitAuthority (.char '/' :: .char '/' :: (authority ++ rest)) = (authority, rest) := by
  have inside : ∀ point ∈ authority, (!endsAuthority point) = true := by
    intro point member
    rw [plain point member]
    rfl
  change (List.takeWhile _ (authority ++ rest), List.dropWhile _ (authority ++ rest)) = _
  rw [List.takeWhile_append_of_pos inside, List.dropWhile_append_of_pos inside]
  cases rest with
  | nil => simp
  | cons first others => simp [ends first rfl]

/-- The path and its parameters are what was divided, but for a semicolon without parameters. -/
theorem splitParameters_whole (text : List CodePoint) :
    text = (splitParameters text).1 ++ introduced ';' (splitParameters text).2 ∨
      (splitParameters text).2 = [] ∧ text = (splitParameters text).1 ++ [.char ';'] := by
  induction text with
  | nil => exact Or.inl rfl
  | cons point rest inductionHypothesis =>
      simp only [splitParameters]
      split
      · rename_i last
        rw [last.1]
        cases rest with
        | nil => exact Or.inr ⟨rfl, rfl⟩
        | cons first others => exact Or.inl rfl
      · rcases inductionHypothesis with whole | ⟨none, whole⟩
        · exact Or.inl (congrArg (point :: ·) whole)
        · exact Or.inr ⟨none, congrArg (point :: ·) whole⟩

/-- Dividing a path keeps all characters but a semicolon. -/
theorem mem_splitParameters_iff {mark : CodePoint} (other : mark ≠ ';') (text : List CodePoint) :
    mark ∈ (splitParameters text).1 ++ introduced ';' (splitParameters text).2 ↔ mark ∈ text := by
  rcases splitParameters_whole text with whole | ⟨none, whole⟩
  · rw [← whole]
  · have same : (mark ∈ text) = (mark ∈ (splitParameters text).1 ++ [.char ';']) :=
      congrArg (mark ∈ ·) whole
    rw [same, none]
    simp [introduced, other]

/-- A path with its parameters is divided again as before. -/
theorem splitParameters_again (text : List CodePoint) :
    splitParameters ((splitParameters text).1 ++ introduced ';' (splitParameters text).2) =
      splitParameters text := by
  induction text with
  | nil => rfl
  | cons point rest inductionHypothesis =>
      have slash := mem_splitParameters_iff (show CodePoint.char '/' ≠ ';' by decide) rest
      simp only [splitParameters]
      split
      · rename_i last
        cases rest with
        | nil => rfl
        | cons first others => simp [introduced, splitParameters, last.2]
      · rename_i inner
        simp only [List.cons_append, splitParameters, slash, inner, if_false, inductionHypothesis]

/-- The path as it is divided for a scheme. -/
def splitPath (scheme text : List CodePoint) : List CodePoint × List CodePoint :=
  if schemeIn schemesWithParameters scheme then splitParameters text else (text, [])

/-- The path together with its parameters. -/
def wholePath (parts : Parts) : List CodePoint :=
  parts.path ++ introduced ';' parts.parameters

/-- A divided path keeps all characters but a semicolon, and is divided again as before. -/
theorem splitPath_spec {scheme text : List CodePoint} {parts : Parts}
    (split : splitPath scheme text = (parts.path, parts.parameters)) :
    splitPath scheme parts.wholePath = (parts.path, parts.parameters) ∧
      (∀ mark : CodePoint, mark ≠ ';' → (mark ∈ parts.wholePath ↔ mark ∈ text)) ∧
      (∀ point ∈ parts.wholePath, point ∈ text) ∧
      ∀ first rest, text = first :: rest → first ≠ ';' → parts.wholePath.head? = some first := by
  unfold splitPath at split ⊢
  unfold wholePath
  cases divides : schemeIn schemesWithParameters scheme with
  | true =>
      rw [divides, if_pos rfl] at split
      have path : parts.path = (splitParameters text).1 := by rw [split]
      have parameters : parts.parameters = (splitParameters text).2 := by rw [split]
      rw [path, parameters, if_pos rfl]
      refine ⟨splitParameters_again text, fun _ other => mem_splitParameters_iff other text, ?_, ?_⟩
      · intro point member
        rcases splitParameters_whole text with whole | ⟨none, whole⟩
        · rw [whole]
          exact member
        · rw [none] at member
          rw [whole]
          exact List.mem_append_left _ (by simpa [introduced] using member)
      · intro first rest same different
        subst same
        simp [splitParameters, different]
  | false =>
      rw [divides, if_neg (by decide)] at split
      obtain ⟨rfl, none⟩ := Prod.mk.inj split
      rw [← none, if_neg (by decide)]
      rw [show introduced ';' [] = [] from rfl, List.append_nil]
      refine ⟨rfl, fun _ _ => Iff.rfl, fun _ member => member, ?_⟩
      intro first rest same _
      rw [same]
      rfl

/-- Every part keeps within its own characters, and the authority is not empty. -/
structure WellFormed (parts : Parts) : Prop where
  scheme : IsScheme parts.scheme
  filled : parts.authority ≠ []
  inside : ∀ point ∈ parts.authority, endsAuthority point = false
  brackets : Authority.checkBrackets parts.authority = .ok ()
  characters : Authority.checkCharacters parts.authority = .ok ()
  starts : parts.wholePath = [] ∨ parts.wholePath.head? = some (.char '/')
  divided : splitPath parts.scheme parts.wholePath = (parts.path, parts.parameters)
  unmarked : .char '?' ∉ parts.wholePath ∧ .char '#' ∉ parts.wholePath ∧ .char '#' ∉ parts.query
  kept : ∀ point, point ∈ parts.authority ∨ point ∈ parts.wholePath ∨ point ∈ parts.query ∨
    point ∈ parts.fragment → isKept point = true

/-- What follows the authority. -/
def tail (parts : Parts) : List CodePoint :=
  parts.wholePath ++ introduced '?' parts.query ++ introduced '#' parts.fragment

/-- A text is read as parts when it divides into them and the authority has no fault. -/
theorem read_eq_ok_iff {text : List CodePoint} {parts : Parts} :
    read text = .ok parts ↔ ∃ behind rest,
      splitScheme (clean text) = (parts.scheme, behind) ∧
      splitAuthority behind = (parts.authority, rest) ∧
      Authority.checkBrackets parts.authority = .ok () ∧
      Authority.checkCharacters parts.authority = .ok () ∧
      splitPath parts.scheme (before '?' (before '#' rest)) = (parts.path, parts.parameters) ∧
      after '?' (before '#' rest) = parts.query ∧ after '#' rest = parts.fragment := by
  unfold read
  dsimp only
  constructor
  · intro done
    split at done
    · cases done
    · rename_i brackets
      split at done
      · cases done
      · rename_i characters
        cases done
        exact ⟨_, _, rfl, rfl, brackets, characters, rfl, rfl, rfl⟩
  · intro divided
    obtain ⟨behind, rest, scheme, authority, brackets, characters, path, query, fragment⟩ := divided
    unfold splitPath at path
    simp only [scheme, authority, brackets, characters, path, query, fragment]

/-- Nothing is in a query that is not in the URI. -/
theorem mem_of_mem_query {point : CodePoint} {text : List CodePoint} {parts : Parts}
    (done : read text = .ok parts) (member : point ∈ parts.query) : point ∈ text := by
  obtain ⟨behind, rest, splitsScheme, splitsAuthority, _, _, _, query, _⟩ := read_eq_ok_iff.mp done
  rw [← query] at member
  have inRest : point ∈ rest := mem_of_mem_before (mem_of_mem_after member)
  have inBehind : point ∈ behind := mem_of_splitAuthority splitsAuthority point inRest
  have inClean : point ∈ clean text := mem_of_splitScheme splitsScheme point inBehind
  exact (List.dropWhile_sublist _).subset (List.mem_filter.mp inClean).1

/-- The characters of a URI as it is read. -/
theorem isKept_of_mem_clean {point : CodePoint} {text : List CodePoint} (member : point ∈ clean text) :
    isKept point = true :=
  (List.mem_filter.mp member).2

/-- Of the characters that end an authority only the slash is part of the path, which starts with
it. -/
theorem path_of_ends {rest : List CodePoint} (ends : ∀ point ∈ rest.head?, endsAuthority point = true) :
    before '?' (before '#' rest) = [] ∨ ∃ others, before '?' (before '#' rest) = .char '/' :: others := by
  cases rest with
  | nil => exact Or.inl rfl
  | cons first others =>
      have mark := ends first rfl
      simp only [endsAuthority, Bool.or_eq_true, beq_iff_eq] at mark
      rcases mark with (rfl | rfl) | rfl
      · exact Or.inr ⟨_, rfl⟩
      · exact Or.inl rfl
      · exact Or.inl rfl

/-- The parts of a URI that has a scheme and an authority are well-formed. -/
theorem wellFormed_of_read {text : List CodePoint} {parts : Parts} (done : read text = .ok parts)
    (scheme : parts.scheme ≠ []) (authority : parts.authority ≠ []) : parts.WellFormed := by
  obtain ⟨behind, rest, splitsScheme, splitsAuthority, brackets, characters, splitsPath, query,
    fragment⟩ := read_eq_ok_iff.mp done
  have isScheme := isScheme_of_splitScheme splitsScheme scheme
  have behindInside := mem_of_splitScheme splitsScheme
  obtain ⟨inside, ends⟩ := splitAuthority_spec splitsAuthority authority
  have restInside := mem_of_splitAuthority splitsAuthority
  obtain ⟨divided, marks, pathInside, starts⟩ := splitPath_spec splitsPath
  have kept (point : CodePoint) (member : point ∈ behind) : isKept point = true :=
    isKept_of_mem_clean (behindInside point member)
  have noFragment : .char '#' ∉ before '#' rest := not_mem_before '#' rest
  constructor
  case scheme => exact isScheme
  case filled => exact authority
  case inside => exact fun point member => (inside point member).1
  case brackets => exact brackets
  case characters => exact characters
  case starts =>
    rcases path_of_ends ends with empty | ⟨others, slash⟩
    · apply Or.inl
      apply List.eq_nil_iff_forall_not_mem.mpr
      intro point member
      have impossible := pathInside point member
      rw [empty] at impossible
      cases impossible
    · exact Or.inr (starts '/' others slash (by decide))
  case divided => exact divided
  case unmarked =>
    rw [marks '?' (by decide), marks '#' (by decide), ← query]
    exact ⟨not_mem_before _ _, fun member => noFragment (mem_of_mem_before member),
      fun member => noFragment (mem_of_mem_after member)⟩
  case kept =>
    intro point inside
    rcases inside with member | member | member | member
    · exact kept point (inside point member).2
    · exact kept point (restInside point
        (mem_of_mem_before (mem_of_mem_before (pathInside point member))))
    · rw [← query] at member
      exact kept point (restInside point (mem_of_mem_before (mem_of_mem_after member)))
    · rw [← fragment] at member
      exact kept point (restInside point (mem_of_mem_after member))

namespace WellFormed

variable {parts : Parts}

/-- A written URI is the scheme, the authority behind two slashes, and the rest. -/
theorem write_eq (wellFormed : parts.WellFormed) :
    parts.write =
      parts.scheme ++ .char ':' :: .char '/' :: .char '/' :: (parts.authority ++ parts.tail) := by
  have scheme : parts.scheme.isEmpty = false := by
    cases empty : parts.scheme with
    | nil => simpa [empty] using wellFormed.scheme.starts
    | cons first others => rfl
  have authority : parts.authority.isEmpty = false := by
    rw [List.isEmpty_eq_false_iff]
    exact wellFormed.filled
  have starts :
      (parts.wholePath.isEmpty || parts.wholePath.head? == some (CodePoint.char '/')) = true := by
    rcases wellFormed.starts with empty | slash
    · rw [empty]
      rfl
    · rw [slash]
      simp
  unfold wholePath at starts
  unfold write writeHierarchy tail wholePath
  simp only [scheme, authority, starts]
  simp

/-- Nothing of a written URI is dropped when it is read. -/
theorem clean_write (wellFormed : parts.WellFormed) : clean parts.write = parts.write := by
  have kept : ∀ point ∈ parts.write, isKept point = true := by
    intro point member
    rw [wellFormed.write_eq, tail] at member
    simp only [List.mem_append, List.mem_cons] at member
    rcases member with scheme | rfl | rfl | rfl | authority | (path | query) | fragment
    · exact (wellFormed.scheme.lower point scheme).kept
    · rfl
    · rfl
    · rfl
    · exact wellFormed.kept point (Or.inl authority)
    · exact wellFormed.kept point (Or.inr (Or.inl path))
    · rcases mem_introduced query with rfl | inside
      · rfl
      · exact wellFormed.kept point (Or.inr (Or.inr (Or.inl inside)))
    · rcases mem_introduced fragment with rfl | inside
      · rfl
      · exact wellFormed.kept point (Or.inr (Or.inr (Or.inr inside)))
  have visible : parts.write.dropWhile (fun point => decide (point.toNat ≤ 0x20)) = parts.write := by
    rw [wellFormed.write_eq]
    cases first : parts.scheme with
    | nil => simp
    | cons point others =>
        have high := (wellFormed.scheme.lower point (by simp [first])).visible
        simp [high]
  unfold clean
  rw [visible]
  exact List.filter_eq_self.mpr kept

/-- What follows the authority starts with a character that ends it. -/
theorem ends_tail (wellFormed : parts.WellFormed) :
    ∀ point ∈ parts.tail.head?, endsAuthority point = true := by
  intro point first
  rw [Option.mem_def, tail, List.append_assoc, List.head?_append] at first
  rcases wellFormed.starts with empty | slash
  · rw [empty] at first
    unfold introduced at first
    split at first
    · split at first
      · cases first
      · cases first
        rfl
    · cases first
      rfl
  · rw [slash] at first
    cases first
    rfl

/-- Well-formed parts are read as they were written. -/
theorem read_write (wellFormed : parts.WellFormed) : read parts.write = .ok parts := by
  obtain ⟨noQuestion, noNumber, noNumberInQuery⟩ := wellFormed.unmarked
  have unmarked : .char '#' ∉ parts.wholePath ++ introduced '?' parts.query := by
    intro member
    rcases List.mem_append.mp member with path | query
    · exact noNumber path
    · rcases mem_introduced query with impossible | inside
      · cases impossible
      · exact noNumberInQuery inside
  apply read_eq_ok_iff.mpr
  refine ⟨.char '/' :: .char '/' :: (parts.authority ++ parts.tail), parts.tail, ?_, ?_,
    wellFormed.brackets, wellFormed.characters, ?_, ?_, ?_⟩
  · rw [wellFormed.clean_write, wellFormed.write_eq]
    exact splitScheme_append wellFormed.scheme _
  · exact splitAuthority_append wellFormed.inside wellFormed.ends_tail
  · rw [tail, before_introduced unmarked, before_introduced noQuestion]
    exact wellFormed.divided
  · rw [tail, before_introduced unmarked, after_introduced noQuestion]
  · rw [tail, after_introduced unmarked]

/-- The query may be replaced by one without marks and controls. -/
theorem withQuery (wellFormed : parts.WellFormed) {query : List CodePoint}
    (unmarked : .char '#' ∉ query) (kept : ∀ point ∈ query, isKept point = true) :
    WellFormed { parts with query := query } where
  scheme := wellFormed.scheme
  filled := wellFormed.filled
  inside := wellFormed.inside
  brackets := wellFormed.brackets
  characters := wellFormed.characters
  starts := wellFormed.starts
  divided := wellFormed.divided
  unmarked := ⟨wellFormed.unmarked.1, wellFormed.unmarked.2.1, unmarked⟩
  kept := by
    intro point member
    rcases member with authority | path | inside | fragment
    · exact wellFormed.kept point (Or.inl authority)
    · exact wellFormed.kept point (Or.inr (Or.inl path))
    · exact kept point inside
    · exact wellFormed.kept point (Or.inr (Or.inr (Or.inr fragment)))

end WellFormed

end Parts

end EndSession.Uri
