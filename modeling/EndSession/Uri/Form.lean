import EndSession.Net.Address
import EndSession.Text.Split
import EndSession.Text.Utf8

/-
This file writes and reads the pairs of a query. A space is written as a plus sign, and every octet
that is not unreserved by its code. Reading undoes writing.
-/

namespace EndSession.Uri.Form

open Text

/-- The octets that are written as themselves: letters, digits and four marks. -/
def isUnreserved (octet : UInt8) : Bool :=
  let char := Char.ofNat octet.toNat
  octet.toNat < 0x80 && (char.isAlphanum || char == '_' || char == '.' || char == '-' || char == '~')

/-- One hexadecimal digit, in upper case. -/
def hexDigit (value : Nat) : Char :=
  Char.ofNat (if value < 10 then 0x30 + value else 0x37 + value)

/-- The written form of an octet. -/
def escapeOctet (octet : UInt8) : List Char :=
  if isUnreserved octet then [Char.ofNat octet.toNat]
  else if octet = 0x20 then ['+']
  else ['%', hexDigit (octet.toNat / 16), hexDigit (octet.toNat % 16)]

/-- The written form of octets. -/
def escape (octets : List UInt8) : List Char :=
  octets.flatMap escapeOctet

/-- The octets of written characters. A percent sign without two digits behind it is itself. -/
def unescape : List Char → List UInt8
  | '%' :: high :: low :: rest =>
    match Net.Address.hexValue? high, Net.Address.hexValue? low with
    | some left, some right => UInt8.ofNat (16 * left + right) :: unescape rest
    | _, _ => 0x25 :: unescape (high :: low :: rest)
  | char :: rest => Utf8.encodeChar char ++ unescape rest
  | [] => []

/-- A plus sign is a space. -/
def plusToSpace (char : Char) : Char :=
  if char = '+' then ' ' else char

/-- The characters that written characters stand for. -/
def readRun (run : List Char) : List CodePoint :=
  CodePoint.ofChars (Utf8.decode (unescape (run.map plusToSpace)))

/-- What is written behind a run of characters. A surrogate ends the run and stays as it is. -/
def readFrom (run : List Char) : List CodePoint → List CodePoint
  | [] => readRun run
  | .char value :: rest => readFrom (run ++ [value]) rest
  | .surrogate index :: rest => readRun run ++ .surrogate index :: readFrom [] rest

/-- The text of a written name or value. -/
def readText (text : List CodePoint) : Text :=
  ⟨readFrom [] text⟩

/-- The name and the value of a part, which the first equals sign divides. -/
def readPair (part : List CodePoint) : Text × Text :=
  (readText (before '=' part), readText (after '=' part))

/-- The pairs of a query. Empty parts are dropped. -/
def read (query : List CodePoint) : List (Text × Text) :=
  ((splitOn '&' query).filter fun part => !part.isEmpty).map readPair

/-- The written form of a pair. -/
def writePair (pair : List UInt8 × List UInt8) : List CodePoint :=
  CodePoint.ofChars (escape pair.1) ++ .char '=' :: CodePoint.ofChars (escape pair.2)

/-- The query of pairs. -/
def write : List (List UInt8 × List UInt8) → List CodePoint
  | [] => []
  | [pair] => writePair pair
  | pair :: rest => writePair pair ++ .char '&' :: write rest

/-- The octets of pairs of texts, if all the texts have octets. -/
def encodePairs? : List (Text × Text) → Option (List (List UInt8 × List UInt8))
  | [] => some []
  | (name, value) :: rest =>
    match Utf8.encode? name, Utf8.encode? value, encodePairs? rest with
    | some nameOctets, some valueOctets, some others => some ((nameOctets, valueOctets) :: others)
    | _, _, _ => none

/-- A digit is found again by its character, which is neither a mark of a query nor a plus sign. -/
theorem hexDigit_spec (value : Nat) (small : value < 16) :
    Net.Address.hexValue? (hexDigit value) = some value ∧ hexDigit value ≠ '+' ∧
      hexDigit value ≠ '&' ∧ hexDigit value ≠ '=' := by
  have all : ∀ index : Fin 16, Net.Address.hexValue? (hexDigit index.val) = some index.val ∧
      hexDigit index.val ≠ '+' ∧ hexDigit index.val ≠ '&' ∧ hexDigit index.val ≠ '=' := by
    decide
  exact all ⟨value, small⟩

/-- An octet that is written as itself is ASCII, and none of the characters with a meaning. -/
theorem isUnreserved_spec (octet : UInt8) (free : isUnreserved octet = true) :
    Utf8.encodeChar (Char.ofNat octet.toNat) = [octet] ∧ Char.ofNat octet.toNat ≠ '%' ∧
      Char.ofNat octet.toNat ≠ '+' ∧ Char.ofNat octet.toNat ≠ '&' ∧
        Char.ofNat octet.toNat ≠ '=' := by
  have all : ∀ index : Fin 256, isUnreserved (UInt8.ofNat index.val) = true →
      Utf8.encodeChar (Char.ofNat index.val) = [UInt8.ofNat index.val] ∧
        Char.ofNat index.val ≠ '%' ∧ Char.ofNat index.val ≠ '+' ∧ Char.ofNat index.val ≠ '&' ∧
          Char.ofNat index.val ≠ '=' := by
    decide +kernel
  have here := all ⟨octet.toNat, octet.toNat_lt⟩
  simp only [UInt8.ofNat_toNat] at here
  exact here free

/-- A character that is no percent sign stands for its own octets. -/
theorem unescape_cons {char : Char} (plain : char ≠ '%') (rest : List Char) :
    unescape (char :: rest) = Utf8.encodeChar char ++ unescape rest := by
  rw [unescape.eq_def]
  split
  · rename_i high low behind same
    cases same
    exact absurd rfl plain
  · rename_i same
    cases same
    rfl
  · rename_i same
    cases same

/-- The written form of an octet is read as the octet. -/
theorem unescape_escapeOctet (octet : UInt8) (rest : List Char) :
    unescape ((escapeOctet octet).map plusToSpace ++ rest) = octet :: unescape rest := by
  have range := octet.toNat_lt
  unfold escapeOctet
  split
  · rename_i free
    obtain ⟨encoded, notPercent, notPlus, _, _⟩ := isUnreserved_spec octet free
    simp only [List.map_cons, List.map_nil, plusToSpace, notPlus, if_false, List.cons_append,
      List.nil_append]
    rw [unescape_cons notPercent, encoded]
    rfl
  · split
    · rename_i space
      subst space
      simp only [List.map_cons, List.map_nil, plusToSpace, if_true, List.cons_append,
        List.nil_append]
      rw [unescape_cons (by decide)]
      rfl
    · obtain ⟨high, highPlain, _, _⟩ := hexDigit_spec (octet.toNat / 16) (by omega)
      obtain ⟨low, lowPlain, _, _⟩ := hexDigit_spec (octet.toNat % 16) (by omega)
      have whole : 16 * (octet.toNat / 16) + octet.toNat % 16 = octet.toNat := by omega
      simp [plusToSpace, unescape, highPlain, lowPlain, high, low, whole]

/-- Written octets are read as themselves. -/
theorem unescape_escape (octets : List UInt8) :
    unescape ((escape octets).map plusToSpace) = octets := by
  induction octets with
  | nil => rfl
  | cons octet octets inductionHypothesis =>
      rw [escape, List.flatMap_cons, List.map_append, unescape_escapeOctet]
      exact congrArg (octet :: ·) inductionHypothesis

/-- Characters that follow a run of characters are read together with it. -/
theorem readFrom_ofChars (run chars : List Char) :
    readFrom run (CodePoint.ofChars chars) = readRun (run ++ chars) := by
  induction chars generalizing run with
  | nil => rw [List.append_nil]; rfl
  | cons char chars inductionHypothesis =>
      have step := inductionHypothesis (run ++ [char])
      rw [List.append_assoc] at step
      exact step

/-- Characters are read as characters. -/
theorem isUnicode_readText (chars : List Char) :
    (readText (CodePoint.ofChars chars)).IsUnicode := by
  rw [isUnicode_iff]
  refine ⟨Utf8.decode (unescape (chars.map plusToSpace)), ?_⟩
  rw [CodePoint.chars?_eq_some_iff]
  exact readFrom_ofChars [] chars

/-- A written text is read as itself. -/
theorem readText_escape {text : Text} {octets : List UInt8} (encoded : Utf8.encode? text = some octets) :
    readText (CodePoint.ofChars (escape octets)) = text := by
  obtain ⟨chars, characters, rfl⟩ := Option.map_eq_some_iff.mp encoded
  have whole : readFrom [] (CodePoint.ofChars (escape (Utf8.encode chars))) = text.toList := by
    rw [readFrom_ofChars, List.nil_append, readRun, unescape_escape, Utf8.decode_encode]
    exact (CodePoint.chars?_eq_some_iff.mp characters).symm
  cases text
  exact congrArg Text.mk whole

/-- Written octets hold no mark that divides a query. -/
theorem not_mem_escape (octets : List UInt8) : '&' ∉ escape octets ∧ '=' ∉ escape octets := by
  have each (octet : UInt8) : '&' ∉ escapeOctet octet ∧ '=' ∉ escapeOctet octet := by
    have range := octet.toNat_lt
    unfold escapeOctet
    split
    · rename_i free
      obtain ⟨_, _, _, notAmpersand, notEquals⟩ := isUnreserved_spec octet free
      simp [Ne.symm notAmpersand, Ne.symm notEquals]
    · split
      · decide
      · obtain ⟨_, _, highAmpersand, highEquals⟩ := hexDigit_spec (octet.toNat / 16) (by omega)
        obtain ⟨_, _, lowAmpersand, lowEquals⟩ := hexDigit_spec (octet.toNat % 16) (by omega)
        simp [Ne.symm highAmpersand, Ne.symm highEquals, Ne.symm lowAmpersand, Ne.symm lowEquals]
  constructor
  · intro member
    obtain ⟨octet, _, found⟩ := List.mem_flatMap.mp member
    exact (each octet).1 found
  · intro member
    obtain ⟨octet, _, found⟩ := List.mem_flatMap.mp member
    exact (each octet).2 found

/-- A written pair holds no mark between pairs. -/
theorem not_mem_writePair (pair : List UInt8 × List UInt8) : .char '&' ∉ writePair pair := by
  simp [writePair, (not_mem_escape pair.1).1, (not_mem_escape pair.2).1]

/-- A written pair is read as itself. -/
theorem readPair_writePair {name value : Text} {nameOctets valueOctets : List UInt8}
    (nameEncoded : Utf8.encode? name = some nameOctets)
    (valueEncoded : Utf8.encode? value = some valueOctets) :
    readPair (writePair (nameOctets, valueOctets)) = (name, value) := by
  have undivided : CodePoint.char '=' ∉ CodePoint.ofChars (escape nameOctets) := by
    simpa using (not_mem_escape nameOctets).2
  simp only [readPair, writePair, before_append undivided, after_append undivided,
    readText_escape nameEncoded, readText_escape valueEncoded]

/-- The parts of a written query are its written pairs. -/
theorem splitOn_write (pair : List UInt8 × List UInt8) (rest : List (List UInt8 × List UInt8)) :
    splitOn '&' (write (pair :: rest)) = (pair :: rest).map writePair := by
  induction rest generalizing pair with
  | nil => exact splitOn_of_not_mem (not_mem_writePair pair)
  | cons next rest inductionHypothesis =>
      rw [write, splitOn_append (not_mem_writePair pair), inductionHypothesis]
      · rfl
      · intro empty
        cases empty

/-- The written parts of pairs that have octets are read as these pairs. -/
theorem map_readPair_writePair {pairs : List (Text × Text)} {octets : List (List UInt8 × List UInt8)}
    (encoded : encodePairs? pairs = some octets) :
    (octets.map writePair).map readPair = pairs := by
  induction pairs generalizing octets with
  | nil =>
      cases encoded
      rfl
  | cons pair rest inductionHypothesis =>
      obtain ⟨name, value⟩ := pair
      simp only [encodePairs?] at encoded
      split at encoded
      · rename_i nameOctets valueOctets others nameEncoded valueEncoded restEncoded
        cases encoded
        rw [List.map_cons, List.map_cons, readPair_writePair nameEncoded valueEncoded,
          inductionHypothesis restEncoded]
      · cases encoded

/-- Reading undoes writing: every list of pairs that have octets comes back as it is. -/
theorem read_write {pairs : List (Text × Text)} {octets : List (List UInt8 × List UInt8)}
    (encoded : encodePairs? pairs = some octets) : read (write octets) = pairs := by
  cases octets with
  | nil => exact map_readPair_writePair encoded
  | cons pair rest =>
      have filled : ((pair :: rest).map writePair).filter (fun part => !part.isEmpty) =
          (pair :: rest).map writePair := by
        rw [List.filter_eq_self]
        intro part member
        obtain ⟨octets, _, rfl⟩ := List.mem_map.mp member
        simp [writePair]
      rw [read, splitOn_write, filled]
      exact map_readPair_writePair encoded

/-- One more pair of characters has the octets of its characters. -/
theorem encodePairs?_append {pairs : List (Text × Text)} {octets : List (List UInt8 × List UInt8)}
    (encoded : encodePairs? pairs = some octets) (name value : String) :
    encodePairs? (pairs ++ [(ofString name, ofString value)]) =
      some (octets ++ [(Utf8.encode name.toList, Utf8.encode value.toList)]) := by
  induction pairs generalizing octets with
  | nil =>
      cases encoded
      simp [encodePairs?]
  | cons pair rest inductionHypothesis =>
      obtain ⟨first, second⟩ := pair
      simp only [encodePairs?] at encoded
      split at encoded
      · rename_i _ _ _ firstEncoded secondEncoded restEncoded
        cases encoded
        simp only [List.cons_append, encodePairs?, firstEncoded, secondEncoded,
          inductionHypothesis restEncoded]
      · cases encoded

/-- Pairs have octets exactly when their names and values are all characters. -/
theorem isSome_encodePairs?_iff (pairs : List (Text × Text)) :
    (encodePairs? pairs).isSome = true ↔ ∀ pair ∈ pairs, pair.1.IsUnicode ∧ pair.2.IsUnicode := by
  induction pairs with
  | nil => simp [encodePairs?]
  | cons pair rest inductionHypothesis =>
      obtain ⟨name, value⟩ := pair
      rw [List.forall_mem_cons, ← inductionHypothesis, ← Utf8.isSome_encode?_iff,
        ← Utf8.isSome_encode?_iff, encodePairs?]
      cases Utf8.encode? name <;> cases Utf8.encode? value <;> cases encodePairs? rest <;> simp

end EndSession.Uri.Form
