import EndSession.Proofs.Uri.Parts
import EndSession.Uri.Acceptance
import EndSession.Uri.Redirection

/-
This file proves that a state which is added to an acceptable URI becomes one more pair of its query,
and touches nothing else, unless the query holds a surrogate that cannot be written.
-/

namespace EndSession.Uri

open Text

namespace Form

/-- Written octets hold no mark of a fragment, and nothing that is dropped when they are read. -/
theorem isKept_of_mem_escape {char : Char} {octets : List UInt8} (member : char ∈ escape octets) :
    char ≠ '#' ∧ isKept char = true := by
  have all : ((List.range 256).all fun index =>
      (escapeOctet (UInt8.ofNat index)).all fun char => char != '#' && isKept char) = true := by
    decide +kernel
  obtain ⟨octet, _, inside⟩ := List.mem_flatMap.mp member
  have octets := List.all_eq_true.mp all octet.toNat (List.mem_range.mpr octet.toNat_lt)
  rw [UInt8.ofNat_toNat] at octets
  have here := List.all_eq_true.mp octets char inside
  simpa using here

/-- The same holds of a written pair. -/
theorem isKept_of_mem_writePair {point : CodePoint} {pair : List UInt8 × List UInt8}
    (member : point ∈ writePair pair) : point ≠ '#' ∧ isKept point = true := by
  have here {octets : List UInt8} (inside : point ∈ CodePoint.ofChars (escape octets)) :
      point ≠ '#' ∧ isKept point = true := by
    obtain ⟨char, written, rfl⟩ := List.mem_map.mp inside
    obtain ⟨plain, kept⟩ := isKept_of_mem_escape written
    exact ⟨fun same => plain (CodePoint.char.inj same), kept⟩
  rcases List.mem_append.mp member with name | behind
  · exact here name
  · rcases List.mem_cons.mp behind with rfl | value
    · decide
    · exact here value

/-- The same holds of a written query. -/
theorem isKept_of_mem_write {point : CodePoint} {pairs : List (List UInt8 × List UInt8)}
    (member : point ∈ write pairs) : point ≠ '#' ∧ isKept point = true := by
  induction pairs using write.induct with
  | case1 => cases member
  | case2 pair => exact isKept_of_mem_writePair member
  | case3 pair rest filled inductionHypothesis =>
      rw [write] at member
      · rcases List.mem_append.mp member with first | behind
        · exact isKept_of_mem_writePair first
        · rcases List.mem_cons.mp behind with rfl | others
          · decide
          · exact inductionHypothesis others
      · exact filled

/-- The parts of a divided text hold nothing else. -/
theorem mem_of_mem_splitOn {mark point : CodePoint} {text part : List CodePoint}
    (divided : part ∈ splitOn mark text) (member : point ∈ part) : point ∈ text := by
  induction text generalizing part with
  | nil =>
      rw [List.mem_singleton.mp divided] at member
      exact member
  | cons first rest inductionHypothesis =>
      simp only [splitOn] at divided
      split at divided
      · rcases List.mem_cons.mp divided with rfl | later
        · cases member
        · exact List.mem_cons_of_mem _ (inductionHypothesis later member)
      · split at divided
        · rename_i none
          rw [List.mem_singleton.mp divided] at member
          rw [List.mem_singleton.mp member]
          exact List.mem_cons_self
        · rename_i head others found
          rcases List.mem_cons.mp divided with rfl | later
          · rcases List.mem_cons.mp member with rfl | inside
            · exact List.mem_cons_self
            · exact List.mem_cons_of_mem _
                (inductionHypothesis (found ▸ List.mem_cons_self) inside)
          · exact List.mem_cons_of_mem _
              (inductionHypothesis (found ▸ List.mem_cons_of_mem _ later) member)

/-- A query of characters has pairs of characters. -/
theorem isUnicode_of_read {query : List CodePoint} (characters : ∀ point ∈ query, point.IsCharacter) :
    ∀ pair ∈ read query, pair.1.IsUnicode ∧ pair.2.IsUnicode := by
  intro pair member
  obtain ⟨part, divided, rfl⟩ := List.mem_map.mp member
  have inside {text : List CodePoint} (within : ∀ point ∈ text, point ∈ part) :
      (readText text).IsUnicode := by
    obtain ⟨chars, rfl⟩ := CodePoint.exists_chars fun point member =>
      characters point (mem_of_mem_splitOn (List.mem_filter.mp divided).1 (within point member))
    exact isUnicode_readText chars
  exact ⟨inside fun _ => mem_of_mem_before, inside fun _ => mem_of_mem_after⟩

end Form

/-- An acceptable URI is read as well-formed parts. -/
theorem wellFormed_of_isAcceptable {fragmentAllowed : Bool} {uri : Text}
    (acceptable : isAcceptable fragmentAllowed uri = true) :
    ∃ parts, Parts.read uri.toList = .ok parts ∧ parts.WellFormed := by
  obtain ⟨parts, done, address, _⟩ := (isAcceptable_iff fragmentAllowed uri).mp acceptable
  have authority : parts.authority ≠ [] := by
    intro empty
    apply address.host
    rw [Parts.host, empty]
    rfl
  exact ⟨parts, done, Parts.wellFormed_of_read done address.scheme authority⟩

/-- A URI of characters has a query of characters. -/
theorem isUnicode_of_read_query {uri : Text} {parts : Parts} (unicode : uri.IsUnicode)
    (done : Parts.read uri.toList = .ok parts) :
    ∀ pair ∈ Form.read parts.query, pair.1.IsUnicode ∧ pair.2.IsUnicode := by
  apply Form.isUnicode_of_read
  intro point member
  exact unicode.isCharacter (Parts.mem_of_mem_query done member)

/-- Adding a state to a URI with well-formed parts replaces its query, and nothing else. The query has
the pairs that it had and then the state. -/
theorem withState_of_wellFormed {uri : Text} {parts : Parts}
    (done : Parts.read uri.toList = .ok parts) (wellFormed : parts.WellFormed)
    (written : ∀ pair ∈ Form.read parts.query, pair.1.IsUnicode ∧ pair.2.IsUnicode)
    (state : String) :
    ∃ target query, withState uri (.text state) = .ok target ∧
      Parts.read target.toList = .ok { parts with query := query } ∧
      Form.read query = Form.read parts.query ++ [(ofString stateName, ofString state)] := by
  obtain ⟨pairs, encoded⟩ :=
    Option.isSome_iff_exists.mp ((Form.isSome_encodePairs?_iff _).mpr written)
  have added := Form.encodePairs?_append encoded stateName state
  refine ⟨⟨Parts.write { parts with query := queryWithState pairs (Utf8.encode state.toList) }⟩,
    queryWithState pairs (Utf8.encode state.toList), ?_, ?_, Form.read_write added⟩
  · unfold withState
    simp only [done, encoded, Value.toOctets_text]
  · apply Parts.WellFormed.read_write
    apply wellFormed.withQuery
    · intro member
      exact (Form.isKept_of_mem_write member).1 rfl
    · intro point member
      exact (Form.isKept_of_mem_write member).2

/-- No state can be added to a URI whose query holds a surrogate in one of its pairs. -/
theorem withState_of_surrogate {uri : Text} {parts : Parts}
    (done : Parts.read uri.toList = .ok parts)
    (unwritten : ¬ ∀ pair ∈ Form.read parts.query, pair.1.IsUnicode ∧ pair.2.IsUnicode)
    (state : Value) : withState uri state = .error .surrogateInQuery := by
  rw [← Form.isSome_encodePairs?_iff, Option.not_isSome_iff_eq_none] at unwritten
  unfold withState
  simp only [done, unwritten]

end EndSession.Uri
