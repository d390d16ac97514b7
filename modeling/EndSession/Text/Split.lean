import EndSession.Text.CodePoint

/-
This file cuts text at a code point: at its first or last occurrence, or at every one.
-/

namespace EndSession.Text

/-- The text in front of the first occurrence. -/
def before (mark : CodePoint) (text : List CodePoint) : List CodePoint :=
  text.takeWhile (· != mark)

/-- The text behind the first occurrence. -/
def after (mark : CodePoint) (text : List CodePoint) : List CodePoint :=
  (text.dropWhile (· != mark)).drop 1

/-- The text behind the last occurrence, all of it if there is none. -/
def afterLast (mark : CodePoint) (text : List CodePoint) : List CodePoint :=
  (text.reverse.takeWhile (· != mark)).reverse

/-- The parts between the occurrences. -/
def splitOn (mark : CodePoint) : List CodePoint → List (List CodePoint)
  | [] => [[]]
  | point :: rest =>
    if point = mark then [] :: splitOn mark rest
    else
      match splitOn mark rest with
      | [] => [[point]]
      | part :: parts => (point :: part) :: parts

/-- A text without the mark is its own part. -/
theorem splitOn_of_not_mem {mark : CodePoint} {text : List CodePoint} (absent : mark ∉ text) :
    splitOn mark text = [text] := by
  induction text with
  | nil => rfl
  | cons point rest inductionHypothesis =>
      simp only [List.mem_cons, not_or] at absent
      simp [splitOn, Ne.symm absent.1, inductionHypothesis absent.2]

/-- A part without the mark in front of a mark is split off. -/
theorem splitOn_append {mark : CodePoint} {part : List CodePoint} (absent : mark ∉ part)
    (rest : List CodePoint) :
    splitOn mark (part ++ mark :: rest) = part :: splitOn mark rest := by
  induction part with
  | nil => simp [splitOn]
  | cons point part inductionHypothesis =>
      simp only [List.mem_cons, not_or] at absent
      simp [splitOn, Ne.symm absent.1, inductionHypothesis absent.2]

/-- The text in front of a mark that it does not hold. -/
theorem before_append {mark : CodePoint} {part : List CodePoint} (absent : mark ∉ part)
    (rest : List CodePoint) :
    before mark (part ++ mark :: rest) = part := by
  induction part with
  | nil => simp [before]
  | cons point part inductionHypothesis =>
      simp only [List.mem_cons, not_or] at absent
      have different : point ≠ mark := Ne.symm absent.1
      simpa [before, List.takeWhile_cons, different] using inductionHypothesis absent.2

/-- The text behind a mark that the part in front does not hold. -/
theorem after_append {mark : CodePoint} {part : List CodePoint} (absent : mark ∉ part)
    (rest : List CodePoint) :
    after mark (part ++ mark :: rest) = rest := by
  induction part with
  | nil => simp [after]
  | cons point part inductionHypothesis =>
      simp only [List.mem_cons, not_or] at absent
      have different : point ≠ mark := Ne.symm absent.1
      simpa [after, List.dropWhile_cons, different] using inductionHypothesis absent.2

end EndSession.Text
