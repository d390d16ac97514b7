import EndSession.Entries

/-
This file says what the first fitting item of a list is. Lists of checks stop at the first item that
fails, and searches at the first one that fits.
-/

namespace EndSession

variable {α ε : Type}

/-- The item fits, and nothing in front of it in the list does. -/
def IsFirst (fits : α → Prop) (items : List α) (item : α) : Prop :=
  ∃ before after, items = before ++ item :: after ∧ (∀ earlier ∈ before, ¬ fits earlier) ∧ fits item

namespace IsFirst

variable {fits : α → Prop} {items : List α} {item : α}

theorem mem (first : IsFirst fits items item) : item ∈ items := by
  obtain ⟨before, after, rfl, _, _⟩ := first
  exact List.mem_append_right before List.mem_cons_self

theorem holds (first : IsFirst fits items item) : fits item := by
  obtain ⟨_, _, _, _, fitting⟩ := first
  exact fitting

/-- An item that fits is the first of a list that starts with it. -/
theorem here (fitting : fits item) (rest : List α) : IsFirst fits (item :: rest) item :=
  ⟨[], rest, rfl, by simp, fitting⟩

/-- Items that do not fit may stand in front. -/
theorem behind (front : List α) (none : ∀ earlier ∈ front, ¬ fits earlier)
    (first : IsFirst fits items item) : IsFirst fits (front ++ items) item := by
  obtain ⟨before, after, rfl, skipped, fitting⟩ := first
  refine ⟨front ++ before, after, by simp, ?_, fitting⟩
  intro earlier member
  rcases List.mem_append.mp member with inFront | inBefore
  · exact none earlier inFront
  · exact skipped earlier inBefore

/-- What stands behind does not matter. -/
theorem ahead (first : IsFirst fits items item) (rest : List α) :
    IsFirst fits (items ++ rest) item := by
  obtain ⟨before, after, rfl, skipped, fitting⟩ := first
  exact ⟨before, after ++ rest, by simp, skipped, fitting⟩

/-- Other items may be left out. -/
theorem filter {test : α → Bool} (first : IsFirst fits items item) (kept : test item = true) :
    IsFirst fits (items.filter test) item := by
  obtain ⟨before, after, rfl, skipped, fitting⟩ := first
  refine ⟨before.filter test, after.filter test, by simp [kept], ?_, fitting⟩
  intro earlier member
  exact skipped earlier (List.mem_filter.mp member).1

end IsFirst

/-- Checks in turn fail at the first item that does not pass, with its fault. -/
theorem forM_eq_error_iff {check : α → Except ε Unit} {items : List α} {fault : ε} :
    forM items check = .error fault ↔
      ∃ item, IsFirst (fun item => check item ≠ .ok ()) items item ∧ check item = .error fault := by
  constructor
  · intro stops
    induction items with
    | nil => cases stops
    | cons item rest inductionHypothesis =>
        rw [List.forM_cons] at stops
        cases outcome : check item with
        | error other =>
            rw [outcome] at stops
            cases stops
            exact ⟨item, .here (by simp [outcome]) rest, outcome⟩
        | ok done =>
            rw [outcome] at stops
            obtain ⟨failing, first, refused⟩ := inductionHypothesis stops
            exact ⟨failing, first.behind [item] (by simp [outcome]), refused⟩
  · rintro ⟨item, ⟨before, after, rfl, passed, _⟩, refused⟩
    -- The induction is on the items in front of the failing one, all of which pass.
    induction before with
    | nil =>
        rw [List.nil_append, List.forM_cons, refused]
        rfl
    | cons first before inductionHypothesis =>
        rw [List.forall_mem_cons] at passed
        have here : check first = .ok () := Classical.not_not.mp passed.1
        rw [List.cons_append, List.forM_cons, here]
        exact inductionHypothesis passed.2

/-- A search finds the first item that passes its test. -/
theorem find?_eq_some_iff_isFirst {test : α → Bool} {items : List α} {item : α} :
    items.find? test = some item ↔ IsFirst (fun item => test item = true) items item := by
  rw [List.find?_eq_some_iff_append]
  constructor
  · intro found
    obtain ⟨passes, before, after, split, skipped⟩ := found
    exact ⟨before, after, split, fun earlier member => by simpa using skipped earlier member, passes⟩
  · intro first
    obtain ⟨before, after, split, skipped, passes⟩ := first
    exact ⟨passes, before, after, split, fun earlier member => by simpa using skipped earlier member⟩

end EndSession
