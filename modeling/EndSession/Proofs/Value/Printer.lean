import EndSession.Value.Printer

/-
This file tells which values cannot be written in a message: those that hold a whole number with too
many digits, however deep it stands in them.
-/

namespace EndSession.Value

open Number

/-- The values that a value is directly made of. -/
def parts : Value → List Value
  | list items => items
  | tuple items => items
  | set _ items => items
  | map entries => entries.flatMap fun entry => [entry.1, entry.2]
  | _ => []

/-- The value is a whole number with too many digits, or holds one. -/
inductive HoldsOverlong : Value → Prop where
  | number {whole : Int} (long : Numeral.isOverlong whole = true) :
      HoldsOverlong (.number (.whole whole))
  | part {value part : Value} (member : part ∈ value.parts) (inside : part.HoldsOverlong) :
      HoldsOverlong value

/-- A number cannot be written when it is whole and has too many digits. -/
theorem printNumber_eq_none_iff (number : Numeric) :
    printNumber number = none ↔ HoldsOverlong (.number number) := by
  constructor
  · intro unwritten
    cases number with
    | whole whole =>
        apply HoldsOverlong.number
        simpa [printNumber] using unwritten
    | binary value => cases unwritten
  · intro held
    cases held with
    | number long => simp [printNumber, long]
    | part member _ => cases member

/-- What is not a number holds one with too many digits in one of its parts. -/
theorem holdsOverlong_iff_parts (value : Value) (other : ∀ number, value ≠ .number number) :
    value.HoldsOverlong ↔ ∃ part ∈ value.parts, part.HoldsOverlong := by
  constructor
  · intro held
    cases held with
    | number _ => exact absurd rfl (other _)
    | part member inside => exact ⟨_, member, inside⟩
  · rintro ⟨part, member, inside⟩
    exact .part member inside

mutual

/-- A value cannot be written exactly when it holds a whole number with too many digits. -/
theorem print_eq_none_iff (value : Value) : value.print = none ↔ value.HoldsOverlong := by
  -- The recursion follows the printer: through the items of a value and the entries of a map.
  cases value with
  | number number => rw [print, printNumber_eq_none_iff]
  | list items =>
      rw [print, Option.map_eq_none_iff, printItems_eq_none_iff items,
        holdsOverlong_iff_parts (list items) (by simp)]
      rfl
  | tuple items =>
      rw [print, Option.map_eq_none_iff, printItems_eq_none_iff items,
        holdsOverlong_iff_parts (tuple items) (by simp)]
      rfl
  | set frozen items =>
      have written := printItems_eq_none_iff items
      rw [holdsOverlong_iff_parts (set frozen items) (by simp)]
      cases frozen <;> rw [print, Option.map_eq_none_iff, written] <;> rfl
  | map entries =>
      rw [print, Option.map_eq_none_iff, printEntries_eq_none_iff entries,
        holdsOverlong_iff_parts (map entries) (by simp)]
  | bool value => cases value <;> simp [print, holdsOverlong_iff_parts, parts]
  | null | text _ | octets _ | moment _ => simp [print, holdsOverlong_iff_parts, parts]

/-- Items cannot be written when one of them cannot. -/
theorem printItems_eq_none_iff (items : List Value) :
    printItems items = none ↔ ∃ item ∈ items, item.HoldsOverlong := by
  cases items with
  | nil => simp [printItems]
  | cons item items =>
      simp only [printItems, List.mem_cons, exists_eq_or_imp, ← print_eq_none_iff item,
        ← printItems_eq_none_iff items]
      cases item.print <;> cases printItems items <;> simp

/-- Entries cannot be written when the key or the value of one of them cannot. -/
theorem printEntries_eq_none_iff (entries : List (Value × Value)) :
    printEntries entries = none ↔ ∃ part ∈ (map entries).parts, part.HoldsOverlong := by
  cases entries with
  | nil => simp [printEntries, parts]
  | cons entry entries =>
      obtain ⟨key, value⟩ := entry
      have tail := printEntries_eq_none_iff entries
      simp only [parts] at tail
      simp only [printEntries, parts, List.flatMap_cons, List.cons_append, List.nil_append,
        List.mem_cons, exists_eq_or_imp, ← print_eq_none_iff key, ← print_eq_none_iff value, ← tail]
      cases key.print <;> cases value.print <;> cases printEntries entries <;> simp

end

end EndSession.Value
