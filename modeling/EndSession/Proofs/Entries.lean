import EndSession.Entries
import EndSession.Proofs.First
import Mathlib.Data.List.Forall2

/-
This file compares entries with those that a change of their values makes: pair by pair, the name
stays and the value is the changed one. It also compares entries with some of their pairs, and with
the same pairs in another order.
-/

namespace EndSession.Entries

variable {α β ε : Type}

/-- Entries are their pairs in order. -/
theorem ext {left right : Entries α} (same : left.toList = right.toList) : left = right := by
  cases left
  cases right
  cases same
  rfl

/-- A change of all values succeeds exactly when it makes each pair from the one in its place. -/
theorem traverse_eq_ok_iff {change : String → α → Except ε β} {pairs : List (String × α)}
    {changed : List (String × β)} :
    traverse change pairs = .ok changed ↔
      List.Forall₂ (fun old new => old.1 = new.1 ∧ change old.1 old.2 = .ok new.2) pairs changed := by
  induction pairs generalizing changed with
  | nil => cases changed <;> simp [traverse]
  | cons pair rest inductionHypothesis =>
      obtain ⟨name, value⟩ := pair
      cases changed with
      | nil =>
          constructor
          · intro done
            have names := names_of_traverse done
            simp at names
          · intro each
            cases each
      | cons next others =>
          obtain ⟨newName, newValue⟩ := next
          rw [List.forall₂_cons, ← inductionHypothesis]
          simp only [traverse]
          cases change name value with
          | error fault => simp
          | ok made =>
              cases traverse change rest with
              | error fault => simp
              | ok list => simp [and_assoc]

/-- The pairs of entries whose values were changed. -/
theorem mapExcept_eq_ok_iff {entries : Entries α} {change : String → α → Except ε β}
    {changed : Entries β} :
    entries.mapExcept change = .ok changed ↔
      traverse change entries.toList = .ok changed.toList := by
  unfold mapExcept
  split
  · rename_i fault failed
    simp [failed]
  · rename_i pairs done
    constructor
    · intro same
      cases same
      exact done
    · intro same
      rw [done] at same
      exact congrArg Except.ok (ext (Except.ok.inj same))

/-- A change of values is refused at the first pair of which the value is. -/
theorem exists_first_of_traverse {change : String → α → Except ε β} {pairs : List (String × α)}
    {fault : ε} (refused : traverse change pairs = .error fault) :
    ∃ pair, IsFirst (fun pair => ¬ ∃ value, change pair.1 pair.2 = .ok value) pairs pair ∧
      change pair.1 pair.2 = .error fault := by
  induction pairs with
  | nil => cases refused
  | cons pair rest inductionHypothesis =>
      simp only [traverse] at refused
      split at refused
      · rename_i here
        cases refused
        refine ⟨pair, .here ?_ rest, here⟩
        rw [here]
        simp
      · rename_i value here
        split at refused
        · rename_i there
          cases refused
          obtain ⟨failing, first, refused⟩ := inductionHypothesis there
          refine ⟨failing, first.behind [pair] ?_, refused⟩
          simp [here]
        · cases refused

/-- Entries whose values cannot be changed. -/
theorem mapExcept_eq_error_iff {entries : Entries α} {change : String → α → Except ε β} {fault : ε} :
    entries.mapExcept change = .error fault ↔ traverse change entries.toList = .error fault := by
  unfold mapExcept
  split
  · rename_i other failed
    simp [failed]
  · rename_i pairs done
    simp [done]

/-- A name finds related values among pairs that are related to others in their order. -/
theorem rel_lookup (related : String → α → β → Prop) {pairs : List (String × α)}
    {changed : List (String × β)}
    (each : List.Forall₂ (fun old new => old.1 = new.1 ∧ related old.1 old.2 new.2) pairs changed)
    (name : String) :
    Option.Rel (related name) (lookup name pairs) (lookup name changed) := by
  induction each with
  | nil => exact .none
  | @cons old new pairs changed here _ inductionHypothesis =>
      obtain ⟨key, before⟩ := old
      obtain ⟨key', after⟩ := new
      obtain ⟨rfl, related⟩ := here
      by_cases same : key = name
      · subst same
        simp only [lookup, if_true]
        exact .some related
      · simp only [lookup, same, if_false]
        exact inductionHypothesis

/-- What a name finds in entries that pairs were written to is from these pairs or was there. -/
theorem mem_of_get?_foldl {pairs : List (String × α)} {entries : Entries α} {name : String}
    {value : α}
    (found : (pairs.foldl (fun entries pair => entries.put pair.1 pair.2) entries).get? name =
      some value) : (name, value) ∈ pairs ∨ entries.get? name = some value := by
  induction pairs generalizing entries with
  | nil => exact Or.inr found
  | cons pair rest inductionHypothesis =>
      rcases inductionHypothesis found with later | before
      · exact Or.inl (List.mem_cons_of_mem pair later)
      · rw [get?_put] at before
        split at before
        · rename_i same
          cases before
          exact Or.inl (same ▸ List.mem_cons_self)
        · exact Or.inr before

/-- What a name finds in the entries of pairs is one of them. -/
theorem mem_of_get?_ofList {pairs : List (String × α)} {name : String} {value : α}
    (found : (ofList pairs).get? name = some value) : (name, value) ∈ pairs := by
  rcases mem_of_get?_foldl found with member | absent
  · exact member
  · cases absent

/-- A new name is written behind all others. -/
theorem write_of_absent {name : String} {pairs : List (String × α)}
    (absent : name ∉ pairs.map Prod.fst) (value : α) :
    write name value pairs = pairs ++ [(name, value)] := by
  induction pairs with
  | nil => rfl
  | cons first rest inductionHypothesis =>
      simp only [List.map_cons, List.mem_cons, not_or] at absent
      simp only [write, Ne.symm absent.1, if_false, inductionHypothesis absent.2, List.cons_append]

/-- Pairs of which no name occurs twice are written behind entries that have none of these names. -/
theorem toList_foldl {pairs : List (String × α)} {entries : Entries α}
    (distinct : ((entries.toList ++ pairs).map Prod.fst).Nodup) :
    (pairs.foldl (fun entries pair => entries.put pair.1 pair.2) entries).toList =
      entries.toList ++ pairs := by
  induction pairs generalizing entries with
  | nil => exact (List.append_nil _).symm
  | cons pair rest inductionHypothesis =>
      obtain ⟨name, value⟩ := pair
      have absent : name ∉ entries.toList.map Prod.fst := by
        rw [List.map_append, List.map_cons, List.nodup_append] at distinct
        exact fun member => distinct.2.2 name member name List.mem_cons_self rfl
      have written : (entries.put name value).toList = entries.toList ++ [(name, value)] :=
        write_of_absent absent value
      have moved : (((entries.put name value).toList ++ rest).map Prod.fst).Nodup := by
        simpa [written] using distinct
      have further := inductionHypothesis moved
      rw [List.foldl_cons, further, written, List.append_assoc]
      rfl

/-- The entries of pairs of which no name occurs twice are these pairs. -/
theorem toList_ofList {pairs : List (String × α)} (distinct : (pairs.map Prod.fst).Nodup) :
    (ofList pairs).toList = pairs :=
  toList_foldl (show ((empty.toList ++ pairs).map Prod.fst).Nodup from distinct)

/-- All pairs have a property when whatever a name finds has it with the name. -/
theorem forall_mem_iff (entries : Entries α) (property : String × α → Prop) :
    (∀ pair ∈ entries.toList, property pair) ↔
      ∀ name, ∀ value ∈ entries.get? name, property (name, value) := by
  simp only [Option.mem_def, get?_eq_some_iff, Prod.forall]

/-- The same pairs in another order are found by the same names. -/
theorem get?_of_perm {entries others : Entries α} (same : entries.toList.Perm others.toList)
    (name : String) : others.get? name = entries.get? name := by
  apply Option.ext
  intro value
  rw [get?_eq_some_iff, get?_eq_some_iff, same.mem_iff]

/-- The entries in the reverse order. -/
def reverse (entries : Entries α) : Entries α :=
  ⟨entries.toList.reverse,
    ((List.reverse_perm entries.toList).map Prod.fst).nodup_iff.mpr entries.distinct⟩

/-- The entries whose names are kept. -/
def restrict (entries : Entries α) (kept : String → Bool) : Entries α :=
  ⟨entries.toList.filter fun pair => kept pair.1,
    (List.filter_sublist.map Prod.fst).nodup entries.distinct⟩

/-- A name that is kept finds what it found before, and every other name nothing. -/
theorem get?_restrict (entries : Entries α) (kept : String → Bool) (name : String) :
    (entries.restrict kept).get? name = if kept name then entries.get? name else none := by
  apply Option.ext
  intro value
  rw [get?_eq_some_iff, restrict, List.mem_filter]
  cases kept name <;> simp [get?_eq_some_iff]

/-- A change of the kept pairs alone is that of all pairs, as long as every dropped one can be
changed. -/
theorem traverse_filter {change : String → α → Except ε β} {kept : String → Bool}
    {pairs : List (String × α)}
    (changeable : ∀ pair ∈ pairs, kept pair.1 = false → ∃ value, change pair.1 pair.2 = .ok value) :
    traverse change (pairs.filter fun pair => kept pair.1) =
      (traverse change pairs).map (List.filter fun pair => kept pair.1) := by
  induction pairs with
  | nil => rfl
  | cons pair rest inductionHypothesis =>
      obtain ⟨name, value⟩ := pair
      rw [List.forall_mem_cons] at changeable
      have others := inductionHypothesis changeable.2
      cases here : kept name with
      | true =>
          simp only [List.filter_cons, here, if_true, traverse, others]
          cases change name value with
          | error fault => rfl
          | ok changed => cases traverse change rest <;> simp [Except.map, here]
      | false =>
          obtain ⟨changed, done⟩ := changeable.1 here
          have done : change name value = .ok changed := done
          simp only [List.filter_cons, here, Bool.false_eq_true, if_false, traverse, others, done]
          cases traverse change rest <;> simp [Except.map, here]

/-- A change of the kept entries alone is that of all entries, as long as every dropped one can be
changed. -/
theorem mapExcept_restrict {change : String → α → Except ε β} {kept : String → Bool}
    {entries : Entries α}
    (changeable : ∀ pair ∈ entries.toList, kept pair.1 = false →
      ∃ value, change pair.1 pair.2 = .ok value) :
    (entries.restrict kept).mapExcept change =
      (entries.mapExcept change).map fun changed => changed.restrict kept := by
  have pairs := traverse_filter changeable
  cases whole : entries.mapExcept change with
  | error fault =>
      rw [mapExcept_eq_error_iff.mp whole] at pairs
      exact mapExcept_eq_error_iff.mpr pairs
  | ok changed =>
      rw [mapExcept_eq_ok_iff.mp whole] at pairs
      exact mapExcept_eq_ok_iff.mpr pairs

/-- What a name finds among changed values is the change of what it found before. -/
theorem get?_map (entries : Entries α) (change : α → β) (name : String) :
    (entries.map change).get? name = (entries.get? name).map change := by
  obtain ⟨pairs, distinct⟩ := entries
  simp only [get?, map]
  clear distinct
  induction pairs with
  | nil => rfl
  | cons pair rest inductionHypothesis =>
      obtain ⟨key, value⟩ := pair
      by_cases same : key = name <;> simp [lookup, same, inductionHypothesis]

/-- Values that are changed alike give the same entries. -/
theorem map_congr {entries : Entries α} {change other : α → β}
    (alike : ∀ pair ∈ entries.toList, change pair.2 = other pair.2) :
    entries.map change = entries.map other := by
  apply ext
  exact List.map_congr_left fun pair member => congrArg (Prod.mk pair.1) (alike pair member)

/-- It does not matter whether a value is written before or after a change of all values. -/
theorem map_put (entries : Entries α) (name : String) (value : α) (change : α → β) :
    (entries.put name value).map change = (entries.map change).put name (change value) := by
  apply ext
  obtain ⟨pairs, distinct⟩ := entries
  simp only [map, put]
  clear distinct
  induction pairs with
  | nil => rfl
  | cons pair rest inductionHypothesis =>
      obtain ⟨key, old⟩ := pair
      by_cases same : key = name <;> simp [write, same, inductionHypothesis]

/-- It does not matter whether a name is removed before or after a change of all values. -/
theorem map_erase (entries : Entries α) (name : String) (change : α → β) :
    (entries.erase name).map change = (entries.map change).erase name := by
  apply ext
  simp [map, erase, List.filter_map, Function.comp_def]

/-- The changed entries of pairs are the entries of the changed pairs. -/
theorem map_ofList (pairs : List (String × α)) (change : α → β) :
    (ofList pairs).map change = ofList (pairs.map fun pair => (pair.1, change pair.2)) := by
  have start : (empty : Entries α).map change = empty := rfl
  unfold ofList
  rw [List.foldl_map, ← start]
  generalize (empty : Entries α) = entries
  induction pairs generalizing entries with
  | nil => rfl
  | cons pair rest inductionHypothesis =>
      rw [List.foldl_cons, List.foldl_cons, inductionHypothesis, map_put]

/-- Writing what a name finds anyway changes nothing. -/
theorem put_eq_self {entries : Entries α} {name : String} {value : α}
    (found : entries.get? name = some value) : entries.put name value = entries := by
  apply ext
  obtain ⟨pairs, distinct⟩ := entries
  simp only [get?, put] at found ⊢
  clear distinct
  induction pairs with
  | nil => cases found
  | cons pair rest inductionHypothesis =>
      obtain ⟨key, old⟩ := pair
      by_cases same : key = name
      · simp only [lookup, same, if_true, Option.some.injEq] at found
        simp only [write, same, if_true, found]
      · simp only [lookup, same, if_false] at found
        simp only [write, same, if_false, inductionHypothesis found]

/-- Two changes of all values that agree on all but one of them differ in what is written for it. -/
theorem map_eq_put_of_alike {entries : Entries α} {name : String} {value : α}
    {change other : α → β} (found : entries.get? name = some value)
    (alike : ∀ pair ∈ entries.toList, pair.1 ≠ name → change pair.2 = other pair.2) :
    entries.map change = (entries.map other).put name (change value) := by
  apply ext
  obtain ⟨pairs, distinct⟩ := entries
  simp only [get?, map, put] at found alike ⊢
  induction pairs with
  | nil => cases found
  | cons pair rest inductionHypothesis =>
      obtain ⟨key, old⟩ := pair
      rw [List.forall_mem_cons] at alike
      rw [List.map_cons, List.nodup_cons] at distinct
      by_cases same : key = name
      · subst same
        simp only [lookup, if_true, Option.some.injEq] at found
        -- No other pair has the name.
        have others (pair : String × α) (member : pair ∈ rest) :
            (pair.1, change pair.2) = (pair.1, other pair.2) := by
          have inside : pair.1 ∈ rest.map Prod.fst := List.mem_map_of_mem member
          have different : pair.1 ≠ key := fun same => distinct.1 (same ▸ inside)
          rw [alike.2 pair member different]
        simp only [List.map_cons, write, if_true, found, List.map_congr_left others]
      · simp only [lookup, same, if_false] at found
        simp only [List.map_cons, write, same, if_false, alike.1 same,
          inductionHypothesis distinct.2 found alike.2]

/-- It does not matter whether entries are dropped before or after a change of all values. -/
theorem map_restrict (entries : Entries α) (kept : String → Bool) (change : α → β) :
    (entries.restrict kept).map change = (entries.map change).restrict kept := by
  apply ext
  simp [map, restrict, List.filter_map, Function.comp_def]

/-- Writing under a name that is not kept changes no entry that is. -/
theorem restrict_put {kept : String → Bool} {name : String} (dropped : kept name = false)
    (entries : Entries α) (value : α) :
    (entries.put name value).restrict kept = entries.restrict kept := by
  apply ext
  obtain ⟨pairs, distinct⟩ := entries
  simp only [restrict, put]
  clear distinct
  induction pairs with
  | nil => simp [write, dropped]
  | cons pair rest inductionHypothesis =>
      obtain ⟨first, old⟩ := pair
      by_cases same : first = name
      · simp [write, same, dropped]
      · simp only [write, same, if_false, List.filter_cons, inductionHypothesis]

end EndSession.Entries
