/-
This file holds named entries in the order of their first arrival. Each name occurs once, and
writing to a name that is there moves nothing.
-/

namespace EndSession

/-- Named values in order, each name once. -/
structure Entries (α : Type) where
  toList : List (String × α)
  distinct : (toList.map Prod.fst).Nodup

namespace Entries

variable {α β ε : Type}

/-- No entries. -/
def empty : Entries α := ⟨[], List.nodup_nil⟩

/-- The names in order. -/
def names (entries : Entries α) : List String :=
  entries.toList.map Prod.fst

/-- The value under a name in a list of pairs. -/
def lookup (name : String) : List (String × α) → Option α
  | [] => none
  | (key, value) :: rest => if key = name then some value else lookup name rest

/-- The value under a name. -/
def get? (entries : Entries α) (name : String) : Option α :=
  lookup name entries.toList

/-- The pairs with the value under a name replaced, or put at the end. -/
def write (name : String) (value : α) : List (String × α) → List (String × α)
  | [] => [(name, value)]
  | (key, old) :: rest =>
    if key = name then (key, value) :: rest else (key, old) :: write name value rest

/-- Only the written name can be new. -/
theorem mem_names_write {name key : String} {value : α} {pairs : List (String × α)}
    (member : key ∈ (write name value pairs).map Prod.fst) :
    key = name ∨ key ∈ pairs.map Prod.fst := by
  induction pairs with
  | nil => simpa [write] using member
  | cons pair rest inductionHypothesis =>
      obtain ⟨first, old⟩ := pair
      by_cases same : first = name
      · simp only [write, same, if_true, List.map_cons, List.mem_cons] at member ⊢
        rcases member with here | there
        · exact Or.inl here
        · exact Or.inr (Or.inr there)
      · simp only [write, same, if_false, List.map_cons, List.mem_cons] at member ⊢
        rcases member with here | there
        · exact Or.inr (Or.inl here)
        · rcases inductionHypothesis there with fresh | old
          · exact Or.inl fresh
          · exact Or.inr (Or.inr old)

/-- Writing keeps the names distinct. -/
theorem nodup_write (name : String) (value : α) {pairs : List (String × α)}
    (distinct : (pairs.map Prod.fst).Nodup) : ((write name value pairs).map Prod.fst).Nodup := by
  induction pairs with
  | nil => simp [write]
  | cons pair rest inductionHypothesis =>
      obtain ⟨first, old⟩ := pair
      simp only [List.map_cons, List.nodup_cons] at distinct
      by_cases same : first = name
      · simp only [write, same, if_true, List.map_cons, List.nodup_cons]
        exact ⟨same ▸ distinct.1, distinct.2⟩
      · simp only [write, same, if_false, List.map_cons, List.nodup_cons]
        refine ⟨fun member => ?_, inductionHypothesis distinct.2⟩
        rcases mem_names_write member with new | present
        · exact same new
        · exact distinct.1 present

/-- Writes a value under a name. -/
def put (entries : Entries α) (name : String) (value : α) : Entries α :=
  ⟨write name value entries.toList, nodup_write name value entries.distinct⟩

/-- Removes a name, if it is there. -/
def erase (entries : Entries α) (name : String) : Entries α :=
  ⟨entries.toList.filter (fun pair => pair.1 != name),
    (List.filter_sublist.map Prod.fst).nodup entries.distinct⟩

/-- The entries of pairs, in which a repeated name keeps its first place and takes its last value. -/
def ofList (pairs : List (String × α)) : Entries α :=
  pairs.foldl (fun entries pair => entries.put pair.1 pair.2) empty

/-- Each name occurs in the entries. -/
def contains (entries : Entries α) (name : String) : Bool :=
  (entries.get? name).isSome

/-- The value written under a name is found there, and every other name keeps its value. -/
theorem lookup_write (name other : String) (value : α) (pairs : List (String × α)) :
    lookup other (write name value pairs) = if name = other then some value else lookup other pairs := by
  induction pairs with
  | nil => simp [write, lookup]
  | cons pair rest inductionHypothesis =>
      obtain ⟨first, old⟩ := pair
      by_cases same : first = name
      · subst same
        by_cases asked : first = other <;> simp [write, lookup, asked]
      · by_cases asked : first = other
        · subst asked
          simp [write, lookup, same, Ne.symm same]
        · simp [write, lookup, same, asked, inductionHypothesis]

/-- The value written under a name is found there, and every other name keeps its value. -/
theorem get?_put (entries : Entries α) (name other : String) (value : α) :
    (entries.put name value).get? other = if name = other then some value else entries.get? other :=
  lookup_write name other value entries.toList

/-- A pair of entries is what its name finds. -/
theorem lookup_eq_some_of_mem {pairs : List (String × α)} (distinct : (pairs.map Prod.fst).Nodup)
    {name : String} {value : α} (member : (name, value) ∈ pairs) :
    lookup name pairs = some value := by
  induction pairs with
  | nil => simp at member
  | cons pair rest inductionHypothesis =>
      obtain ⟨first, old⟩ := pair
      simp only [List.map_cons, List.nodup_cons] at distinct
      simp only [List.mem_cons, Prod.mk.injEq] at member
      rcases member with ⟨here, value'⟩ | there
      · simp [lookup, here, value']
      · have different : first ≠ name := fun same =>
          distinct.1 (same ▸ List.mem_map_of_mem there)
        simp [lookup, different, inductionHypothesis distinct.2 there]

/-- What a name finds is a pair. -/
theorem mem_of_lookup_eq_some {pairs : List (String × α)} {name : String} {value : α}
    (found : lookup name pairs = some value) : (name, value) ∈ pairs := by
  induction pairs with
  | nil => simp [lookup] at found
  | cons pair rest inductionHypothesis =>
      obtain ⟨first, old⟩ := pair
      by_cases same : first = name
      · simp only [lookup, same, if_true, Option.some.injEq] at found
        simp [same, found]
      · simp only [lookup, same, if_false] at found
        exact List.mem_cons_of_mem _ (inductionHypothesis found)

/-- A name finds a value exactly when the two are a pair of the entries. -/
theorem get?_eq_some_iff (entries : Entries α) (name : String) (value : α) :
    entries.get? name = some value ↔ (name, value) ∈ entries.toList :=
  ⟨mem_of_lookup_eq_some, lookup_eq_some_of_mem entries.distinct⟩

/-- A removed name finds nothing, and every other name keeps its value. -/
theorem lookup_filter (name other : String) (pairs : List (String × α)) :
    lookup other (pairs.filter (fun pair => pair.1 != name)) =
      if name = other then none else lookup other pairs := by
  induction pairs with
  | nil => simp [lookup]
  | cons pair rest inductionHypothesis =>
      obtain ⟨first, old⟩ := pair
      by_cases removed : first = name
      · subst removed
        by_cases asked : first = other
        · simp_all
        · simp_all [lookup]
      · by_cases asked : first = other
        · subst asked
          simp [removed, lookup, Ne.symm removed]
        · simp [removed, lookup, asked, inductionHypothesis]

/-- A removed name finds nothing, and every other name keeps its value. -/
theorem get?_erase (entries : Entries α) (name other : String) :
    (entries.erase name).get? other = if name = other then none else entries.get? other :=
  lookup_filter name other entries.toList

/-- Every value changed by a function that may refuse it. The first refusal in order decides. -/
def traverse (change : String → α → Except ε β) :
    List (String × α) → Except ε (List (String × β))
  | [] => .ok []
  | (name, value) :: rest =>
    match change name value with
    | .error fault => .error fault
    | .ok changed =>
      match traverse change rest with
      | .error fault => .error fault
      | .ok others => .ok ((name, changed) :: others)

/-- A change of the values keeps the names and their order. -/
theorem names_of_traverse {change : String → α → Except ε β} {pairs : List (String × α)}
    {changed : List (String × β)} (done : traverse change pairs = .ok changed) :
    changed.map Prod.fst = pairs.map Prod.fst := by
  induction pairs generalizing changed with
  | nil =>
      cases done
      rfl
  | cons pair rest inductionHypothesis =>
      obtain ⟨name, value⟩ := pair
      simp only [traverse] at done
      split at done
      · cases done
      · split at done
        · cases done
        · rename_i others otherwise
          cases done
          simp [inductionHypothesis otherwise]

/-- All values can be changed exactly when each of them can. -/
theorem traverse_succeeds_iff (change : String → α → Except ε β) (pairs : List (String × α)) :
    (∃ changed, traverse change pairs = .ok changed) ↔
      ∀ pair ∈ pairs, ∃ value, change pair.1 pair.2 = .ok value := by
  induction pairs with
  | nil => simp [traverse]
  | cons pair rest inductionHypothesis =>
      obtain ⟨name, value⟩ := pair
      rw [List.forall_mem_cons, ← inductionHypothesis]
      simp only [traverse]
      cases first : change name value with
      | error fault => simp
      | ok changed =>
          cases others : traverse change rest with
          | error fault => simp
          | ok list => simp

/-- The entries with every value changed by a function that may refuse it. -/
def mapExcept (entries : Entries α) (change : String → α → Except ε β) : Except ε (Entries β) :=
  match done : traverse change entries.toList with
  | .error fault => .error fault
  | .ok changed => .ok ⟨changed, names_of_traverse done ▸ entries.distinct⟩

/-- Entries can be changed exactly when each of their values can. -/
theorem mapExcept_succeeds_iff (entries : Entries α) (change : String → α → Except ε β) :
    (∃ changed, entries.mapExcept change = .ok changed) ↔
      ∀ pair ∈ entries.toList, ∃ value, change pair.1 pair.2 = .ok value := by
  rw [← traverse_succeeds_iff]
  unfold mapExcept
  split
  · rename_i fault failed
    constructor
    · rintro ⟨_, impossible⟩
      cases impossible
    · rintro ⟨_, done⟩
      rw [failed] at done
      cases done
  · rename_i changed done
    exact ⟨fun _ => ⟨changed, done⟩, fun _ => ⟨_, rfl⟩⟩

/-- The entries with every value changed. -/
def map (entries : Entries α) (change : α → β) : Entries β :=
  ⟨entries.toList.map fun pair => (pair.1, change pair.2), by
    simpa [List.map_map, Function.comp_def] using entries.distinct⟩

end Entries

end EndSession
