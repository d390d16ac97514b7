import EndSession.Claims.IdToken
import EndSession.Proofs.Claims.Issuance
import EndSession.Proofs.First

/-
This file tells which claims can be stored anew and then pass their checks, under any requirements:
that is a matter of each claim alone, and of those that have to be there.
-/

namespace EndSession.Claims

open Number

/-- The pairs are checked in turn. -/
theorem checkAll_eq_forM {α ε : Type} (check : String → α → Except ε Unit)
    (pairs : List (String × α)) :
    checkAll check pairs = forM pairs fun pair => check pair.1 pair.2 := by
  induction pairs with
  | nil => rfl
  | cons pair rest inductionHypothesis =>
      rw [checkAll, List.forM_cons, inductionHypothesis]
      cases check pair.1 pair.2 <;> rfl

/-- The checks of all pairs fail at the first one that does not pass. -/
theorem checkAll_eq_error_iff {α ε : Type} {check : String → α → Except ε Unit}
    {pairs : List (String × α)} {fault : ε} :
    checkAll check pairs = .error fault ↔
      ∃ pair, IsFirst (fun pair => check pair.1 pair.2 ≠ .ok ()) pairs pair ∧
        check pair.1 pair.2 = .error fault := by
  rw [checkAll_eq_forM, forM_eq_error_iff]

/-- The checks of claims pass when no requirement has a name that the checker keeps, no essential claim
is missing, and every claim passes. -/
theorem checkIdToken_eq_ok_iff {options : Options} {timing : Timing} {claims : Entries Value} :
    checkIdToken options timing claims = .ok () ↔
      keptNames.any options.contains = false ∧ options.missing claims = [] ∧
        ∀ pair ∈ claims.toList, checkClaim options timing.horizon pair.1 pair.2 = .ok () := by
  rw [← checkAll_eq_ok_iff]
  unfold checkIdToken
  cases keptNames.any options.contains with
  | true => simp
  | false => cases options.missing claims <;> simp

/-- Without any requirement only the claims themselves are checked. -/
theorem checkIdToken_empty (timing : Timing) (claims : Entries Value) :
    checkIdToken Entries.empty timing claims =
      checkAll (checkClaim Entries.empty timing.horizon) claims.toList := by
  unfold checkIdToken
  rw [Options.missing_empty]
  rfl

/-- Claims that can be stored anew and then pass their checks. -/
def Passes (options : Options) (timing : Timing) (claims : Entries Value) : Prop :=
  ∃ stored, issue claims = .ok stored ∧ checkIdToken options timing stored = .ok ()

/-- The value can be stored under the name of the claim, and what is stored passes its check. -/
def PassesAlone (options : Options) (horizon : Except TimeFault Numeric) (claim : String)
    (value : Value) : Prop :=
  ∃ stored, convert claim value = .ok stored ∧
    checkClaim options horizon claim stored.toValue = .ok ()

/-- No essential claim is missing when all of them are there and are not nothing. -/
theorem missing_eq_nil_iff {options : Options} {claims : Entries Value} :
    options.missing claims = [] ↔
      ∀ pair ∈ options.toList, pair.2.isEssential = true →
        ((claims.get? pair.1).getD .null).isNull = false := by
  unfold Options.missing
  rw [← List.length_eq_zero_iff, List.length_mergeSort, List.length_map, List.length_eq_zero_iff,
    List.filter_eq_nil_iff]
  simp only [Bool.and_eq_true, not_and, Bool.not_eq_true]

/-- An essential claim that is stored is missing when it was not given. -/
theorem isNull_stored_iff {given claims : Entries Value} (done : issue given = .ok claims)
    (claim : String) : ((claims.get? claim).getD .null).isNull = false ↔ given.get? claim ≠ none := by
  have each := rel_get?_of_issue done claim
  generalize given.get? claim = before at each
  generalize claims.get? claim = after at each
  cases each with
  | none => simp [Value.isNull]
  | some kept =>
      obtain ⟨stored, _, rfl⟩ := kept
      cases stored <;> simp [StoredValue.toValue, Value.isNull]

/-- Claims pass when no requirement has a name that the checker keeps, the essential ones are there,
and each of them passes alone. -/
theorem passes_iff {options : Options} {timing : Timing} {claims : Entries Value} :
    Passes options timing claims ↔
      keptNames.any options.contains = false ∧
        (∀ pair ∈ options.toList, pair.2.isEssential = true → claims.get? pair.1 ≠ none) ∧
          ∀ pair ∈ claims.toList, PassesAlone options timing.horizon pair.1 pair.2 := by
  -- What is checked is stored, and each condition on it is one on what was given.
  have checks_iff {stored : Entries Value} (issued : issue claims = .ok stored) :
      checkIdToken options timing stored = .ok () ↔
        keptNames.any options.contains = false ∧
          (∀ pair ∈ options.toList, pair.2.isEssential = true → claims.get? pair.1 ≠ none) ∧
            ∀ pair ∈ claims.toList, PassesAlone options timing.horizon pair.1 pair.2 := by
    have each := forall_stored_iff issued fun claim value =>
      checkClaim options timing.horizon claim value = .ok ()
    simp only [checkIdToken_eq_ok_iff, missing_eq_nil_iff, isNull_stored_iff issued]
    exact and_congr_right fun _ => and_congr_right fun _ => each
  constructor
  · rintro ⟨stored, issued, checked⟩
    exact (checks_iff issued).mp checked
  · intro passes
    have storable : ∀ pair ∈ claims.toList, ∃ stored, convert pair.1 pair.2 = .ok stored := by
      intro pair member
      obtain ⟨stored, converted, _⟩ := passes.2.2 pair member
      exact ⟨stored, converted⟩
    obtain ⟨stored, issued⟩ := exists_issue_iff_convert.mpr storable
    exact ⟨stored, issued, (checks_iff issued).mpr passes⟩

/-- The order of claims does not decide whether they pass. -/
theorem passes_of_perm {claims others : Entries Value} (permuted : claims.toList.Perm others.toList)
    {options : Options} {timing : Timing} (passes : Passes options timing claims) :
    Passes options timing others := by
  obtain ⟨unkept, complete, each⟩ := passes_iff.mp passes
  refine passes_iff.mpr ⟨unkept, ?_, ?_⟩
  · intro pair member essential
    rw [Entries.get?_of_perm permuted]
    exact complete pair member essential
  · intro pair member
    exact each pair (permuted.mem_iff.mpr member)

/-- Pairs that pass a check may be left out of the list of those that are checked. -/
theorem checkAll_filter {check : String → Value → Except CheckFault Unit} {kept : String → Bool}
    {pairs : List (String × Value)}
    (passes : ∀ pair ∈ pairs, kept pair.1 = false → check pair.1 pair.2 = .ok ()) :
    checkAll check (pairs.filter fun pair => kept pair.1) = checkAll check pairs := by
  induction pairs with
  | nil => rfl
  | cons pair rest inductionHypothesis =>
      obtain ⟨claim, value⟩ := pair
      rw [List.forall_mem_cons] at passes
      have others := inductionHypothesis passes.2
      cases here : kept claim with
      | true => simp only [List.filter_cons, here, if_true, checkAll, others]
      | false =>
          have passed : check claim value = .ok () := passes.1 here
          simp only [List.filter_cons, here, Bool.false_eq_true, if_false, checkAll, others, passed]

/-- What is stored of dropped claims passes when each of them passes alone. -/
theorem forall_stored_of_passesAlone {options : Options} {horizon : Except TimeFault Numeric}
    {kept : String → Bool} {claims stored : Entries Value} (issued : issue claims = .ok stored)
    (passes : ∀ pair ∈ claims.toList, kept pair.1 = false →
      PassesAlone options horizon pair.1 pair.2) :
    ∀ pair ∈ stored.toList, kept pair.1 = false →
      checkClaim options horizon pair.1 pair.2 = .ok () := by
  refine (forall_stored_iff issued fun claim value =>
    kept claim = false → checkClaim options horizon claim value = .ok ()).mpr ?_
  intro pair member
  obtain ⟨kind, converted⟩ := exists_issue_iff_convert.mp ⟨stored, issued⟩ pair member
  refine ⟨kind, converted, fun dropped => ?_⟩
  obtain ⟨kind', converted', passed⟩ := passes pair member dropped
  cases converted.symm.trans converted'
  exact passed

end EndSession.Claims
