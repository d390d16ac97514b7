import EndSession.Proofs.Provider.Memory
import Mathlib.Data.List.Flatten
import Mathlib.Data.List.Nodup

/-
This file is about tokens that share no claims: each of them has its own at an address of its own. Then
new objects in the memory are not seen at all, and a change of the claims at one address is seen at one
token alone. Tokens that are issued into the memory share no claims with the others.
-/

namespace EndSession.Provider

open Session Client Logout Claims

/-- The addresses that the records of grants refer to. -/
def addressesOf (grants : List Grant) : List Address :=
  grants.flatMap Grant.addresses

/-- Every token of the machine has its claims in the memory, and no two tokens share them. -/
structure Machine.IsUnshared (machine : Machine) : Prop where
  bounded : ∀ address ∈ addressesOf machine.grants, address < machine.memory.length
  distinct : (addressesOf machine.grants).Nodup

section Lists

variable {α β : Type}

/-- It does not matter whether the first fitting item is changed before or after a map that fits the
two changes. -/
theorem map_changeFirst {fits : α → Bool} {change : α → α} {fitsOther : β → Bool}
    {changeOther : β → β} (map : α → β) (alike : ∀ item, fitsOther (map item) = fits item)
    (commutes : ∀ item, map (change item) = changeOther (map item)) (items : List α) :
    (changeFirst fits change items).map map = changeFirst fitsOther changeOther (items.map map) := by
  induction items with
  | nil => rfl
  | cons first rest inductionHypothesis =>
      simp only [changeFirst, List.map_cons, alike]
      split
      · rw [List.map_cons, commutes]
      · rw [List.map_cons, inductionHypothesis]

/-- A change that leaves the first fitting item as it is changes nothing. -/
theorem changeFirst_eq_self {fits : α → Bool} {change : α → α} {items : List α}
    (same : ∀ item ∈ items.find? fits, change item = item) : changeFirst fits change items = items := by
  induction items with
  | nil => rfl
  | cons first rest inductionHypothesis =>
      simp only [List.find?_cons] at same
      simp only [changeFirst]
      split at same
      · rename_i fitting
        rw [if_pos fitting, same first rfl]
      · rename_i skipped
        rw [if_neg (Bool.eq_false_iff.mp skipped), inductionHypothesis same]

/-- Items of which the first fitting one lost some of its parts have no new parts. -/
theorem flatMap_changeFirst_sublist {fits : α → Bool} {change : α → α} {parts : α → List β}
    (shrinks : ∀ item, (parts (change item)).Sublist (parts item)) (items : List α) :
    ((changeFirst fits change items).flatMap parts).Sublist (items.flatMap parts) := by
  induction items with
  | nil => exact List.Sublist.refl _
  | cons first rest inductionHypothesis =>
      simp only [changeFirst]
      split
      · exact (shrinks first).append (List.Sublist.refl _)
      · exact (List.Sublist.refl _).append inductionHypothesis

end Lists

section Views

variable {machine later : Machine}

namespace Machine.IsUnshared

theorem isBounded (unshared : machine.IsUnshared) :
    ∀ grant ∈ machine.grants, grant.IsBounded machine.memory :=
  fun _ member address inside => unshared.bounded address (List.mem_flatMap_of_mem member inside)

/-- Fewer tokens over a larger memory share nothing either. -/
theorem of_sublist (unshared : machine.IsUnshared)
    (fewer : (addressesOf later.grants).Sublist (addressesOf machine.grants))
    (larger : machine.memory.length ≤ later.memory.length) : later.IsUnshared where
  bounded address member := Nat.lt_of_lt_of_le (unshared.bounded address (fewer.subset member)) larger
  distinct := unshared.distinct.sublist fewer

theorem extended (unshared : machine.IsUnshared) (extended : later.Extends machine) :
    later.IsUnshared :=
  unshared.of_sublist (by rw [extended.grants]) extended.memory.length_le

end Machine.IsUnshared

/-- A grant is seen as the same authorization when the objects that it refers to are the same. -/
theorem Grant.view_congr {memory other : Memory} {grant : Grant}
    (same : ∀ address ∈ grant.addresses, objectAt other address = objectAt memory address) :
    grant.view other = grant.view memory := by
  have tokens : grant.tokens.map (TokenRecord.view other) =
      grant.tokens.map (TokenRecord.view memory) :=
    Entries.map_congr fun pair member =>
      TokenRecord.view_congr (same _ (List.mem_map_of_mem member))
  simp only [Grant.view, tokens]

/-- New objects are not seen. -/
theorem Machine.Extends.view_eq (extended : later.Extends machine) (unshared : machine.IsUnshared) :
    later.view = machine.view := by
  have grants : later.grants.map (Grant.view later.memory) =
      machine.grants.map (Grant.view machine.memory) := by
    rw [extended.grants]
    exact List.map_congr_left fun grant member => Grant.view_congr fun address inside =>
      extended.objectAt_eq (unshared.isBounded grant member address inside)
  simp only [Machine.view, grants, extended.rest]

/-- The record of a token refers to an object of the memory. -/
theorem Machine.IsUnshared.bounded_of_record? (unshared : machine.IsUnshared) {place : TokenPlace}
    {record : TokenRecord} (found : machine.record? place = some record) :
    record.claims < machine.memory.length := by
  obtain ⟨grant, granted, held⟩ := Option.bind_eq_some_iff.mp found
  exact unshared.isBounded grant (List.mem_of_find?_eq_some granted) _
    (Grant.claims_mem_addresses held)

end Views

section Changes

variable {memory : Memory} {grant : Grant} {record : TokenRecord} {type : String}
  {change : Entries Value → Entries Value}

/-- The tokens with the one of a type changed, if it is there. -/
def changeTokenOf (type : String) (change : Token → Token) (tokens : Entries Token) : Entries Token :=
  match tokens.get? type with
  | none => tokens
  | some token => tokens.put type (change token)

/-- The record of an invalidated token refers to the claims that it had. -/
theorem addressesIn_put {records : Entries TokenRecord} {type : String} {record other : TokenRecord}
    (held : records.get? type = some record) (same : other.claims = record.claims) :
    addressesIn (records.put type other) = addressesIn records := by
  have addresses (records : Entries TokenRecord) :
      addressesIn records = (records.map TokenRecord.claims).toList.map Prod.snd := by
    simp [addressesIn, Entries.map]
  have claims : (records.map TokenRecord.claims).get? type = some other.claims := by
    rw [Entries.get?_map, held, Option.map_some, same]
  rw [addresses, addresses, Entries.map_put, Entries.put_eq_self claims]

/-- The claims at an address are changed there and nowhere else. -/
theorem objectAt_changeAt {address : Address} (bound : address < memory.length) (other : Address) :
    objectAt (changeAt memory address change) other =
      if address = other then
        { objectAt memory other with claims := change (objectAt memory other).claims }
      else objectAt memory other := by
  simp only [objectAt, changeAt, List.getD_eq_getElem?_getD, List.getElem?_modify]
  split
  · rename_i same
    subst same
    simp [List.getElem?_eq_getElem bound]
  · simp

/-- A grant that does not refer to the changed claims is seen as before. -/
theorem Grant.view_changeAt_of_notMem {address : Address} (bound : address < memory.length)
    (apart : address ∉ grant.addresses) :
    grant.view (changeAt memory address change) = grant.view memory := by
  apply Grant.view_congr
  intro other inside
  have different : address ≠ other := fun same => apart (same ▸ inside)
  rw [objectAt_changeAt bound, if_neg different]

/-- A grant that has them in one token is seen with this token changed. -/
theorem Grant.view_changeAt (bound : record.claims < memory.length) (distinct : grant.addresses.Nodup)
    (held : grant.record? type = some record) :
    (grant.view (changeAt memory record.claims change)).tokens =
      changeTokenOf type (fun token => { token with claims := change token.claims })
        (grant.view memory).tokens := by
  have token : (grant.view memory).tokens.get? type = some (record.view memory) := by
    rw [show (grant.view memory).tokens.get? type = _ from grant.token?_view memory type, held,
      Option.map_some]
  have changed : record.view (changeAt memory record.claims change) =
      { record.view memory with claims := change (record.view memory).claims } := by
    simp only [TokenRecord.view, objectAt_changeAt bound, if_true]
  unfold changeTokenOf
  rw [token]
  simp only [← changed]
  apply Entries.map_eq_put_of_alike held
  intro pair member different
  have inside : (type, record) ∈ grant.tokens.toList := (Entries.get?_eq_some_iff _ _ _).mp held
  -- Two records at one address would be one record, under one type.
  have apart : record.claims ≠ pair.2.claims := by
    intro same
    have pairs := List.inj_on_of_nodup_map distinct inside member same
    exact different (congrArg Prod.fst pairs).symm
  apply TokenRecord.view_congr
  rw [objectAt_changeAt bound, if_neg apart]

/-- Grants are seen with the token at a place changed when its claims are. -/
theorem view_changeAt {grants : List Grant} (distinct : (addressesOf grants).Nodup)
    (bound : record.claims < memory.length) {id : String}
    (found : ((grants.find? fun grant => grant.id == id).bind fun grant => grant.record? type) =
      some record) :
    grants.map (Grant.view (changeAt memory record.claims change)) =
      changeFirst (fun authorization => authorization.id == id)
        (fun authorization => { authorization with
          tokens := changeTokenOf type (fun token => { token with claims := change token.claims })
            authorization.tokens })
        (grants.map (Grant.view memory)) := by
  induction grants with
  | nil => cases found
  | cons grant rest inductionHypothesis =>
      obtain ⟨distinctHere, distinctThere, apart⟩ := List.nodup_append.mp distinct
      have named : (grant.view memory).id = grant.id := rfl
      rw [List.map_cons, List.map_cons, changeFirst, named]
      cases here : grant.id == id with
      | true =>
          simp only [List.find?_cons, here, Option.bind_some] at found
          -- The changed claims belong to the first grant, and the other ones do not refer to them.
          have others : rest.map (Grant.view (changeAt memory record.claims change)) =
              rest.map (Grant.view memory) :=
            List.map_congr_left fun other inside =>
              Grant.view_changeAt_of_notMem bound fun member =>
                apart _ (Grant.claims_mem_addresses found) _
                  (List.mem_flatMap_of_mem inside member) rfl
          simp only [if_true, others, ← Grant.view_changeAt bound distinctHere found]
          rfl
      | false =>
          simp only [List.find?_cons, here] at found
          -- They belong to a later grant, so that this one does not refer to them.
          have inside : record.claims ∈ addressesOf rest := by
            obtain ⟨other, granted, held⟩ := Option.bind_eq_some_iff.mp found
            exact List.mem_flatMap_of_mem (List.mem_of_find?_eq_some granted)
              (Grant.claims_mem_addresses held)
          have same : grant.view (changeAt memory record.claims change) = grant.view memory :=
            Grant.view_changeAt_of_notMem bound fun member => apart _ member _ inside rfl
          simp only [Bool.false_eq_true, if_false, same, inductionHypothesis distinctThere found]

end Changes

section Issuance

variable {memory after : Memory} {records : List (String × TokenRecord)}
  {tokens : List (String × Token)}

/-- Records of new tokens, each with its claims at a new address of its own. -/
structure AreIssued (memory after : Memory) (records : List (String × TokenRecord))
    (tokens : List (String × Token)) : Prop where
  seen : tokens = records.map fun pair => (pair.1, pair.2.view after)
  distinct : (records.map fun pair => pair.2.claims).Nodup
  fresh : ∀ pair ∈ records, memory.length ≤ pair.2.claims ∧ pair.2.claims < after.length

/-- One more record before those of other tokens. -/
theorem AreIssued.cons {stored : Entries Value}
    (issued : AreIssued (memory ++ [⟨stored, Entries.empty⟩]) after records tokens)
    (larger : memory ++ [⟨stored, Entries.empty⟩] <+: after) (type : String) (value : Text)
    (invalidated : Bool) :
    AreIssued memory after ((type, ⟨value, memory.length, invalidated⟩) :: records)
      ((type, ⟨value, stored, invalidated⟩) :: tokens) := by
  have longer : memory.length < (memory ++ [(⟨stored, Entries.empty⟩ : ClaimsObject)]).length := by
    simp
  have here : objectAt after memory.length = ⟨stored, Entries.empty⟩ :=
    (objectAt_of_grown larger longer).trans (objectAt_length memory _)
  -- The claims of the other tokens lie behind those of this one.
  have later (pair : String × TokenRecord) (member : pair ∈ records) :
      memory.length < pair.2.claims := Nat.lt_of_lt_of_le longer (issued.fresh pair member).1
  refine ⟨?_, ?_, ?_⟩
  · rw [List.map_cons, ← issued.seen]
    simp only [TokenRecord.view, here]
  · rw [List.map_cons, List.nodup_cons]
    refine ⟨?_, issued.distinct⟩
    intro member
    obtain ⟨pair, inside, same⟩ := List.mem_map.mp member
    exact absurd same (Nat.ne_of_gt (later pair inside))
  · rw [List.forall_mem_cons]
    refine ⟨⟨Nat.le_refl _, Nat.lt_of_lt_of_le longer larger.length_le⟩, ?_⟩
    intro pair member
    exact ⟨Nat.le_of_lt (later pair member), (issued.fresh pair member).2⟩

/-- Tokens are issued into the memory as they are issued. What this leaves are new objects, even when
one of the tokens cannot be issued. -/
theorem issueRecords_issues (memory : Memory) (forms : List (String × TokenForm)) :
    memory <+: (issueRecords memory forms).1 ∧
      Corresponds Eq (AreIssued memory (issueRecords memory forms).1)
        (issueRecords memory forms).2 (issueTokens forms) := by
  induction forms generalizing memory with
  | nil =>
      exact ⟨List.prefix_rfl, .succeeded ⟨rfl, List.nodup_nil, fun _ member => nomatch member⟩⟩
  | cons pair rest inductionHypothesis =>
      obtain ⟨type, form⟩ := pair
      simp only [issueRecords, issueTokens, Token.issue]
      cases issue form.claims with
      | error fault => exact ⟨List.prefix_rfl, .failed rfl⟩
      | ok stored =>
          obtain ⟨larger, alike⟩ := inductionHypothesis (memory ++ [⟨stored, Entries.empty⟩])
          have longer := (List.prefix_append memory _).trans larger
          cases done : issueRecords (memory ++ [⟨stored, Entries.empty⟩]) rest with
          | mk after outcome =>
              rw [done] at larger longer alike
              simp only [done]
              generalize issueTokens rest = other at alike ⊢
              cases alike with
              | failed same => exact ⟨longer, .failed same⟩
              | succeeded issued => exact ⟨longer, .succeeded (issued.cons larger _ _ _)⟩

/-- Records that are issued together keep their addresses when they are put under their types. -/
theorem AreIssued.nodup_addressesIn (issued : AreIssued memory after records tokens) :
    (addressesIn (Entries.ofList records)).Nodup := by
  have inside (pair : String × TokenRecord) (member : pair ∈ (Entries.ofList records).toList) :
      pair ∈ records :=
    Entries.mem_of_get?_ofList ((Entries.get?_eq_some_iff _ _ _).mpr member)
  refine List.Nodup.map_on ?_ (List.Nodup.of_map _ (Entries.ofList records).distinct)
  intro pair member other memberOther same
  exact List.inj_on_of_nodup_map issued.distinct (inside pair member) (inside other memberOther) same

/-- Their addresses are new. -/
theorem AreIssued.fresh_addressesIn (issued : AreIssued memory after records tokens) :
    ∀ address ∈ addressesIn (Entries.ofList records),
      memory.length ≤ address ∧ address < after.length := by
  intro address member
  obtain ⟨pair, inside, rfl⟩ := List.mem_map.mp member
  exact issued.fresh pair (Entries.mem_of_get?_ofList ((Entries.get?_eq_some_iff _ _ _).mpr inside))

section Granting

variable {machine : Machine} {grant : Grant}

/-- A grant whose tokens have their claims at new addresses of their own shares nothing. -/
theorem Machine.IsUnshared.granted (unshared : machine.IsUnshared) (larger : machine.memory <+: memory)
    (distinct : grant.addresses.Nodup)
    (fresh : ∀ address ∈ grant.addresses, machine.memory.length ≤ address ∧ address < memory.length) :
    Machine.IsUnshared { machine with memory := memory, grants := machine.grants ++ [grant] } := by
  have addresses : addressesOf (machine.grants ++ [grant]) =
      addressesOf machine.grants ++ grant.addresses := by
    simp [addressesOf]
  constructor
  · intro address member
    rw [addresses] at member
    rcases List.mem_append.mp member with old | new
    · exact Nat.lt_of_lt_of_le (unshared.bounded address old) larger.length_le
    · exact (fresh address new).2
  · rw [addresses, List.nodup_append]
    refine ⟨unshared.distinct, distinct, ?_⟩
    intro old memberOld new memberNew
    exact Nat.ne_of_lt (Nat.lt_of_lt_of_le (unshared.bounded old memberOld) (fresh new memberNew).1)

/-- It is seen behind the authorizations that were seen before. -/
theorem Machine.view_granted (unshared : machine.IsUnshared) (larger : machine.memory <+: memory)
    (grant : Grant) :
    Machine.view { machine with memory := memory, grants := machine.grants ++ [grant] } =
      { machine.view with
        authorizations := machine.view.authorizations ++ [grant.view memory] } := by
  have extended : Machine.Extends { machine with memory := memory } machine := ⟨rfl, rfl, larger⟩
  have seen : machine.grants.map (Grant.view memory) = machine.grants.map (Grant.view machine.memory) :=
    congrArg State.authorizations (extended.view_eq unshared)
  simp only [Machine.view, List.map_append, List.map_cons, List.map_nil, seen]

end Granting

end Issuance

end EndSession.Provider
