import EndSession.Proofs.Entries
import EndSession.Proofs.Logout.Correspondence
import EndSession.Provider.Machine

/-
This file compares works on a machine with the computations of the provider that it is seen as. A work
that carries out a computation reads the same, comes to the same outcome, and adds nothing but new
objects behind those in the memory, whether it succeeds or fails. The judgement on a logout request is
such a work.
-/

namespace EndSession.Provider

open Session Client Logout Claims

/-- The machine has come out of an earlier one by new objects in its memory alone. -/
structure Machine.Extends (machine earlier : Machine) : Prop where
  rest : machine.rest = earlier.rest
  grants : machine.grants = earlier.grants
  memory : earlier.memory <+: machine.memory

/-- On any machine that extends the given one, the work only extends it further, reads what the
computation reads, and fails as the computation does or has a related value. -/
def Carries {α β : Type} (machine : Machine) (related : α → β → Prop) (work : Work α)
    (consultation : Consultation β) : Prop :=
  ∀ later : Machine, later.Extends machine →
    (work later).1.Extends machine ∧ (work later).2.reads = consultation.reads ∧
      Corresponds Eq related (work later).2.outcome consultation.outcome

/-- The addresses that records refer to. -/
def addressesIn (records : Entries TokenRecord) : List Address :=
  records.toList.map fun pair => pair.2.claims

/-- The addresses that the records of a grant refer to. -/
def Grant.addresses (grant : Grant) : List Address :=
  addressesIn grant.tokens

/-- All records of a grant refer to objects of the memory. -/
def Grant.IsBounded (memory : Memory) (grant : Grant) : Prop :=
  ∀ address ∈ grant.addresses, address < memory.length

/-- A grant refers to the claims of a record that it holds. -/
theorem Grant.claims_mem_addresses {grant : Grant} {type : String} {record : TokenRecord}
    (held : grant.record? type = some record) : record.claims ∈ grant.addresses := by
  have member := (Entries.get?_eq_some_iff grant.tokens type record).mp held
  exact List.mem_map_of_mem member

section Views

variable {memory later : Memory}

/-- An object stays at its address when others are put behind it. -/
theorem objectAt_of_grown (extended : memory <+: later) {address : Address}
    (bound : address < memory.length) : objectAt later address = objectAt memory address := by
  obtain ⟨added, rfl⟩ := extended
  simp only [objectAt, List.getD_eq_getElem?_getD, List.getElem?_append_left bound]

/-- A new object is found at its address. -/
theorem objectAt_length (memory : Memory) (object : ClaimsObject) :
    objectAt (memory ++ [object]) memory.length = object := by
  simp [objectAt, List.getD_eq_getElem?_getD]

/-- A record is seen as the same token when the object that it refers to is the same. -/
theorem TokenRecord.view_congr {record : TokenRecord}
    (same : objectAt later record.claims = objectAt memory record.claims) :
    record.view later = record.view memory := by
  simp only [TokenRecord.view, same]

/-- A token of a grant is seen as the token of a record. -/
theorem Grant.token?_view (memory : Memory) (grant : Grant) (type : String) :
    (grant.view memory).token? type = (grant.record? type).map (TokenRecord.view memory) :=
  Entries.get?_map _ _ _

/-- A grant is seen to hold what it holds. -/
theorem Grant.holds_view (memory : Memory) (grant : Grant) (type : String) (value : Value) :
    (grant.view memory).holds type value = grant.holds type value := by
  unfold Authorization.holds Grant.holds
  rw [grant.token?_view]
  cases grant.record? type <;> rfl

/-- The authorization that is seen under an id is that of the grant with this id. -/
theorem Machine.authorization?_view (machine : Machine) (id : String) :
    machine.view.authorization? id = (machine.grant? id).map (Grant.view machine.memory) := by
  unfold State.authorization? Machine.grant? Machine.view
  rw [List.find?_map]
  rfl

/-- The authorization that is found is that of the grant that is found. -/
theorem Machine.findAuthorization_view (machine : Machine) (hint : Value) (tokenType : String) :
    machine.view.findAuthorization hint tokenType =
      (machine.findGrant hint tokenType).map (Grant.view machine.memory) := by
  have holds : (fun authorization : Authorization => authorization.holds tokenType hint) ∘
      Grant.view machine.memory = fun grant => grant.holds tokenType hint := by
    funext grant
    exact grant.holds_view machine.memory tokenType hint
  have forced : machine.view.forced = machine.rest.forced := rfl
  have authorizations : machine.view.authorizations =
      machine.grants.map (Grant.view machine.memory) := rfl
  unfold State.findAuthorization Machine.findGrant
  rw [forced, authorizations]
  cases machine.rest.forced with
  | some id => exact machine.authorization?_view id
  | none => simp only [List.find?_map, holds]

/-- Whatever is asked for, a grant that is found is one of the machine. -/
theorem Machine.mem_of_findGrant (machine : Machine) {hint : Value} {tokenType : String}
    {grant : Grant} (found : machine.findGrant hint tokenType = some grant) :
    grant ∈ machine.grants := by
  unfold Machine.findGrant Machine.grant? at found
  split at found
  · exact List.mem_of_find?_eq_some found
  · exact List.mem_of_find?_eq_some found

/-- The token that is seen at a place is that of the record there. -/
theorem Machine.token?_view (machine : Machine) (place : TokenPlace) :
    machine.view.token? place = (machine.record? place).map (TokenRecord.view machine.memory) := by
  unfold State.token? Machine.record?
  rw [machine.authorization?_view]
  cases machine.grant? place.authorization with
  | none => rfl
  | some grant => exact grant.token?_view machine.memory place.type

end Views

namespace Work

variable {α β : Type}

/-- A part of the machine is looked at without a trace. -/
theorem look_bind (part : Machine → α) (next : α → Work β) (machine : Machine) :
    (look part >>= next) machine = next (part machine) machine := rfl

/-- An outcome that is no failure leaves no trace either. -/
theorem ofExcept_bind (outcome : Except Failure α) (next : α → Work β) (machine : Machine) :
    (ofExcept outcome >>= next) machine =
      match outcome with
      | .error failure => (machine, ⟨[], .error failure⟩)
      | .ok value => next value machine := by
  cases outcome <;> rfl

/-- A copy is a new object, which is made unless the claims cannot be stored anew. -/
theorem copyWith_eq (options : Options) (source : Address) (machine : Machine) :
    copyWith options source machine =
      match convertedOr (issue (objectAt machine.memory source).claims) with
      | .error failure => (machine, ⟨[], .error failure⟩)
      | .ok stored =>
        ({ machine with memory := machine.memory ++ [⟨stored, options⟩] },
          Consultation.value machine.memory.length) := by
  unfold copyWith load
  rw [look_bind, ofExcept_bind]
  cases convertedOr (issue (objectAt machine.memory source).claims) <;> rfl

/-- A check is that of the object by the requirements that it was made with. -/
theorem check_eq (address : Address) (machine : Machine) :
    check address machine =
      (machine, Consultation.ofExcept (checkedOr
        (checkIdToken (objectAt machine.memory address).options
          ⟨.null, machine.rest.leeway, machine.rest.clock⟩
          (objectAt machine.memory address).claims))) := rfl

end Work

namespace Machine.Extends

variable {machine earlier : Machine}

theorem refl (machine : Machine) : machine.Extends machine :=
  ⟨rfl, rfl, List.prefix_rfl⟩

/-- A new object extends a machine further. -/
theorem allocated (extended : machine.Extends earlier) (object : ClaimsObject) :
    Machine.Extends { machine with memory := machine.memory ++ [object] } earlier :=
  ⟨extended.rest, extended.grants, extended.memory.trans (List.prefix_append _ _)⟩

/-- Objects of the earlier machine are still at their addresses. -/
theorem objectAt_eq (extended : machine.Extends earlier) {address : Address}
    (bound : address < earlier.memory.length) :
    objectAt machine.memory address = objectAt earlier.memory address :=
  objectAt_of_grown extended.memory bound

end Machine.Extends

namespace Carries

variable {α β γ δ : Type} {machine : Machine} {related : α → β → Prop} {results : γ → δ → Prop}

/-- Works that go on from related values carry out computations that go on from these. -/
theorem bind {work : Work α} {consultation : Consultation β} {next : α → Work γ}
    {nextOther : β → Consultation δ} (start : Carries machine related work consultation)
    (further : ∀ value other, related value other →
      Carries machine results (next value) (nextOther other)) :
    Carries machine results (work >>= next) (consultation >>= nextOther) := by
  intro later extended
  have started := start later extended
  change (Work.andThen work next later).1.Extends machine ∧
    (Work.andThen work next later).2.reads = _ ∧
      Corresponds Eq results (Work.andThen work next later).2.outcome _
  unfold Work.andThen
  obtain ⟨reads, outcome⟩ := consultation
  cases done : work later with
  | mk after first =>
      obtain ⟨readsFirst, outcomeFirst⟩ := first
      rw [done] at started
      obtain ⟨extendedFirst, rfl, alike⟩ := started
      cases alike with
      | failed same =>
          subst same
          exact ⟨extendedFirst, rfl, .failed rfl⟩
      | succeeded alike =>
          obtain ⟨extendedLast, readsLast, outcomeLast⟩ := further _ _ alike after extendedFirst
          exact ⟨extendedLast, congrArg (readsFirst ++ ·) readsLast, outcomeLast⟩

/-- An outcome that is related to another one carries it out. -/
theorem ofExcept {outcome : Except Failure α} {other : Except Failure β}
    (alike : Corresponds Eq related outcome other) :
    Carries machine related (Work.ofExcept outcome) (Consultation.ofExcept other) := by
  intro later extended
  exact ⟨extended, rfl, alike⟩

/-- So does a part of the machine that is related to a value. -/
theorem look {part : Machine → α} {value : β}
    (alike : ∀ later : Machine, later.Extends machine → related (part later) value) :
    Carries machine related (Work.look part) (Consultation.value value) := by
  intro later extended
  exact ⟨extended, rfl, .succeeded (alike later extended)⟩

/-- A read carries out a read that the store answers alike. -/
theorem ask {read : StoreRead} {part : Machine → Except StoreFault α}
    {answer : Except StoreFault β}
    (alike : ∀ later : Machine, later.Extends machine → Corresponds Eq related (part later) answer) :
    Carries machine related (Work.ask read part) (Consultation.ask read answer) := by
  intro later extended
  exact ⟨extended, rfl, Corresponds.ask (fun _ => rfl) (alike later extended)⟩

/-- What goes on from a part of the machine goes on from what is known to be there. -/
theorem ofLook {part : Machine → α} {value : α} {next : α → Work γ}
    {consultation : Consultation δ}
    (known : ∀ later : Machine, later.Extends machine → part later = value)
    (further : Carries machine results (next value) consultation) :
    Carries machine results (Work.look part >>= next) consultation := by
  intro later extended
  rw [Work.look_bind, known later extended]
  exact further later extended

end Carries

section Judgement

variable {machine : Machine} {address : Address}

/-- A check of a hint is the check of what its claims are stored as anew. -/
theorem checkHint_eq (settings : Settings) (issuer : Issuer) (claims : Entries Value) :
    checkHint settings issuer claims =
      match convertedOr (issue claims) with
      | .error failure => .error failure
      | .ok stored => checkedOr (checkIdToken (issuerOptions issuer)
          ⟨.null, settings.leeway, settings.clock⟩ stored) := by
  unfold checkHint
  cases issue claims with
  | error fault => rfl
  | ok stored => rfl

/-- The claims of a hint are validated as the hint is checked. What this leaves is the copy. -/
theorem Carries.validateClaims (bound : address < machine.memory.length) (issuer : Issuer) :
    Carries machine Eq (Work.validateClaims issuer address)
      (Consultation.ofExcept (checkHint machine.view.settings issuer
        (objectAt machine.memory address).claims)) := by
  intro later extended
  have settings : machine.view.settings = later.rest.settings := by
    rw [extended.rest]
    rfl
  unfold Work.validateClaims
  change (Work.andThen _ _ later).1.Extends machine ∧ (Work.andThen _ _ later).2.reads = [] ∧
    Corresponds Eq Eq (Work.andThen _ _ later).2.outcome _
  unfold Work.andThen
  rw [Work.copyWith_eq, extended.objectAt_eq bound, Consultation.outcome_ofExcept, checkHint_eq,
    settings]
  cases convertedOr (issue (objectAt machine.memory address).claims) with
  | error failure => exact ⟨extended, rfl, .failed rfl⟩
  | ok stored =>
      simp only [Consultation.value, Work.check_eq, objectAt_length]
      exact ⟨extended.allocated _, rfl, .of_eq (fun _ => rfl) rfl⟩

/-- A pair of a grant and a record is seen as a pair of an authorization and a token. -/
structure IsSeenAs (machine : Machine) (pair : Grant × TokenRecord) (other : Authorization × Token) :
    Prop where
  authorization : other.1 = pair.1.view machine.memory
  token : other.2 = pair.2.view machine.memory
  bound : pair.2.claims < machine.memory.length

/-- A grant that may be found is seen as an authorization that may be found. -/
structure IsFoundAs (machine : Machine) (found : Option Grant) (other : Option Authorization) :
    Prop where
  seen : other = found.map (Grant.view machine.memory)
  bounded : ∀ grant ∈ found, grant.IsBounded machine.memory

/-- The store of the authorizations answers with what is seen of the grant that is found. -/
theorem Machine.corresponds_findGrant (machine : Machine)
    (bounded : ∀ grant ∈ machine.grants, grant.IsBounded machine.memory) (hint : Value)
    (tokenType : String) :
    Corresponds Eq (IsFoundAs machine)
      (machine.rest.answer .authorizations (machine.findGrant hint tokenType))
      (machine.view.stores.authorization hint tokenType) := by
  have known : ∀ grant ∈ machine.findGrant hint tokenType, grant.IsBounded machine.memory :=
    fun grant found => bounded grant (machine.mem_of_findGrant found)
  change Corresponds Eq _ _
    (machine.rest.answer .authorizations (machine.view.findAuthorization hint tokenType))
  rw [machine.findAuthorization_view]
  unfold State.answer
  cases machine.rest.fault? .authorizations with
  | some fault => exact .failed rfl
  | none => exact .succeeded ⟨rfl, known⟩

/-- The active record of a grant is seen as the active token of its authorization. -/
theorem corresponds_activeRecord (tokenType : String) {found : Option Grant}
    (bounded : ∀ grant ∈ found, grant.IsBounded machine.memory) :
    Corresponds Eq (IsSeenAs machine) (activeRecord tokenType found)
      (activeToken tokenType (found.map (Grant.view machine.memory))) := by
  cases found with
  | none => exact .failed rfl
  | some grant =>
      simp only [activeRecord, activeToken, Option.map_some, grant.token?_view]
      cases held : grant.record? tokenType with
      | none => exact .failed rfl
      | some record =>
          cases invalidated : record.invalidated with
          | true =>
              simp only [Option.map_some, TokenRecord.view, invalidated, if_true]
              exact .failed rfl
          | false =>
              simp only [Option.map_some, TokenRecord.view, invalidated, Bool.false_eq_true,
                if_false]
              exact .succeeded ⟨rfl, by simp [TokenRecord.view, invalidated],
                bounded grant rfl _ (Grant.claims_mem_addresses held)⟩

/-- A session is looked for and tied to the claims at an address as to these claims. -/
theorem Carries.validateSession (bound : address < machine.memory.length) (request : Request) :
    Carries machine Eq (Work.validateSession request address)
      (Logout.validateSession machine.view.stores request
        (objectAt machine.memory address).claims) := by
  unfold Work.validateSession Logout.validateSession
  refine .bind (show Carries machine Eq _ _ from .ask ?_) ?_
  · intro later extended
    rw [extended.rest]
    exact .of_eq (fun _ => rfl) rfl
  · rintro sessions _ rfl
    refine .ofLook (fun later extended => extended.objectAt_eq bound) ?_
    exact .ofExcept (.of_eq (fun _ => rfl) rfl)

/-- So it is for any end user. -/
theorem Carries.sessionOf (bound : address < machine.memory.length) (request : Request) :
    Carries machine Eq (Work.sessionOf request address)
      (Logout.sessionOf machine.view.stores request (objectAt machine.memory address).claims) := by
  unfold Work.sessionOf Logout.sessionOf
  cases request.principal.isAuthenticated with
  | false => exact fun later extended => ⟨extended, rfl, .succeeded rfl⟩
  | true =>
      refine .ofLook (fun later extended => extended.objectAt_eq bound) ?_
      refine .bind (.ofExcept (.of_eq (fun _ => rfl) rfl)) ?_
      rintro _ _ rfl
      exact .validateSession bound request

/-- A logout request is judged on a machine as by the provider that it is seen as. The machine is left
with all that it had in its place. -/
theorem Carries.validate (bounded : ∀ grant ∈ machine.grants, grant.IsBounded machine.memory)
    (issuer : Issuer) (request : Request) :
    Carries machine Eq (Work.validate issuer request)
      (Logout.validate machine.view.stores machine.view.settings issuer request) := by
  unfold Work.validate Logout.validate
  have tokenType (later : Machine) (extended : later.Extends machine) :
      later.rest.tokenType = machine.rest.tokenType := by rw [extended.rest]
  refine .ofLook tokenType ?_
  refine .bind (show Carries machine (IsFoundAs machine) _ _ from .ask ?_) ?_
  · intro later extended
    have same : later.findGrant request.idTokenHint machine.rest.tokenType =
        machine.findGrant request.idTokenHint machine.rest.tokenType := by
      unfold Machine.findGrant Machine.grant?
      rw [extended.rest, extended.grants]
    rw [same, extended.rest]
    exact machine.corresponds_findGrant bounded _ _
  · rintro found _ ⟨rfl, known⟩
    refine .bind (.ofExcept (corresponds_activeRecord _ known)) ?_
    rintro ⟨grant, record⟩ ⟨_, _⟩ ⟨rfl, rfl, bound⟩
    refine .bind (.validateClaims bound issuer) ?_
    rintro _ _ rfl
    refine .ofLook (fun later extended => extended.objectAt_eq bound) ?_
    refine .bind (.ofExcept (.of_eq (fun _ => rfl) rfl)) ?_
    rintro parties _ rfl
    refine .bind (show Carries machine Eq _ _ from .ask ?_) ?_
    · intro later extended
      rw [extended.rest]
      exact .of_eq (fun _ => rfl) rfl
    rintro registered _ rfl
    refine .bind (.ofExcept (.of_eq (fun _ => rfl) rfl)) ?_
    rintro client _ rfl
    refine .bind (.ofExcept (.of_eq (fun _ => rfl) rfl)) ?_
    rintro _ _ rfl
    refine .bind (.sessionOf bound request) ?_
    rintro session _ rfl
    apply Carries.look
    intro later extended
    rw [TokenRecord.view_congr (extended.objectAt_eq bound)]

end Judgement

end EndSession.Provider
