import EndSession.Provider.Step

/-
This file holds a provider whose tokens lie in a memory. The records of tokens refer to their claims
there, so that whatever is given a record could change what the provider keeps. A computation on the
memory may change it whether it succeeds or fails.
-/

namespace EndSession.Provider

open Logout Claims

/-- Claims in a memory, with the requirements that they are checked by. -/
structure ClaimsObject where
  claims : Entries Value
  options : Options

/-- The objects of a memory, each at the address that is its place. -/
abbrev Memory := List ClaimsObject

/-- The place of an object in a memory. -/
abbrev Address := Nat

/-- The object at an address. -/
def objectAt (memory : Memory) (address : Address) : ClaimsObject :=
  memory.getD address ⟨Entries.empty, Entries.empty⟩

/-- The memory with the claims at an address changed. -/
def changeAt (memory : Memory) (address : Address) (change : Entries Value → Entries Value) :
    Memory :=
  memory.modify address fun object => { object with claims := change object.claims }

/-- A token that refers to its claims. -/
structure TokenRecord where
  value : Text
  claims : Address
  invalidated : Bool

/-- A grant to a client, with the records of its tokens by their type. -/
structure Grant where
  id : String
  registeredClientId : String
  principalName : Text
  tokens : Entries TokenRecord

/-- A provider with its memory. -/
structure Machine where
  memory : Memory
  grants : List Grant
  /-- All that the provider keeps besides. It keeps no authorizations but the grants. -/
  rest : State

/-- The token of a record. -/
def TokenRecord.view (memory : Memory) (record : TokenRecord) : Token :=
  ⟨record.value, (objectAt memory record.claims).claims, record.invalidated⟩

namespace Grant

/-- The authorization of a grant. -/
def view (memory : Memory) (grant : Grant) : Authorization :=
  ⟨grant.id, grant.registeredClientId, grant.principalName,
    grant.tokens.map (TokenRecord.view memory)⟩

/-- The record of the token of a type. -/
def record? (grant : Grant) (type : String) : Option TokenRecord :=
  grant.tokens.get? type

/-- The grant has a token of this type and value. -/
def holds (grant : Grant) (type : String) (value : Value) : Bool :=
  match grant.record? type with
  | none => false
  | some record => (Value.text record.value).same value

end Grant

namespace Machine

/-- A machine with empty stores and an empty memory. -/
def initial (issuer : Text) (clock leeway : Value) (policy : Uri.TransportPolicy) : Machine :=
  ⟨[], [], State.initial issuer clock leeway policy⟩

/-- The provider as it is seen when all references are followed. -/
def view (machine : Machine) : State :=
  { machine.rest with authorizations := machine.grants.map (Grant.view machine.memory) }

/-- The first grant with an id. -/
def grant? (machine : Machine) (id : String) : Option Grant :=
  machine.grants.find? fun grant => grant.id == id

/-- The first grant with a token of this type and value, unless another one is forced. -/
def findGrant (machine : Machine) (hint : Value) (tokenType : String) : Option Grant :=
  match machine.rest.forced with
  | some id => machine.grant? id
  | none => machine.grants.find? fun grant => grant.holds tokenType hint

/-- The record of a token of a type in the first grant with an id. -/
def record? (machine : Machine) (place : TokenPlace) : Option TokenRecord :=
  (machine.grant? place.authorization).bind fun grant => grant.record? place.type

end Machine

/-- A computation on a machine, which it may change whether it succeeds or fails. -/
def Work (α : Type) : Type :=
  Machine → Machine × Consultation α

namespace Work

variable {α β : Type}

/-- A work that goes on with the value of another one and on the machine that this leaves. -/
def andThen (first : Work α) (next : α → Work β) : Work β := fun machine =>
  match first machine with
  | (after, ⟨reads, .error failure⟩) => (after, ⟨reads, .error failure⟩)
  | (after, ⟨reads, .ok value⟩) =>
    match next value after with
    | (last, further) => (last, ⟨reads ++ further.reads, further.outcome⟩)

instance : Monad Work where
  pure value := fun machine => (machine, Consultation.value value)
  bind := andThen

/-- An outcome that does not depend on the machine. -/
def ofExcept (outcome : Except Failure α) : Work α := fun machine =>
  (machine, Consultation.ofExcept outcome)

/-- A part of the machine. -/
def look (part : Machine → α) : Work α := fun machine =>
  (machine, Consultation.value (part machine))

/-- One read of a store. -/
def ask (read : StoreRead) (answer : Machine → Except StoreFault α) : Work α := fun machine =>
  (machine, Consultation.ask read (answer machine))

/-- The object at an address. -/
def load (address : Address) : Work ClaimsObject :=
  look fun machine => objectAt machine.memory address

/-- The address of a new object. -/
def allocate (object : ClaimsObject) : Work Address := fun machine =>
  ({ machine with memory := machine.memory ++ [object] },
    Consultation.value machine.memory.length)

/-- The machine after the work, and the reply to whoever asked for it. -/
def answer (work : Work α) (wrap : α → Answer) (machine : Machine) : Machine × Reply :=
  match work machine with
  | (after, done) => (after, State.replyOf done wrap)

end Work

end EndSession.Provider
