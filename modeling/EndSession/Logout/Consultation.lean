import EndSession.Authorization
import EndSession.Client.Registered
import EndSession.Logout.Fault
import EndSession.Session.Record

/-
This file holds the stores that a logout request is judged by, and computations that keep a record
of every read of them.
-/

namespace EndSession.Logout

open Session Client Claims

/-- A store cannot answer. -/
inductive StoreFault where
  /-- Nothing reads the store. -/
  | missing
  /-- The store failed with a message. -/
  | down (message : String)
deriving DecidableEq

/-- The message of a fault of a store. -/
def StoreFault.message : StoreFault → String
  | missing => ""
  | down message => message

/-- The stores of a provider. -/
structure Stores where
  authorization : Value → String → Except StoreFault (Option Authorization)
  client : String → Except StoreFault (Option RegisteredClient)
  sessions : Principal → Bool → Except StoreFault (List Record)

/-- A read of a store and what it asked for. -/
inductive StoreRead where
  | authorization (hint : Value) (tokenType : String)
  | client (registeredClientId : String)
  | sessions (principal : Principal) (includeExpired : Bool)

/-- Why a logout request is not granted. -/
inductive Failure where
  /-- The request is refused, possibly because a claim is. -/
  | refused (fault : Fault) (cause : Option Refusal)
  | conversion (fault : ConversionFault)
  | check (fault : CheckFault)
  | misuse (misuse : Value.Misuse)
  | store (fault : StoreFault)
deriving DecidableEq

/-- A computation that read the stores. -/
structure Consultation (α : Type) where
  reads : List StoreRead
  outcome : Except Failure α

namespace Consultation

variable {α β : Type}

/-- A value that needs no read. -/
def value (result : α) : Consultation α :=
  ⟨[], .ok result⟩

/-- A computation that goes on with the value of another one, whose failure ends both. -/
def andThen (first : Consultation α) (next : α → Consultation β) : Consultation β :=
  match first.outcome with
  | .error failure => ⟨first.reads, .error failure⟩
  | .ok result => ⟨first.reads ++ (next result).reads, (next result).outcome⟩

instance : Monad Consultation where
  pure := value
  bind := andThen

/-- An outcome that needs no read. -/
def ofExcept (outcome : Except Failure α) : Consultation α :=
  ⟨[], outcome⟩

/-- One read of a store. -/
def ask (read : StoreRead) (answer : Except StoreFault α) : Consultation α :=
  ⟨[read], match answer with
    | .error fault => .error (.store fault)
    | .ok result => .ok result⟩

/-- The reads of a computation that goes on come after those it goes on from. -/
@[simp] theorem bind_ok (reads : List StoreRead) (result : α) (next : α → Consultation β) :
    (Consultation.mk reads (.ok result) >>= next) =
      ⟨reads ++ (next result).reads, (next result).outcome⟩ := rfl

/-- A failure reads nothing more. -/
@[simp] theorem bind_error (reads : List StoreRead) (failure : Failure)
    (next : α → Consultation β) :
    (Consultation.mk reads (.error failure) >>= next) = ⟨reads, .error failure⟩ := rfl

end Consultation

end EndSession.Logout
