import EndSession.Logout.Decision

/-
This file holds a provider that keeps its stores in memory, and how these stores are read. A store
may be taken away or broken, and then answers nothing.
-/

namespace EndSession.Provider

open Session Client Logout

/-- The three stores of a provider. -/
inductive Store where
  | authorizations
  | clients
  | sessions
deriving DecidableEq

/-- A provider with its stores, its clock and its settings. -/
structure State where
  authorizations : List Authorization
  clients : Entries RegisteredClient
  sessions : List Record
  /-- The issuer of requests that name none. -/
  issuer : Text
  clock : Value
  leeway : Value
  tokenType : String
  policy : Uri.TransportPolicy
  missing : List Store
  /-- The broken stores with their messages, the latest first. -/
  broken : List (Store × String)
  /-- The authorization that is found whatever is sought. -/
  forced : Option String
  /-- Every session is found for every end user. -/
  loose : Bool

namespace State

/-- A provider with empty stores. -/
def initial (issuer : Text) (clock leeway : Value) (policy : Uri.TransportPolicy) : State where
  authorizations := []
  clients := Entries.empty
  sessions := []
  issuer := issuer
  clock := clock
  leeway := leeway
  tokenType := idTokenType
  policy := policy
  missing := []
  broken := []
  forced := none
  loose := false

/-- The fault of a store that cannot answer. -/
def fault? (state : State) (store : Store) : Option StoreFault :=
  match state.broken.lookup store with
  | some message => some (.down message)
  | none => if state.missing.contains store then some .missing else none

/-- An answer of a store that can answer. -/
def answer {α : Type} (state : State) (store : Store) (result : α) : Except StoreFault α :=
  match state.fault? store with
  | some fault => .error fault
  | none => .ok result

/-- The first authorization with an id. -/
def authorization? (state : State) (id : String) : Option Authorization :=
  state.authorizations.find? fun authorization => authorization.id == id

/-- The first authorization with a token of this type and value, unless another one is forced. -/
def findAuthorization (state : State) (hint : Value) (tokenType : String) : Option Authorization :=
  match state.forced with
  | some id => state.authorization? id
  | none => state.authorizations.find? fun authorization => authorization.holds tokenType hint

/-- The sessions of an end user. The expired ones are left out unless they are asked for. -/
def sessionsOf (state : State) (principal : Principal) (includeExpired : Bool) : List Record :=
  if state.loose then state.sessions
  else
    state.sessions.filter fun session =>
      session.principal == principal && (includeExpired || !session.expired)

/-- The stores of the provider. -/
def stores (state : State) : Stores where
  authorization hint tokenType := state.answer .authorizations (state.findAuthorization hint tokenType)
  client id := state.answer .clients (state.clients.get? id)
  sessions principal includeExpired :=
    state.answer .sessions (state.sessionsOf principal includeExpired)

/-- What the provider judges requests by. -/
def settings (state : State) : Settings where
  tokenType := state.tokenType
  leeway := state.leeway
  clock := state.clock

end State

end EndSession.Provider
