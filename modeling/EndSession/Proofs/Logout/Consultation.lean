import EndSession.Logout.Consultation

/-
This file gives the laws of computations that keep a record of their reads: when they have a value,
which reads they make and in which order, and that a read which fails ends them.
-/

namespace EndSession.Logout

open Session Client

/-- The store fails to answer a read. -/
inductive Stores.Fails (stores : Stores) : StoreRead → StoreFault → Prop where
  | authorization {hint : Value} {tokenType : String} {fault : StoreFault}
      (down : stores.authorization hint tokenType = .error fault) :
      Fails stores (.authorization hint tokenType) fault
  | client {id : String} {fault : StoreFault} (down : stores.client id = .error fault) :
      Fails stores (.client id) fault
  | sessions {principal : Principal} {includeExpired : Bool} {fault : StoreFault}
      (down : stores.sessions principal includeExpired = .error fault) :
      Fails stores (.sessions principal includeExpired) fault

namespace Consultation

variable {α β γ : Type}

@[simp] theorem reads_ofExcept (outcome : Except Failure α) : (ofExcept outcome).reads = [] := rfl

@[simp] theorem outcome_ofExcept (outcome : Except Failure α) :
    (ofExcept outcome).outcome = outcome := rfl

@[simp] theorem reads_value (result : α) : (value result).reads = [] := rfl

@[simp] theorem reads_ask (read : StoreRead) (answer : Except StoreFault α) :
    (ask read answer).reads = [read] := rfl

/-- A read with a value is one that the store answered with it. -/
@[simp] theorem ask_eq_ok_iff {read : StoreRead} {answer : Except StoreFault α} {result : α} :
    (ask read answer).outcome = .ok result ↔ answer = .ok result := by
  cases answer <;> simp [ask]

/-- A computation that goes on has a value when both parts have one. -/
theorem bind_eq_ok_iff {first : Consultation α} {next : α → Consultation β} {result : β} :
    (first >>= next).outcome = .ok result ↔
      ∃ value, first.outcome = .ok value ∧ (next value).outcome = .ok result := by
  obtain ⟨reads, outcome⟩ := first
  cases outcome <;> simp

/-- A read is made when either part makes it, the second one after a value of the first one. -/
theorem mem_reads_bind_iff {first : Consultation α} {next : α → Consultation β} {read : StoreRead} :
    read ∈ (first >>= next).reads ↔
      read ∈ first.reads ∨ ∃ value, first.outcome = .ok value ∧ read ∈ (next value).reads := by
  obtain ⟨reads, outcome⟩ := first
  cases outcome <;> simp

/-- What goes on from a check reads nothing unless the check passes. -/
theorem mem_reads_check_iff {check : Except Failure α} {next : α → Consultation β}
    {read : StoreRead} :
    read ∈ (ofExcept check >>= next).reads ↔
      ∃ value, check = .ok value ∧ read ∈ (next value).reads := by
  simp [mem_reads_bind_iff]

/-- What goes on from a read reads nothing more unless the store answers. -/
theorem mem_reads_ask_iff {asked read : StoreRead} {answer : Except StoreFault α}
    {next : α → Consultation β} :
    read ∈ (ask asked answer >>= next).reads ↔
      read = asked ∨ ∃ value, answer = .ok value ∧ read ∈ (next value).reads := by
  simp [mem_reads_bind_iff]

/-- A value that is only changed needs no further read. -/
@[simp] theorem reads_bind_value (first : Consultation α) (change : α → β) :
    (first >>= fun result => value (change result)).reads = first.reads := by
  obtain ⟨reads, outcome⟩ := first
  cases outcome <;> simp

/-- It does not matter which two of three parts are put together first. -/
theorem bind_assoc (first : Consultation α) (next : α → Consultation β)
    (last : β → Consultation γ) :
    (first >>= next) >>= last = first >>= fun value => next value >>= last := by
  obtain ⟨reads, outcome⟩ := first
  cases outcome with
  | error failure => rfl
  | ok value =>
      rw [bind_ok, bind_ok]
      obtain ⟨further, outcome⟩ := next value
      cases outcome <;> simp

/-- The reads of a computation are the first ones of a plan. -/
def Follows (plan : List StoreRead) (consultation : Consultation α) : Prop :=
  consultation.reads <+: plan

namespace Follows

variable {plan : List StoreRead} {next : α → Consultation β}

theorem value (result : α) : Follows plan (Consultation.value result) :=
  List.nil_prefix

theorem ofExcept (outcome : Except Failure α) : Follows plan (Consultation.ofExcept outcome) :=
  List.nil_prefix

theorem check {check : Except Failure α}
    (further : ∀ result, check = .ok result → Follows plan (next result)) :
    Follows plan (Consultation.ofExcept check >>= next) := by
  cases check with
  | error failure => exact List.nil_prefix
  | ok result => exact further result rfl

theorem ask {read : StoreRead} {answer : Except StoreFault α}
    (further : ∀ result, answer = .ok result → Follows plan (next result)) :
    Follows (read :: plan) (Consultation.ask read answer >>= next) := by
  cases answer with
  | error fault => exact List.prefix_append [read] plan
  | ok result => exact List.prefix_cons_inj read |>.mpr (further result rfl)

end Follows

/-- A read that fails is the last one, and its fault is the outcome. -/
def StopsAtFaults (stores : Stores) (consultation : Consultation α) : Prop :=
  ∀ read ∈ consultation.reads, ∀ fault, stores.Fails read fault →
    consultation.outcome = .error (.store fault) ∧ consultation.reads.getLast? = some read

namespace StopsAtFaults

variable {stores : Stores}

theorem ofExcept (outcome : Except Failure α) :
    StopsAtFaults stores (Consultation.ofExcept outcome) := by
  intro read member
  cases member

theorem value (result : α) : StopsAtFaults stores (Consultation.value result) := by
  intro read member
  cases member

theorem ask {read : StoreRead} {answer : Except StoreFault α}
    (fails : ∀ fault, stores.Fails read fault → answer = .error fault) :
    StopsAtFaults stores (Consultation.ask read answer) := by
  intro other member fault down
  rw [reads_ask, List.mem_singleton] at member
  subst member
  rw [fails fault down]
  exact ⟨rfl, rfl⟩

theorem bind {first : Consultation α} {next : α → Consultation β}
    (stops : StopsAtFaults stores first)
    (further : ∀ result, first.outcome = .ok result → StopsAtFaults stores (next result)) :
    StopsAtFaults stores (first >>= next) := by
  obtain ⟨reads, outcome⟩ := first
  intro read member fault down
  cases outcome with
  | error failure =>
      rw [bind_error] at member ⊢
      obtain ⟨ended, last⟩ := stops read member fault down
      cases ended
      exact ⟨rfl, last⟩
  | ok result =>
      rw [bind_ok] at member ⊢
      rcases List.mem_append.mp member with early | late
      · obtain ⟨ended, _⟩ := stops read early fault down
        cases ended
      · obtain ⟨ended, last⟩ := further result rfl read late fault down
        refine ⟨ended, ?_⟩
        rw [List.getLast?_append, last]
        rfl

end StopsAtFaults

end Consultation

end EndSession.Logout
