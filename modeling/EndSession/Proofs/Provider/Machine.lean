import EndSession.Proofs.Provider.Sharing

/-
This file shows that a machine whose tokens share no claims takes every step as the provider that it is
seen as, and that its tokens share none afterwards. A question leaves the machine as it was but for new
objects in its memory.
-/

namespace EndSession.Provider

open Session Client Logout Claims

/-- The machine is asked. It is left with all that it had, and replies like this. -/
structure Machine.Answers (machine : Machine) (next : Machine × Reply) (reply : Reply) : Prop where
  extended : next.1.Extends machine
  reply : next.2 = reply

/-- What a machine comes to, with its reply, is what the provider that it is seen as comes to at a
step. -/
structure Machine.Takes (machine : Machine) (step : Step) (next : Machine × Reply) : Prop where
  unshared : next.1.IsUnshared
  view : next.1.view = machine.view.after step
  reply : next.2 = machine.view.reply step

section Questions

variable {machine : Machine}

/-- A work that carries out a computation answers with what this comes to. -/
theorem Carries.answers {α : Type} {work : Work α} {consultation : Consultation α}
    (carries : Carries machine Eq work consultation) (wrap : α → Answer) :
    machine.Answers (work.answer wrap machine) (State.replyOf consultation wrap) := by
  obtain ⟨extended, reads, alike⟩ := carries machine (.refl machine)
  unfold Work.answer
  cases done : work machine with
  | mk after other =>
      rw [done] at extended reads alike
      refine ⟨extended, ?_⟩
      obtain ⟨_, outcome⟩ := other
      obtain ⟨_, outcomeOther⟩ := consultation
      cases reads
      cases alike with
      | failed same =>
          cases same
          rfl
      | succeeded same =>
          cases same
          rfl

/-- An answer that takes no work leaves the machine alone. -/
theorem Machine.Answers.plain (machine : Machine) (answer : Answer) :
    machine.Answers (machine, .plain answer) (.plain answer) :=
  ⟨.refl machine, rfl⟩

namespace Machine.Answers

/-- Logout requests are answered as by the provider that the machine is seen as. -/
theorem judge (unshared : machine.IsUnshared) (form : RequestForm) (issuer : Option Text) :
    machine.Answers (machine.judge form issuer) (machine.view.judge form issuer) := by
  have issuers : machine.view.issuerOf issuer = machine.rest.issuerOf issuer := rfl
  unfold Machine.judge State.judge
  rw [issuers]
  cases form.submit with
  | error fault => exact .plain machine _
  | ok request =>
      cases machine.rest.issuerOf issuer with
      | error fault => exact .plain machine _
      | ok issuer => exact (Carries.validate unshared.isBounded issuer request).answers .granted

/-- So are questions about the claims of a token. -/
theorem judgeClaims (unshared : machine.IsUnshared) (place : TokenPlace) (issuer : Option Text) :
    machine.Answers (machine.judgeClaims place issuer) (machine.view.judgeClaims place issuer) := by
  have issuers : machine.view.issuerOf issuer = machine.rest.issuerOf issuer := rfl
  unfold Machine.judgeClaims State.judgeClaims
  rw [issuers, machine.token?_view]
  cases machine.rest.issuerOf issuer with
  | error fault => exact .plain machine _
  | ok issuer =>
      cases found : machine.record? place with
      | none => exact .plain machine _
      | some record =>
          have bound := unshared.bounded_of_record? found
          exact (Carries.validateClaims bound issuer).answers fun _ => .done

/-- So are questions about the session of a token. -/
theorem judgeSession (unshared : machine.IsUnshared) (form : RequestForm) (place : TokenPlace) :
    machine.Answers (machine.judgeSession form place) (machine.view.judgeSession form place) := by
  unfold Machine.judgeSession State.judgeSession
  rw [machine.token?_view]
  cases form.submit with
  | error fault => exact .plain machine _
  | ok request =>
      cases found : machine.record? place with
      | none => exact .plain machine _
      | some record =>
          have bound := unshared.bounded_of_record? found
          exact (Carries.validateSession bound request).answers .session

/-- A question is a step that changes nothing that is seen. -/
theorem takes {step : Step} {next : Machine × Reply}
    (answers : machine.Answers next (machine.view.reply step)) (unshared : machine.IsUnshared)
    (unchanged : machine.view.after step = machine.view) : machine.Takes step next where
  unshared := unshared.extended answers.extended
  view := (answers.extended.view_eq unshared).trans unchanged.symm
  reply := answers.reply

end Machine.Answers

end Questions

section Changes

variable {machine : Machine} {step : Step}

/-- A machine whose records change takes a step at which tokens change alike, as long as the change
brings in no new address. -/
theorem Machine.Takes.changeRecords (unshared : machine.IsUnshared) {id : String}
    {change : Entries TokenRecord → Entries TokenRecord} {other : Entries Token → Entries Token}
    (after : machine.view.after step = machine.view.changeTokens id other)
    (reply : machine.view.reply step = .plain .done)
    (commutes : ∀ records : Entries TokenRecord,
      (change records).map (TokenRecord.view machine.memory) =
        other (records.map (TokenRecord.view machine.memory)))
    (shrinks : ∀ records : Entries TokenRecord,
      (addressesIn (change records)).Sublist (addressesIn records)) :
    machine.Takes step (machine.changeRecords id change, .plain .done) where
  unshared := unshared.of_sublist
    (flatMap_changeFirst_sublist (fun grant : Grant => shrinks grant.tokens) machine.grants)
    (Nat.le_refl _)
  view := by
    rw [after]
    have grants : (changeFirst (fun grant : Grant => grant.id == id)
        (fun grant => { grant with tokens := change grant.tokens }) machine.grants).map
          (Grant.view machine.memory) =
        changeFirst (fun authorization => authorization.id == id)
          (fun authorization => { authorization with tokens := other authorization.tokens })
          (machine.grants.map (Grant.view machine.memory)) := by
      apply map_changeFirst
      · intro grant
        rfl
      · intro grant
        simp only [Grant.view, commutes]
    simp only [Machine.view, Machine.changeRecords, State.changeTokens, grants]
  reply := reply.symm

/-- A change of one token is a change of the tokens of its authorization. -/
theorem State.changeToken_eq (state : State) (place : TokenPlace) (change : Token → Token) :
    state.changeToken place change =
      state.changeTokens place.authorization (changeTokenOf place.type change) := rfl

/-- A token that is not there changes nothing. -/
theorem State.changeToken_of_absent {state : State} {place : TokenPlace}
    (absent : state.token? place = none) (change : Token → Token) :
    state.changeToken place change = state := by
  have same : changeFirst (fun authorization => authorization.id == place.authorization)
      (fun authorization => { authorization with
        tokens := changeTokenOf place.type change authorization.tokens }) state.authorizations =
        state.authorizations := by
    apply changeFirst_eq_self
    intro authorization found
    have none : authorization.tokens.get? place.type = none :=
      (Option.bind_eq_none_iff.mp absent) authorization found
    simp only [changeTokenOf, none]
  simp only [State.changeToken_eq, State.changeTokens, same]

theorem Machine.takes_invalidate (unshared : machine.IsUnshared) (place : TokenPlace) (flag : Bool) :
    machine.Takes (.invalidate place flag) (machine.step (.invalidate place flag)) := by
  refine .changeRecords unshared (machine.view.changeToken_eq place _) rfl ?_ ?_
  · intro records
    unfold changeTokenOf
    rw [Entries.get?_map]
    cases records.get? place.type with
    | none => rfl
    | some record => exact Entries.map_put _ _ _ _
  · intro records
    cases held : records.get? place.type with
    | none => exact List.Sublist.refl _
    | some record =>
        have same : addressesIn (records.put place.type { record with invalidated := flag }) =
            addressesIn records := addressesIn_put held rfl
        simp only [same, List.Sublist.refl]

theorem Machine.takes_removeToken (unshared : machine.IsUnshared) (place : TokenPlace) :
    machine.Takes (.removeToken place) (machine.step (.removeToken place)) := by
  have after : machine.view.after (.removeToken place) =
      machine.view.changeTokens place.authorization fun tokens => tokens.erase place.type := rfl
  refine .changeRecords unshared after rfl ?_ ?_
  · intro records
    exact Entries.map_erase _ _ _
  · intro records
    exact List.filter_sublist.map _

theorem Machine.takes_removeAuthorization (unshared : machine.IsUnshared) (id : String) :
    machine.Takes (.removeAuthorization id) (machine.step (.removeAuthorization id)) where
  unshared := unshared.of_sublist (List.filter_sublist.flatMap _) (Nat.le_refl _)
  view := by
    have kept : ((machine.grants.filter fun grant => grant.id != id).map
        (Grant.view machine.memory)) =
          (machine.grants.map (Grant.view machine.memory)).filter fun authorization =>
            authorization.id != id := by
      rw [List.filter_map]
      rfl
    simp only [Machine.step, Machine.view, State.after, kept]
  reply := rfl

/-- A machine whose claims change in their place takes a step at which the claims of the token change
alike. -/
theorem Machine.Takes.changeClaims (unshared : machine.IsUnshared) {place : TokenPlace}
    {change : Entries Value → Entries Value}
    (after : machine.view.after step = machine.view.changeToken place fun token =>
      { token with claims := change token.claims })
    (reply : machine.view.reply step = .plain .done) :
    machine.Takes step (machine.changeClaims place change, .plain .done) := by
  unfold Machine.changeClaims
  cases found : machine.record? place with
  | none =>
      -- Then there is no token either whose claims could change.
      have absent : machine.view.token? place = none := by
        rw [machine.token?_view, found, Option.map_none]
      exact ⟨unshared, (after.trans (State.changeToken_of_absent absent _)).symm, reply.symm⟩
  | some record =>
      have bound := unshared.bounded_of_record? found
      have larger : machine.memory.length ≤ (changeAt machine.memory record.claims change).length := by
        simp only [changeAt, List.length_modify, Nat.le_refl]
      refine ⟨unshared.of_sublist (List.Sublist.refl _) larger, ?_, reply.symm⟩
      rw [after, State.changeToken_eq]
      simp only [Machine.view, State.changeTokens, view_changeAt unshared.distinct bound found]

theorem Machine.takes_addAuthorization (unshared : machine.IsUnshared)
    (form : AuthorizationForm) :
    machine.Takes (.addAuthorization form) (machine.step (.addAuthorization form)) := by
  change machine.Takes _ (machine.addGrant form)
  obtain ⟨larger, alike⟩ := issueRecords_issues machine.memory form.tokens
  unfold Machine.addGrant
  cases done : issueRecords machine.memory form.tokens with
  | mk memory outcome =>
      rw [done] at larger alike
      generalize issues : issueTokens form.tokens = other at alike
      cases alike with
      | @failed fault _ same =>
          -- The claims of the tokens in front of the refused one stay in the memory, unseen.
          subst same
          have refused : form.issue = .error fault := by
            simp only [AuthorizationForm.issue, issues]
          have extended : Machine.Extends { machine with memory := memory } machine :=
            ⟨rfl, rfl, larger⟩
          refine ⟨unshared.extended extended, ?_, ?_⟩
          · simp only [State.after, refused, extended.view_eq unshared]
          · simp only [State.reply, refused]
      | @succeeded records tokens issued =>
          have grant : Grant.view memory
              ⟨form.id, form.registeredClientId, form.principalName, Entries.ofList records⟩ =
                ⟨form.id, form.registeredClientId, form.principalName, Entries.ofList tokens⟩ := by
            simp only [Grant.view, Entries.map_ofList, issued.seen]
          have granted : form.issue = .ok
              ⟨form.id, form.registeredClientId, form.principalName, Entries.ofList tokens⟩ := by
            simp only [AuthorizationForm.issue, issues]
          refine ⟨unshared.granted larger issued.nodup_addressesIn issued.fresh_addressesIn, ?_, ?_⟩
          · simp only [State.after, granted, machine.view_granted unshared larger, grant]
          · simp only [State.reply, granted]

end Changes

section Steps

variable {machine : Machine}

/-- A machine whose tokens share nothing takes every step as the provider that it is seen as, and its
tokens share nothing after it. -/
theorem Machine.takes_step (unshared : machine.IsUnshared) (step : Step) :
    machine.Takes step (machine.step step) := by
  cases step with
  | addAuthorization form => exact machine.takes_addAuthorization unshared form
  | removeAuthorization id => exact machine.takes_removeAuthorization unshared id
  | invalidate place flag => exact machine.takes_invalidate unshared place flag
  | setClaim place claim value => exact .changeClaims unshared rfl rfl
  | deleteClaim place claim => exact .changeClaims unshared rfl rfl
  | removeToken place => exact machine.takes_removeToken unshared place
  | validate form issuer => exact (Answers.judge unshared form issuer).takes unshared rfl
  | validateClaims place issuer => exact (Answers.judgeClaims unshared place issuer).takes unshared rfl
  | validateSession form place => exact (Answers.judgeSession unshared form place).takes unshared rfl
  | showToken place =>
      refine ⟨unshared, rfl, ?_⟩
      simp only [State.reply, machine.token?_view]
      rfl
  | addClient form =>
      refine ⟨⟨unshared.bounded, unshared.distinct⟩, ?_, rfl⟩
      have policy : machine.view.policy = machine.rest.policy := rfl
      simp only [Machine.step, State.after, policy]
      cases form.register machine.rest.policy <;> rfl
  | _ => exact ⟨⟨unshared.bounded, unshared.distinct⟩, rfl, rfl⟩

/-- So it takes any number of steps. -/
theorem Machine.takes_afterAll (unshared : machine.IsUnshared) (steps : List Step) :
    (machine.afterAll steps).IsUnshared ∧ (machine.afterAll steps).view = machine.view.afterAll steps := by
  induction steps generalizing machine with
  | nil => exact ⟨unshared, rfl⟩
  | cons step rest inductionHypothesis =>
      have taken := machine.takes_step unshared step
      obtain ⟨last, view⟩ := inductionHypothesis taken.unshared
      exact ⟨last, view.trans (by rw [taken.view]; rfl)⟩

/-- Its replies are those of the provider that it is seen as. -/
theorem Machine.run_eq (unshared : machine.IsUnshared) (steps : List Step) :
    machine.run steps = machine.view.run steps := by
  induction steps generalizing machine with
  | nil => rfl
  | cons step rest inductionHypothesis =>
      have taken := machine.takes_step unshared step
      rw [Machine.run, State.run, inductionHypothesis taken.unshared, taken.view, taken.reply]

/-- A new machine has no tokens. -/
theorem Machine.isUnshared_initial (issuer : Text) (clock leeway : Value)
    (policy : Uri.TransportPolicy) : (Machine.initial issuer clock leeway policy).IsUnshared :=
  ⟨fun _ member => (nomatch member), List.nodup_nil⟩

end Steps

end EndSession.Provider
