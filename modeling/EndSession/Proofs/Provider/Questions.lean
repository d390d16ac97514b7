import EndSession.Proofs.Provider.Machine

/-
This file shows that a provider replies to every step regardless of the questions about logout requests
that it was asked before, however these were answered. It may be asked more of them, fewer or other
ones.
-/

namespace EndSession.Provider

open Claims

/-- The step asks for a judgement: on a logout request, on the claims of a token or on its session. -/
def Step.isQuestion : Step → Bool
  | .validate _ _ => true
  | .validateClaims _ _ => true
  | .validateSession _ _ => true
  | _ => false

/-- The steps without the questions among them. -/
def unasked (steps : List Step) : List Step :=
  steps.filter fun step => !step.isQuestion

section States

/-- A provider comes through a question as it was. -/
theorem State.after_of_isQuestion (state : State) {step : Step} (question : step.isQuestion = true) :
    state.after step = state := by
  cases step with
  | validate form issuer => rfl
  | validateClaims place issuer => rfl
  | validateSession form place => rfl
  | _ => cases question

/-- It comes through steps as through those of them that are no questions. -/
theorem State.afterAll_unasked (state : State) (steps : List Step) :
    state.afterAll (unasked steps) = state.afterAll steps := by
  induction steps generalizing state with
  | nil => rfl
  | cons step rest inductionHypothesis =>
      cases asked : step.isQuestion with
      | true =>
          have skipped : unasked (step :: rest) = unasked rest := by
            simp only [unasked, List.filter_cons, asked, Bool.not_true, Bool.false_eq_true, if_false]
          have here : state.afterAll (step :: rest) = (state.after step).afterAll rest := rfl
          rw [skipped, inductionHypothesis, here, state.after_of_isQuestion asked]
      | false =>
          have kept : unasked (step :: rest) = step :: unasked rest := by
            simp only [unasked, List.filter_cons, asked, Bool.not_false, if_true]
          rw [kept]
          exact inductionHypothesis (state.after step)

end States

section Machines

variable {machine : Machine}

/-- A machine is left by a question with all that it had in its place, whatever the answer is. -/
theorem Machine.extends_of_isQuestion (unshared : machine.IsUnshared) {question : Step}
    (asked : question.isQuestion = true) : (machine.step question).1.Extends machine := by
  cases question with
  | validate form issuer => exact (Answers.judge unshared form issuer).extended
  | validateClaims place issuer => exact (Answers.judgeClaims unshared place issuer).extended
  | validateSession form place => exact (Answers.judgeSession unshared form place).extended
  | _ => cases asked

/-- The reply to a step among others is that of the machine after those in front of it. -/
theorem Machine.run_getElem? (machine : Machine) (before : List Step) (step : Step)
    (after : List Step) :
    (machine.run (before ++ step :: after))[before.length]? =
      some ((machine.afterAll before).step step).2 := by
  induction before generalizing machine with
  | nil => rfl
  | cons first rest inductionHypothesis => exact inductionHypothesis (machine.step first).1

/-- A machine is seen the same after steps that differ in questions alone. -/
theorem Machine.view_afterAll_of_unasked (unshared : machine.IsUnshared) {before others : List Step}
    (same : unasked before = unasked others) :
    (machine.afterAll before).view = (machine.afterAll others).view := by
  rw [(machine.takes_afterAll unshared before).2, (machine.takes_afterAll unshared others).2,
    ← State.afterAll_unasked, same, State.afterAll_unasked]

end Machines

/-- A new machine replies as the provider that it is seen as. Take any two sequences of steps, which may
differ in their questions: a step of the one replies as in the other if the steps in front of it, the
questions left out, are the same. Every question leaves the records, the settings and the claims with
their requirements as they are, and can only bring in new claims behind these. -/
theorem Machine.replies_regardless_of_questions (issuer : Text) (clock leeway : Value)
    (policy : Uri.TransportPolicy) :
    let machine := Machine.initial issuer clock leeway policy
    (∀ steps, machine.run steps = (State.initial issuer clock leeway policy).run steps) ∧
      (∀ before others after rest step, unasked before = unasked others →
        (machine.afterAll before).view = (machine.afterAll others).view ∧
          ∃ reply, (machine.run (before ++ step :: after))[before.length]? = some reply ∧
            (machine.run (others ++ step :: rest))[others.length]? = some reply) ∧
      ∀ before question, question.isQuestion = true →
        ((machine.afterAll before).step question).1.Extends (machine.afterAll before) := by
  intro machine
  have unshared : machine.IsUnshared := Machine.isUnshared_initial issuer clock leeway policy
  refine ⟨fun steps => machine.run_eq unshared steps, ?_, ?_⟩
  · intro before others after rest step same
    have views := machine.view_afterAll_of_unasked unshared same
    have replyBefore := (Machine.takes_step (machine.takes_afterAll unshared before).1 step).reply
    have replyOthers := (Machine.takes_step (machine.takes_afterAll unshared others).1 step).reply
    refine ⟨views, _, machine.run_getElem? before step after, ?_⟩
    rw [machine.run_getElem?, replyBefore, replyOthers, views]
  · intro before question asked
    exact Machine.extends_of_isQuestion (machine.takes_afterAll unshared before).1 asked

/-- Steps with a moment and a truth value set as claims by hand, and with a store that breaks. The
questions among them pass, fail as the truth value cannot be stored anew, and fail at the store. -/
def stepsWithQuestions : List Step :=
  let place : TokenPlace := ⟨"authorization-1", idTokenType⟩
  [.addAuthorization
      { id := "authorization-1"
        registeredClientId := "registration-1"
        principalName := "principal"
        tokens := [(idTokenType,
          { value := "id-token"
            claims := Entries.ofList [("iss", .text "https://provider.test")]
            invalidated := false })] },
    .setClaim place "iat" (.moment ⟨⟨2023, 11, 14⟩, 0, 0, 0, 0, none⟩),
    .validateClaims place none,
    .setClaim place "auth_time" (.bool true),
    .validateClaims place none,
    .breakStore .authorizations "down",
    .validate ⟨.text "id-token", some (.authenticated (some "principal")), none, none, none, none⟩
      none]

/-- The token is shown as if the questions had not been asked, although one of them has left converted
claims in the memory. -/
theorem Machine.token_shown_regardless_of_questions :
    let machine := Machine.initial "https://provider.test" (.number (.whole 1700000000))
      (.number (.whole 60)) .strict
    let shown : Step := .showToken ⟨"authorization-1", idTokenType⟩
    ((machine.run stepsWithQuestions).map fun reply => reply.answer matches .done) =
        [true, true, true, true, false, true, false] ∧
      unasked stepsWithQuestions = unasked (unasked stepsWithQuestions) ∧
      (∃ reply, (machine.run (stepsWithQuestions ++ [shown]))[stepsWithQuestions.length]? = some reply ∧
        (machine.run (unasked stepsWithQuestions ++ [shown]))[(unasked stepsWithQuestions).length]? =
          some reply) ∧
      (machine.afterAll stepsWithQuestions).memory.length = 2 ∧
      (machine.afterAll (unasked stepsWithQuestions)).memory.length = 1 ∧
      ((machine.afterAll stepsWithQuestions).step
        (.validateClaims ⟨"authorization-1", idTokenType⟩ none)).1.Extends
          (machine.afterAll stepsWithQuestions) := by
  intro machine shown
  have same : unasked stepsWithQuestions = unasked (unasked stepsWithQuestions) := rfl
  have regardless := Machine.replies_regardless_of_questions "https://provider.test"
    (.number (.whole 1700000000)) (.number (.whole 60)) .strict
  have alike := regardless.2.1 stepsWithQuestions (unasked stepsWithQuestions) [] [] shown same
  have extended := regardless.2.2 stepsWithQuestions
    (.validateClaims ⟨"authorization-1", idTokenType⟩ none) rfl
  exact ⟨by decide +kernel, same, alike.2, by decide +kernel, by decide +kernel, extended⟩

end EndSession.Provider
