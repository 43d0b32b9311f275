import TreeScript.Proofs.Run.Ends

/-!
How an action comes to its own end. An action finishes with a result when all its requests are
answered with values and what it does last is to end with this result (`Action.Finishes`). An action
that was carried out has finished, or it has ended with the error of one of its requests
(`finishes_of_run`); so a run of a node that ends has come to the end of the rule for the node, or
to the error of a request that it came to next (`Ends.finishes_or_passesOn`). What an action of
several steps finishes with is what its last step does, after the steps before it have finished with
values (`finishes_bind`); each single step has one equation for what follows it.
-/

namespace TreeScript

variable [PatternEngine]

namespace Action

variable {T N α β : Type} {evaluator : Evaluator T N} {state state' : State T N}

/-- When an action is carried out from a state, its requests are all answered with values, and it
ends with a result of its own in the state given last. -/
inductive Finishes (evaluator : Evaluator T N) :
    Action T N α → State T N → Except EvalError α → State T N → Prop where
  | finish {result : Except EvalError α} {state : State T N} :
      Finishes evaluator (finish result) state result state
  | access {change : State T N → State T N} {next : State T N → Action T N α}
      {keeps : ∀ state, (change state).callDepth = state.callDepth}
      {result : Except EvalError α} {state state' : State T N} :
      Finishes evaluator (next state) (change state) result state' →
      Finishes evaluator (access change next keeps) state result state'
  | ask {request : Request N} {next : Value N → Action T N α} {value : Value N}
      {result : Except EvalError α} {state between state' : State T N} :
      evaluator request state = .done (.ok value) between →
      Finishes evaluator (next value) between result state' →
      Finishes evaluator (ask request next) state result state'

/-! ### Finishing and carrying out -/

section Run

variable {action : Action T N α} {result : Except EvalError α}

/-- An action that has ended has finished, or it has ended with the error of a request. -/
theorem finishes_of_run (h : action.run evaluator state = .done result state') :
    action.Finishes evaluator state result state' ∨
      ∃ error request between, result = .error error ∧
        action.Makes evaluator state request between ∧
        evaluator request between = .done (.error error) state' := by
  induction action generalizing state with
  | finish result =>
    cases h
    exact .inl .finish
  | access change next _ ih =>
    rcases ih state h with hf | ⟨error, request, between, heq, hm, herror⟩
    · exact .inl (.access hf)
    · exact .inr ⟨error, request, between, heq, .access hm, herror⟩
  | ask first next ih =>
    rcases Outcome.andThen_eq_done h with ⟨value, after, hfirst, hnext⟩ | ⟨error, hfirst, heq⟩
    · rcases ih value hnext with hf | ⟨error, request, between, heq, hm, herror⟩
      · exact .inl (.ask hfirst hf)
      · exact .inr ⟨error, request, between, heq, .later hfirst hm, herror⟩
    · exact .inr ⟨error, first, state, heq, .here, hfirst⟩

end Run

/-! ### Steps -/

section Steps

variable {result : Except EvalError α} {last : Except EvalError β} {rest : α → Action T N β}

theorem finishes_finish_iff {own : Except EvalError α} :
    (finish own).Finishes evaluator state result state' ↔ result = own ∧ state' = state := by
  constructor
  · rintro ⟨⟩
    exact ⟨rfl, rfl⟩
  · rintro ⟨rfl, rfl⟩
    exact .finish

theorem finishes_access_iff {change : State T N → State T N} {next : State T N → Action T N α}
    {keeps : ∀ state, (change state).callDepth = state.callDepth} :
    (Action.access change next keeps).Finishes evaluator state result state' ↔
      (next state).Finishes evaluator (change state) result state' := by
  constructor
  · rintro (_ | h)
    exact h
  · exact .access

theorem finishes_ask_iff {request : Request N} {next : Value N → Action T N α} :
    (Action.ask request next).Finishes evaluator state result state' ↔
      ∃ value between, evaluator request state = .done (.ok value) between ∧
        (next value).Finishes evaluator between result state' := by
  constructor
  · rintro (_ | _ | ⟨hanswer, h⟩)
    exact ⟨_, _, hanswer, h⟩
  · rintro ⟨value, between, hanswer, h⟩
    exact .ask hanswer h

/-- Two actions in a row finish with what the second one finishes with after the first one has
given a value, or with the error of the first one. -/
theorem finishes_bind {action : Action T N α} :
    (action >>= rest).Finishes evaluator state last state' ↔
      (∃ value between, action.Finishes evaluator state (.ok value) between ∧
        (rest value).Finishes evaluator between last state') ∨
      ∃ error, last = .error error ∧ action.Finishes evaluator state (.error error) state' := by
  change (action.bind rest).Finishes evaluator state last state' ↔ _
  induction action generalizing state with
  | finish own =>
    cases own with
    | ok value =>
      constructor
      · intro h
        exact .inl ⟨value, state, .finish, h⟩
      · rintro (⟨_, _, ⟨⟩, h⟩ | ⟨_, -, ⟨⟩⟩)
        exact h
    | error error =>
      constructor
      · rintro ⟨⟩
        exact .inr ⟨error, rfl, .finish⟩
      · rintro (⟨_, _, ⟨⟩, -⟩ | ⟨_, rfl, ⟨⟩⟩)
        exact .finish
  | access change next keeps ih => simp only [Action.bind, finishes_access_iff, ih]
  | ask request next ih =>
    simp only [Action.bind, finishes_ask_iff, ih]
    constructor
    · rintro ⟨answer, after, hanswer, ⟨value, between, hfirst, hrest⟩ | ⟨error, heq, hfirst⟩⟩
      · exact .inl ⟨value, between, ⟨answer, after, hanswer, hfirst⟩, hrest⟩
      · exact .inr ⟨error, heq, answer, after, hanswer, hfirst⟩
    · rintro (⟨value, between, ⟨answer, after, hanswer, hfirst⟩, hrest⟩ |
        ⟨error, heq, answer, after, hanswer, hfirst⟩)
      · exact ⟨answer, after, hanswer, .inl ⟨value, between, hfirst, hrest⟩⟩
      · exact ⟨answer, after, hanswer, .inr ⟨error, heq, hfirst⟩⟩

theorem finishes_pure_iff {value : α} :
    (pure value : Action T N α).Finishes evaluator state result state' ↔
      result = .ok value ∧ state' = state :=
  finishes_finish_iff

theorem finishes_fail_iff {error : EvalError} :
    (fail error : Action T N α).Finishes evaluator state result state' ↔
      result = .error error ∧ state' = state :=
  finishes_finish_iff

theorem finishes_require_iff {error : EvalError} {needed : Option α} :
    (require error needed : Action T N α).Finishes evaluator state result state' ↔
      (∃ value, needed = some value ∧ result = .ok value ∧ state' = state) ∨
      needed = none ∧ result = .error error ∧ state' = state := by
  cases needed with
  | some value =>
    refine finishes_finish_iff.trans ?_
    simp
  | none =>
    refine finishes_finish_iff.trans ?_
    simp

/-! ### What follows a step -/

/-- After a result that is there already the action goes on with its value, or ends with its
error. -/
theorem finishes_finish_bind {own : Except EvalError α} :
    ((finish own : Action T N α) >>= rest).Finishes evaluator state last state' ↔
      (∃ value, own = .ok value ∧ (rest value).Finishes evaluator state last state') ∨
      ∃ error, own = .error error ∧ last = .error error ∧ state' = state := by
  change (Action.bind (finish own) rest).Finishes evaluator state last state' ↔ _
  cases own with
  | ok value => simp [Action.bind]
  | error error => simp [Action.bind, finishes_finish_iff]

/-- After what is required the action goes on with it, or ends if it is not there. -/
theorem finishes_require_bind {error : EvalError} {needed : Option α} :
    ((require error needed : Action T N α) >>= rest).Finishes evaluator state last state' ↔
      (∃ value, needed = some value ∧ (rest value).Finishes evaluator state last state') ∨
      needed = none ∧ last = .error error ∧ state' = state := by
  cases needed with
  | some value =>
    refine finishes_finish_bind.trans ?_
    simp
  | none =>
    refine finishes_finish_bind.trans ?_
    simp

/-- What is required and is there is no end. -/
theorem finishes_require_bind_of_some {error : EvalError} {needed : Option α} {value : α}
    (h : needed = some value) :
    ((require error needed : Action T N α) >>= rest).Finishes evaluator state last state' ↔
      (rest value).Finishes evaluator state last state' := by
  subst h
  rfl

/-- After a request the action goes on with the answer. -/
theorem finishes_eval_bind {node : Node} {scope : ScopeId} {rest : Value N → Action T N β} :
    (eval node scope >>= rest).Finishes evaluator state last state' ↔
      ∃ value between, evaluator (.eval node scope) state = .done (.ok value) between ∧
        (rest value).Finishes evaluator between last state' :=
  finishes_ask_iff

/-- A name that is given out may be new in the table. -/
theorem finishes_intern_bind [Naming N T] {text : String} {rest : N → Action T N β} :
    (intern text >>= rest).Finishes evaluator state last state' ↔
      (rest (Naming.intern state.names text).1).Finishes evaluator
        { state with names := (Naming.intern (N := N) state.names text).2 } last state' :=
  finishes_access_iff

theorem finishes_lookup_bind [DecidableEq N] {scope : ScopeId} {name : N}
    {rest : Option (Value N) → Action T N β} :
    (lookup scope name >>= rest).Finishes evaluator state last state' ↔
      (rest (state.store.lookup scope name)).Finishes evaluator state last state' :=
  finishes_access_iff

theorem finishes_bindName_bind [DecidableEq N] {scope : ScopeId} {name : N} {value : Value N}
    {rest : Unit → Action T N β} :
    (bindName scope name value >>= rest).Finishes evaluator state last state' ↔
      (rest ()).Finishes evaluator
        { state with store := state.store.bind scope name value } last state' :=
  finishes_access_iff

end Steps

end Action

/-! ### Ends of runs -/

namespace Interpreter

variable {T N : Type} [DecidableEq N] [Naming N T] {interpreter : Interpreter T N} {node : Node}
  {scope : ScopeId} {state state' : State T N} {result : Except EvalError (Value N)}

/-- A run that ends with an error ends with the error of a request that it came to next. -/
def PassesOn (interpreter : Interpreter T N) (request : Request N) (state : State T N)
    (result : Except EvalError (Value N)) (state' : State T N) : Prop :=
  ∃ error next between, result = .error error ∧
    interpreter.Prompts (request, state) (next, between) ∧
    interpreter.Ends next between (.error error) state'

/-- An evaluation that has ended has come to the end of the rule for the node, or to the error of a
request. -/
theorem Ends.finishes_or_passesOn (h : interpreter.Ends (.eval node scope) state result state') :
    (∃ nesting, (interpreter.registry.handler node.kind node scope).Finishes
        (interpreter.answer nesting) state result state') ∨
      interpreter.PassesOn (.eval node scope) state result state' := by
  obtain ⟨nesting, hrun⟩ := h
  cases nesting with
  | zero => cases hrun
  | succ nesting =>
    rw [answer_eval, evalWithin_succ] at hrun
    rcases Action.finishes_of_run hrun with hf | ⟨error, request, between, heq, hmakes, herror⟩
    · exact .inl ⟨nesting, hf⟩
    · exact .inr ⟨error, request, between, heq, .eval nesting hmakes, nesting, herror⟩

end Interpreter

end TreeScript
