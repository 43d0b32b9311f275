import TreeScript.Proofs.Run.IndexedWrite

/-!
Actions carried out by an interpreter, whatever nesting this takes (`Interpreter.Performs`). An
evaluation ends as the rule for its node is performed (`ends_eval_iff`). Actions in a row are
performed one after the other, each with as much nesting as it needs: an action that is enough
nested for is performed alike with more (`run_of_le`), so there is an amount for all of them
(`performs_bind_iff`). Each single step has one equation for what follows it. A request may also
fail before anything is evaluated for it (`FailsAtOnce`).
-/

namespace TreeScript.Interpreter

variable [PatternEngine] {T N α β : Type} [DecidableEq N] [Naming N T]
  {interpreter : Interpreter T N} {node : Node} {scope : ScopeId} {state state' : State T N}
  {result : Except EvalError α} {last : Except EvalError β}

/-- An interpreter carries an action out from a state, and this ends with a result in a state. -/
def Performs (interpreter : Interpreter T N) (action : Action T N α) (state : State T N)
    (result : Except EvalError α) (state' : State T N) : Prop :=
  ∃ nesting, action.run (interpreter.answer nesting) state = .done result state'

/-- An action that has been carried out is carried out alike with more nesting. -/
theorem run_of_le {action : Action T N α} {nesting more : Nat} (hle : nesting ≤ more)
    (h : action.run (interpreter.answer nesting) state = .done result state') :
    action.run (interpreter.answer more) state = .done result state' := by
  have hanswer := fun request state =>
    interpreter.answer_equalUnless_of_le hle request state
  have hsame := Action.run_equalUnless hanswer action state
  rcases hsame with heq | ⟨stop, hstop, rfl⟩
  · rw [← heq, h]
  · rw [Outcome.stop?_eq_exhausted_iff.1 hstop] at h
    cases h

/-- An evaluation ends as the rule for the node is performed. -/
theorem ends_eval_iff {result : Except EvalError (Value N)} :
    interpreter.Ends (.eval node scope) state result state' ↔
      interpreter.Performs (interpreter.registry.handler node.kind node scope) state result
        state' := by
  constructor
  · rintro ⟨nesting, h⟩
    cases nesting with
    | zero => cases h
    | succ nesting => exact ⟨nesting, h⟩
  · rintro ⟨nesting, h⟩
    exact ⟨nesting + 1, h⟩

/-! ### Single steps -/

theorem performs_finish_iff {own : Except EvalError α} :
    interpreter.Performs (.finish own) state result state' ↔ result = own ∧ state' = state := by
  constructor
  · rintro ⟨nesting, h⟩
    cases h
    exact ⟨rfl, rfl⟩
  · rintro ⟨rfl, rfl⟩
    exact ⟨0, rfl⟩

theorem performs_pure_iff {value : α} :
    interpreter.Performs (pure value) state result state' ↔
      result = .ok value ∧ state' = state :=
  performs_finish_iff

/-- To ask for a value is to evaluate a node. -/
theorem performs_eval_iff {result : Except EvalError (Value N)} :
    interpreter.Performs (Action.eval node scope) state result state' ↔
      interpreter.Ends (.eval node scope) state result state' := by
  have hrun (nesting : Nat) : (Action.eval node scope).run (interpreter.answer nesting) state =
      interpreter.answer nesting (.eval node scope) state := by
    change Outcome.andThen _ _ = _
    match interpreter.answer nesting (.eval node scope) state with
    | .done (.ok _) _ => rfl
    | .done (.error _) _ => rfl
    | .exhausted => rfl
  constructor
  · rintro ⟨nesting, h⟩
    exact ⟨nesting, (hrun nesting).symm.trans h⟩
  · rintro ⟨nesting, h⟩
    exact ⟨nesting, (hrun nesting).trans h⟩

/-! ### Steps in a row -/

/-- Two actions in a row end as the second one does after the first one has given a value, or with
the error of the first one. -/
theorem performs_bind_iff {action : Action T N α} {rest : α → Action T N β} :
    interpreter.Performs (action >>= rest) state last state' ↔
      (∃ value between, interpreter.Performs action state (.ok value) between ∧
        interpreter.Performs (rest value) between last state') ∨
      ∃ error, last = .error error ∧ interpreter.Performs action state (.error error) state' := by
  constructor
  · rintro ⟨nesting, h⟩
    rw [Action.run_bind] at h
    rcases Outcome.andThen_eq_done h with ⟨value, between, hfirst, hrest⟩ | ⟨error, hfirst, heq⟩
    · exact .inl ⟨value, between, ⟨nesting, hfirst⟩, nesting, hrest⟩
    · exact .inr ⟨error, heq, nesting, hfirst⟩
  · rintro (⟨value, between, ⟨nesting, hfirst⟩, more, hrest⟩ | ⟨error, rfl, nesting, hfirst⟩)
    · refine ⟨max nesting more, ?_⟩
      rw [Action.run_bind, run_of_le (Nat.le_max_left nesting more) hfirst]
      exact run_of_le (Nat.le_max_right nesting more) hrest
    · refine ⟨nesting, ?_⟩
      rw [Action.run_bind, hfirst]
      rfl

/-- After a node has a value the action goes on with it; if the evaluation fails, so does the
action. -/
theorem performs_eval_bind {rest : Value N → Action T N β} :
    interpreter.Performs (Action.eval node scope >>= rest) state last state' ↔
      (∃ value between, interpreter.Ends (.eval node scope) state (.ok value) between ∧
        interpreter.Performs (rest value) between last state') ∨
      ∃ error, last = .error error ∧
        interpreter.Ends (.eval node scope) state (.error error) state' := by
  simp only [performs_bind_iff, performs_eval_iff]

/-- After a node that is known to have a value the action goes on with it. -/
theorem performs_eval_bind_of_ends {rest : Value N → Action T N β} {value : Value N}
    {between : State T N} (h : interpreter.Ends (.eval node scope) state (.ok value) between) :
    interpreter.Performs (Action.eval node scope >>= rest) state last state' ↔
      interpreter.Performs (rest value) between last state' := by
  rw [performs_eval_bind]
  constructor
  · rintro (⟨value', between', hvalue, hrest⟩ | ⟨error, -, herror⟩)
    · obtain ⟨heq, rfl⟩ := hvalue.unique h
      cases heq
      exact hrest
    · cases (herror.unique h).1
  · intro hrest
    exact .inl ⟨value, between, h, hrest⟩

/-- What is required and is there is what the action goes on with. -/
theorem performs_require_bind_of_some {error : EvalError} {needed : Option α} {value : α}
    {rest : α → Action T N β} (h : needed = some value) :
    interpreter.Performs (Action.require error needed >>= rest) state last state' ↔
      interpreter.Performs (rest value) state last state' := by
  subst h
  rfl

/-- After a result that is a value the action goes on with the value. -/
theorem performs_finish_bind_of_ok {own : Except EvalError α} {value : α} {rest : α → Action T N β}
    (h : own = .ok value) :
    interpreter.Performs (Action.finish own >>= rest) state last state' ↔
      interpreter.Performs (rest value) state last state' := by
  subst h
  rfl

/-- A name is given out, and the action goes on. -/
theorem performs_intern_bind {text : String} {rest : N → Action T N β} :
    interpreter.Performs (Action.intern text >>= rest) state last state' ↔
      interpreter.Performs (rest (state.nameOf text)) (state.named text) last state' :=
  Iff.rfl

/-- A name is bound, and the action goes on. -/
theorem performs_bindName_bind {name : N} {value : Value N} {rest : Unit → Action T N β} :
    interpreter.Performs (Action.bindName scope name value >>= rest) state last state' ↔
      interpreter.Performs (rest ()) (state.bound scope name value) last state' :=
  Iff.rfl

/-! ### Failing at once -/

/-- A request fails with an error before anything is evaluated for it, in the state in which it is
made. -/
structure FailsAtOnce (interpreter : Interpreter T N) (request : Request N) (state : State T N)
    (error : EvalError) : Prop where
  ends : ∀ result state', interpreter.Ends request state result state' ↔
    result = .error error ∧ state' = state
  prompts : ∀ next, ¬ interpreter.Prompts (request, state) next

/-- A call fails at once if it does so whatever evaluations give. -/
theorem failsAtOnce_call {callee : Value N} {args : List (Value N)} {error : EvalError}
    (h : ∀ eval, callWith eval interpreter.mode.callLimit callee args state =
      .done (.error error) state) : interpreter.FailsAtOnce (.call callee args) state error where
  ends result state' := by
    constructor
    · rintro ⟨nesting, hrun⟩
      rw [answer_call, h] at hrun
      cases hrun
      exact ⟨rfl, rfl⟩
    · rintro ⟨rfl, rfl⟩
      exact ⟨0, answer_call 0 callee args ▸ h _⟩
  prompts next := by
    intro hprompts
    cases hprompts with
    | call haccepts hlimit =>
      have hrun := h fun _ _ _ => .exhausted
      rw [callWith_of_accepts haccepts hlimit] at hrun
      cases hrun

/-- The evaluation of a node fails at once if the rule for it is to fail. -/
theorem failsAtOnce_eval {error : EvalError}
    (h : interpreter.registry.handler node.kind node scope = .finish (.error error)) :
    interpreter.FailsAtOnce (.eval node scope) state error where
  ends result state' := by
    rw [ends_eval_iff, h]
    exact performs_finish_iff
  prompts next := by
    intro hprompts
    cases hprompts with
    | eval nesting hmakes =>
      rw [h] at hmakes
      cases hmakes

end TreeScript.Interpreter
