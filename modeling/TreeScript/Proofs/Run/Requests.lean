import TreeScript.Interpreter

/-!
What happens while an action is carried out. Two actions in a row are carried out one after the
other (`run_bind`). An outcome without a value is a `Stop`. No action goes on after a stop of one of
its requests (`Makes.stop?_run`), and an action that stops has failed by itself or has made a
request that stops in the same way (`makes_of_stop?_run`). Two evaluators whose answers are equal
unless the first one stops in some way give runs of which the same is true (`run_equalUnless`).
-/

namespace TreeScript

variable [PatternEngine]

/-! ### Stops -/

/-- Why a computation has no value. -/
inductive Stop (T : Type := NameTable) (N : Type := Name) where
  | failed (error : EvalError) (state : State T N)
  | exhausted

variable {T N : Type}

namespace Outcome

variable {α β : Type}

/-- Why an outcome has no value, if it has none. -/
def stop? : Outcome α T N → Option (Stop T N)
  | done (.ok _) _ => none
  | done (.error error) state => some (.failed error state)
  | exhausted => some .exhausted

theorem stop?_eq_failed_iff {outcome : Outcome α T N} {error : EvalError} {state : State T N} :
    outcome.stop? = some (.failed error state) ↔ outcome = done (.error error) state := by
  match outcome with
  | done (.ok _) _ => simp [stop?]
  | done (.error _) _ => simp [stop?]
  | exhausted => simp [stop?]

theorem stop?_eq_exhausted_iff {outcome : Outcome α T N} :
    outcome.stop? = some .exhausted ↔ outcome = exhausted := by
  match outcome with
  | done (.ok _) _ => simp [stop?]
  | done (.error _) _ => simp [stop?]
  | exhausted => simp [stop?]

/-- An outcome that is not a lack of nesting has a result. -/
theorem exists_done_of_ne_exhausted {outcome : Outcome α T N} (h : outcome ≠ exhausted) :
    ∃ result state, outcome = done result state := by
  cases outcome with
  | done result state => exact ⟨result, state, rfl⟩
  | exhausted => exact absurd rfl h

/-- A computation stops where its first part does. -/
theorem stop?_andThen {first : Outcome α T N} {next : α → Eval β T N} {stop : Stop T N}
    (h : first.stop? = some stop) : (first.andThen next).stop? = some stop := by
  match first, h with
  | done (.error _) _, h => exact h
  | exhausted, h => exact h

/-- A computation that stops has stopped in its first part or in what follows. -/
theorem stop?_andThen_cases {first : Outcome α T N} {next : α → Eval β T N} {stop : Stop T N}
    (h : (first.andThen next).stop? = some stop) :
    first.stop? = some stop ∨
      ∃ value state, first = done (.ok value) state ∧ (next value state).stop? = some stop := by
  match first, h with
  | done (.ok value) state, h => exact .inr ⟨value, state, rfl, h⟩
  | done (.error _) _, h => exact .inl h
  | exhausted, h => exact .inl h

/-- A computation with a result has one in its first part. -/
theorem andThen_eq_done {first : Outcome α T N} {next : α → Eval β T N}
    {result : Except EvalError β} {state : State T N} (h : first.andThen next = done result state) :
    (∃ value between, first = done (.ok value) between ∧ next value between = done result state) ∨
      ∃ error, first = done (.error error) state ∧ result = .error error := by
  match first, h with
  | done (.ok value) between, h => exact .inl ⟨value, between, rfl, h⟩
  | done (.error error) _, h =>
    cases h
    exact .inr ⟨error, rfl, rfl⟩

theorem mapState_eq_done {outcome : Outcome α T N} {change : State T N → State T N}
    {result : Except EvalError α} {state : State T N}
    (h : outcome.mapState change = done result state) :
    ∃ before, outcome = done result before ∧ state = change before := by
  match outcome, h with
  | done _ before, h =>
    cases h
    exact ⟨before, rfl, rfl⟩

theorem mapState_eq_exhausted {outcome : Outcome α T N} {change : State T N → State T N}
    (h : outcome.mapState change = exhausted) : outcome = exhausted := by
  cases outcome with
  | done result state => cases h
  | exhausted => rfl

/-! ### Outcomes that differ by stops alone -/

/-- Two outcomes are equal, unless the first is a stop of some sort. -/
def EqualUnless (sort : Stop T N → Prop) (left right : Outcome α T N) : Prop :=
  left = right ∨ ∃ stop, left.stop? = some stop ∧ sort stop

namespace EqualUnless

variable {sort : Stop T N → Prop} {left right : Outcome α T N}

theorem refl (sort : Stop T N → Prop) (outcome : Outcome α T N) :
    EqualUnless sort outcome outcome :=
  .inl rfl

/-- A value on the left is a value on the right. -/
theorem eq_of_ok (h : EqualUnless sort left right) {value : α} {state : State T N}
    (hl : left = done (.ok value) state) : right = done (.ok value) state := by
  rcases h with h | ⟨stop, hs, -⟩
  · rw [← h, hl]
  · rw [hl] at hs
    cases hs

theorem andThen {first first' : Outcome β T N} {next next' : β → Eval α T N}
    (h : EqualUnless sort first first')
    (hnext : ∀ value state, EqualUnless sort (next value state) (next' value state)) :
    EqualUnless sort (first.andThen next) (first'.andThen next') := by
  rcases h with rfl | ⟨stop, hs, hsort⟩
  · match first with
    | done (.ok value) state => exact hnext value state
    | done (.error _) _ => exact refl sort _
    | exhausted => exact refl sort _
  · exact .inr ⟨stop, stop?_andThen hs, hsort⟩

theorem mapState {change : State T N → State T N} (h : EqualUnless sort left right)
    (hsort : ∀ error state, sort (.failed error state) → sort (.failed error (change state))) :
    EqualUnless sort (left.mapState change) (right.mapState change) := by
  rcases h with rfl | ⟨stop, hs, hstop⟩
  · exact refl sort _
  · match left, hs with
    | done (.error error) state, hs =>
      cases hs
      exact .inr ⟨_, rfl, hsort error state hstop⟩
    | exhausted, hs =>
      cases hs
      exact .inr ⟨_, rfl, hstop⟩

end EqualUnless

end Outcome

/-! ### Actions -/

namespace Action

variable {α β : Type} {evaluator evaluator' : Evaluator T N} {state state' : State T N}
  {request : Request N}

/-- To carry out two actions in a row is to carry out one and then the other. -/
theorem run_bind (action : Action T N α) (rest : α → Action T N β) (state : State T N) :
    (action >>= rest).run evaluator state =
      (action.run evaluator state).andThen fun value state => (rest value).run evaluator state := by
  change (action.bind rest).run evaluator state = _
  induction action generalizing state with
  | finish result => cases result <;> rfl
  | access change next _ ih => exact ih state (change state)
  | ask request next ih =>
    simp only [Action.bind, run]
    match evaluator request state with
    | .done (.ok value) between => exact ih value between
    | .done (.error _) _ => rfl
    | .exhausted => rfl

/-- Evaluators that are equal up to some stops carry an action out alike up to these stops. -/
theorem run_equalUnless {sort : Stop T N → Prop}
    (h : ∀ request state, (evaluator request state).EqualUnless sort (evaluator' request state))
    (action : Action T N α) (state : State T N) :
    (action.run evaluator state).EqualUnless sort (action.run evaluator' state) := by
  induction action generalizing state with
  | finish result => exact .refl _ _
  | access change next _ ih => exact ih state (change state)
  | ask request next ih => exact (h request state).andThen fun value between => ih value between

/-! ### The requests that are made -/

/-- When an action is carried out from a state, it makes a request, in the state given last. -/
inductive Makes (evaluator : Evaluator T N) :
    Action T N α → State T N → Request N → State T N → Prop where
  | here {request : Request N} {next : Value N → Action T N α} {state : State T N} :
      Makes evaluator (ask request next) state request state
  | later {first request : Request N} {next : Value N → Action T N α}
      {state between state' : State T N} {value : Value N} :
      evaluator first state = .done (.ok value) between →
      Makes evaluator (next value) between request state' →
      Makes evaluator (ask first next) state request state'
  | access {change : State T N → State T N} {next : State T N → Action T N α}
      {keeps : ∀ state, (change state).callDepth = state.callDepth} {request : Request N}
      {state state' : State T N} :
      Makes evaluator (next state) (change state) request state' →
      Makes evaluator (access change next keeps) state request state'

/-- An action may end with an error of its own, whatever answers it gets. -/
inductive MayFail (error : EvalError) : Action T N α → Prop where
  | finish : MayFail error (finish (.error error))
  | access {change : State T N → State T N} {next : State T N → Action T N α}
      {keeps : ∀ state, (change state).callDepth = state.callDepth} (state : State T N) :
      MayFail error (next state) → MayFail error (access change next keeps)
  | ask {request : Request N} {next : Value N → Action T N α} (value : Value N) :
      MayFail error (next value) → MayFail error (ask request next)

/-- An action stops where one of its requests does. -/
theorem Makes.stop?_run {action : Action T N α} {stop : Stop T N}
    (h : action.Makes evaluator state request state')
    (hs : (evaluator request state').stop? = some stop) :
    (action.run evaluator state).stop? = some stop := by
  induction h with
  | here => exact Outcome.stop?_andThen hs
  | later hfirst _ ih =>
    simp only [run, hfirst]
    exact ih hs
  | access _ ih => exact ih hs

/-- An action that stops has failed by itself, or one of its requests has stopped. -/
theorem makes_of_stop?_run {action : Action T N α} {stop : Stop T N}
    (h : (action.run evaluator state).stop? = some stop) :
    (∃ request state', action.Makes evaluator state request state' ∧
        (evaluator request state').stop? = some stop) ∨
      ∃ error state', stop = .failed error state' ∧ action.MayFail error := by
  induction action generalizing state with
  | finish result =>
    cases result with
    | ok value => cases h
    | error error =>
      cases h
      exact .inr ⟨error, state, rfl, .finish⟩
  | access change next _ ih =>
    rcases ih state h with ⟨request, state', hm, hs⟩ | ⟨error, state', hstop, hf⟩
    · exact .inl ⟨request, state', .access hm, hs⟩
    · exact .inr ⟨error, state', hstop, .access state hf⟩
  | ask first next ih =>
    rcases Outcome.stop?_andThen_cases h with hs | ⟨value, between, hfirst, hs⟩
    · exact .inl ⟨first, state, .here, hs⟩
    · rcases ih value hs with ⟨request, state', hm, hs⟩ | ⟨error, state', hstop, hf⟩
      · exact .inl ⟨request, state', .later hfirst hm, hs⟩
      · exact .inr ⟨error, state', hstop, .ask value hf⟩

/-- A request is also made with an evaluator that gives the same values. -/
theorem Makes.of_equalUnless {sort : Stop T N → Prop} {action : Action T N α}
    (h : ∀ request state, (evaluator request state).EqualUnless sort (evaluator' request state))
    (hm : action.Makes evaluator state request state') :
    action.Makes evaluator' state request state' := by
  induction hm with
  | here => exact .here
  | later hfirst _ ih => exact .later ((h _ _).eq_of_ok hfirst) ih
  | access _ ih => exact .access ih

/-- A request is also made with an evaluator that stops more often, unless the action stops. -/
theorem Makes.or_stop?_run {sort : Stop T N → Prop} {action : Action T N α}
    (h : ∀ request state, (evaluator request state).EqualUnless sort (evaluator' request state))
    (hm : action.Makes evaluator' state request state') :
    action.Makes evaluator state request state' ∨
      ∃ stop, (action.run evaluator state).stop? = some stop ∧ sort stop := by
  induction hm with
  | here => exact .inl .here
  | @later first _ _ state _ _ _ hfirst _ ih =>
    rcases h first state with heq | ⟨stop, hs, hsort⟩
    · rw [hfirst] at heq
      rcases ih with hm | ⟨stop, hs, hsort⟩
      · exact .inl (.later heq hm)
      · refine .inr ⟨stop, ?_, hsort⟩
        simp only [run, heq]
        exact hs
    · exact .inr ⟨stop, Outcome.stop?_andThen hs, hsort⟩
  | access _ ih =>
    rcases ih with hm | hs
    · exact .inl (.access hm)
    · exact .inr hs

end Action

end TreeScript
