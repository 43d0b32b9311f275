import Mathlib.Logic.Relation
import TreeScript.Proofs.Run.Requests

/-!
Runs of an interpreter. A run ends when some amount of nesting is enough for it
(`Interpreter.Ends`); more nesting changes nothing (`answer_equalUnless_of_le`), so it ends in one
way only (`Ends.unique`). What `Interpreter.eval` and `Interpreter.call` end with is how a run ends
(`ends_of_eval`, `ends_of_call`). A run that need not end still comes to requests one after another:
those that the action of a node makes, and the evaluation of the body of a function that is called
(`Interpreter.Prompts`). No handler catches errors, so an error that a run ends with has arisen at a
request that the run came to (`Ends.reachesRaise`).
-/

namespace TreeScript

variable [PatternEngine] {T N : Type}

/-! ### Calls -/

/-- A value is a function that takes so many arguments. -/
def Value.Accepts (callee : Value N) (args : List (Value N)) (closure : Closure N) : Prop :=
  callee = .function closure ∧ closure.arity = args.length

section Calls

variable [DecidableEq N]
variable {eval eval' : Node → ScopeId → Eval (Value N) T N} {limit limit' : Option Nat}
  {callee : Value N} {args : List (Value N)} {closure : Closure N} {state : State T N}

/-- A call of what is no function, or with a wrong number of arguments, fails at once. -/
theorem callWith_eq_or_accepts (callee : Value N) (args : List (Value N)) :
    (∃ error, (∀ limit, error ≠ .callDepth limit) ∧
        ∀ {T : Type} (eval : Node → ScopeId → Eval (Value N) T N) limit state,
          callWith eval limit callee args state = .done (.error error) state) ∨
      ∃ closure, callee.Accepts args closure := by
  cases callee with
  | function closure =>
    by_cases h : closure.arity = args.length
    · exact .inr ⟨closure, rfl, h⟩
    · refine .inl ⟨.arityMismatch closure.arity args.length, fun _ => EvalError.noConfusion, ?_⟩
      intro _ eval limit state
      simp [callWith, h]
  | _ => exact .inl ⟨_, fun _ => EvalError.noConfusion, fun _ _ _ => rfl⟩

/-- At the limit of nested calls a call is refused, and the state is as it was. -/
theorem callWith_of_limit {depth : Nat} (h : callee.Accepts args closure)
    (hlimit : limit.filter (· ≤ state.callDepth) = some depth) :
    callWith eval limit callee args state = .done (.error (.callDepth depth)) state := by
  obtain ⟨rfl, harity⟩ := h
  simp [callWith, harity, hlimit]

/-- Below the limit the body of the function is evaluated. -/
theorem callWith_of_accepts (h : callee.Accepts args closure)
    (hlimit : limit.filter (· ≤ state.callDepth) = none) :
    callWith eval limit callee args state =
      (eval closure.body (state.enter closure args).1 (state.enter closure args).2).mapState
        State.leave := by
  obtain ⟨rfl, harity⟩ := h
  simp [callWith, harity, hlimit]

/-- What a call does: it fails at once, it is refused at the limit, or the body is evaluated. -/
theorem callWith_cases (limit : Option Nat) (callee : Value N) (args : List (Value N))
    (state : State T N) :
    (∃ error, (∀ limit, error ≠ .callDepth limit) ∧
        ∀ eval, callWith eval limit callee args state = .done (.error error) state) ∨
      (∃ closure depth, callee.Accepts args closure ∧
        limit.filter (· ≤ state.callDepth) = some depth ∧
        ∀ eval, callWith eval limit callee args state =
          .done (.error (.callDepth depth)) state) ∨
      ∃ closure, callee.Accepts args closure ∧ limit.filter (· ≤ state.callDepth) = none ∧
        ∀ eval, callWith eval limit callee args state =
          (eval closure.body (state.enter closure args).1 (state.enter closure args).2).mapState
            State.leave := by
  rcases callWith_eq_or_accepts callee args with ⟨error, hne, heq⟩ | ⟨closure, hc⟩
  · exact .inl ⟨error, hne, fun eval => heq eval limit state⟩
  cases hlimit : limit.filter (· ≤ state.callDepth) with
  | some depth => exact .inr (.inl ⟨closure, depth, hc, rfl, fun _ => callWith_of_limit hc hlimit⟩)
  | none => exact .inr (.inr ⟨closure, hc, rfl, fun _ => callWith_of_accepts hc hlimit⟩)

/-- Calls are alike where evaluations are, up to stops that include those at the limit. -/
theorem callWith_equalUnless {sort : Stop T N → Prop}
    (h : ∀ node scope state, (eval node scope state).EqualUnless sort (eval' node scope state))
    (hleave : ∀ error state, sort (.failed error state) → sort (.failed error state.leave))
    (hlimit : ∀ depth, limit.filter (· ≤ depth) = limit'.filter (· ≤ depth) ∨
      ∃ l, limit.filter (· ≤ depth) = some l ∧ ∀ state, sort (.failed (.callDepth l) state)) :
    (callWith eval limit callee args state).EqualUnless sort
      (callWith eval' limit' callee args state) := by
  rcases callWith_eq_or_accepts callee args with ⟨error, -, herror⟩ | ⟨closure, hc⟩
  · rw [herror, herror]
    exact .refl _ _
  · rcases hlimit state.callDepth with heq | ⟨l, hl, hsort⟩
    · cases hl : limit.filter (· ≤ state.callDepth) with
      | some l =>
        rw [callWith_of_limit hc hl, callWith_of_limit hc (heq ▸ hl)]
        exact .refl _ _
      | none =>
        rw [callWith_of_accepts hc hl, callWith_of_accepts hc (heq ▸ hl)]
        exact (h _ _ _).mapState hleave
    · rw [callWith_of_limit hc hl]
      exact .inr ⟨_, rfl, hsort state⟩

end Calls

/-! ### Ends of runs -/

namespace Interpreter

variable [DecidableEq N] [Naming N T]

variable {interpreter : Interpreter T N} {request : Request N} {state state' : State T N}
  {result : Except EvalError (Value N)}

/-- The interpreter with the rules of the language. -/
def standard (mode : Mode) (T : Type := NameTable) (N : Type := Name) : Interpreter T N :=
  { mode }

/-- Below the limit a call is not refused. -/
theorem bounded_filter_eq_none_iff {maxDepth depth : Nat} :
    (standard (.bounded maxDepth)).mode.callLimit.filter (· ≤ depth) = none ↔ depth < maxDepth := by
  simp [standard, Mode.callLimit]

/-- A call is refused at the limit and above it. -/
theorem bounded_filter_eq_some_iff {maxDepth depth limit : Nat} :
    (standard (.bounded maxDepth)).mode.callLimit.filter (· ≤ depth) = some limit ↔
      maxDepth = limit ∧ maxDepth ≤ depth := by
  simp only [standard, Mode.callLimit, Option.filter_eq_some_iff, Option.some.injEq,
    decide_eq_true_eq]
  exact and_congr_right fun h => h ▸ Iff.rfl

/-- How requests are answered where evaluations may nest as deeply as the number says. -/
def answer (interpreter : Interpreter T N) (nesting : Nat) : Evaluator T N :=
  answerWith (interpreter.evalWithin nesting) interpreter.mode.callLimit

theorem answer_eval (nesting : Nat) (node : Node) (scope : ScopeId) :
    interpreter.answer nesting (.eval node scope) = interpreter.evalWithin nesting node scope :=
  rfl

theorem answer_call (nesting : Nat) (callee : Value N) (args : List (Value N)) :
    interpreter.answer nesting (.call callee args) =
      callWith (interpreter.evalWithin nesting) interpreter.mode.callLimit callee args :=
  rfl

theorem evalWithin_succ (nesting : Nat) (node : Node) (scope : ScopeId) (state : State T N) :
    interpreter.evalWithin (nesting + 1) node scope state =
      (interpreter.registry.handler node.kind node scope).run (interpreter.answer nesting) state :=
  rfl

section Comparison

variable {interpreter' : Interpreter T N} {sort : Stop T N → Prop} {nesting more : Nat}

/-- Interpreters with the same handlers evaluate alike, up to some stops, if the first one is
granted no more nesting and refuses all calls that the second one does. -/
theorem evalWithin_equalUnless (hnesting : nesting = more ∨ nesting ≤ more ∧ sort .exhausted)
    (hregistry : interpreter.registry = interpreter'.registry)
    (hleave : ∀ error state, sort (.failed error state) → sort (.failed error state.leave))
    (hlimit : ∀ depth, interpreter.mode.callLimit.filter (· ≤ depth) =
        interpreter'.mode.callLimit.filter (· ≤ depth) ∨
      ∃ l, interpreter.mode.callLimit.filter (· ≤ depth) = some l ∧
        ∀ state, sort (.failed (.callDepth l) state))
    (node : Node) (scope : ScopeId) (state : State T N) :
    (interpreter.evalWithin nesting node scope state).EqualUnless sort
      (interpreter'.evalWithin more node scope state) := by
  induction nesting generalizing more node scope state with
  | zero =>
    rcases hnesting with rfl | ⟨-, hsort⟩
    · exact .refl _ _
    · exact .inr ⟨_, rfl, hsort⟩
  | succ nesting ih =>
    obtain ⟨more, rfl⟩ : ∃ rest, more = rest + 1 := ⟨more - 1, by omega⟩
    rw [evalWithin_succ, evalWithin_succ, hregistry]
    refine Action.run_equalUnless (fun request state => ?_) _ state
    have hnesting : nesting = more ∨ nesting ≤ more ∧ sort .exhausted := by
      rcases hnesting with h | ⟨h, hsort⟩
      · exact .inl (by omega)
      · exact .inr ⟨by omega, hsort⟩
    cases request with
    | eval node scope => exact ih hnesting node scope state
    | call callee args => exact callWith_equalUnless (ih hnesting) hleave hlimit

/-- The same for all requests. -/
theorem answer_equalUnless (hnesting : nesting = more ∨ nesting ≤ more ∧ sort .exhausted)
    (hregistry : interpreter.registry = interpreter'.registry)
    (hleave : ∀ error state, sort (.failed error state) → sort (.failed error state.leave))
    (hlimit : ∀ depth, interpreter.mode.callLimit.filter (· ≤ depth) =
        interpreter'.mode.callLimit.filter (· ≤ depth) ∨
      ∃ l, interpreter.mode.callLimit.filter (· ≤ depth) = some l ∧
        ∀ state, sort (.failed (.callDepth l) state))
    (request : Request N) (state : State T N) :
    (interpreter.answer nesting request state).EqualUnless sort
      (interpreter'.answer more request state) := by
  have heval := evalWithin_equalUnless hnesting hregistry hleave hlimit
  cases request with
  | eval node scope => exact heval node scope state
  | call callee args => exact callWith_equalUnless heval hleave hlimit

end Comparison

/-- More nesting changes no answer. -/
theorem answer_equalUnless_of_le {nesting more : Nat} (h : nesting ≤ more) (request : Request N)
    (state : State T N) :
    (interpreter.answer nesting request state).EqualUnless (· = .exhausted)
      (interpreter.answer more request state) := by
  refine answer_equalUnless (.inr ⟨h, ?_⟩) rfl ?_ (fun _ => .inl rfl) request state
  · rfl
  · exact fun _ _ => nofun

/-- The run of an interpreter on a request from a state ends with a result in a state. -/
def Ends (interpreter : Interpreter T N) (request : Request N) (state : State T N)
    (result : Except EvalError (Value N)) (state' : State T N) : Prop :=
  ∃ nesting, interpreter.answer nesting request state = .done result state'

/-- What the evaluation of a node ends with is how its run ends. -/
theorem ends_of_eval {node : Node} {scope : ScopeId}
    (h : interpreter.eval node scope state = .done result state') :
    interpreter.Ends (.eval node scope) state result state' :=
  ⟨ampleNesting, h⟩

/-- What a call ends with is how its run ends. -/
theorem ends_of_call {callee : Value N} {args : List (Value N)}
    (h : interpreter.call callee args state = .done result state') :
    interpreter.Ends (.call callee args) state result state' :=
  ⟨ampleNesting, h⟩

/-- An answer that is there stays with more nesting. -/
theorem answer_of_le {nesting more : Nat} (hle : nesting ≤ more)
    (h : interpreter.answer nesting request state = .done result state') :
    interpreter.answer more request state = .done result state' := by
  rcases answer_equalUnless_of_le hle request state with heq | ⟨stop, hs, rfl⟩
  · rw [← heq, h]
  · rw [Outcome.stop?_eq_exhausted_iff.1 hs] at h
    cases h

/-- A run ends in one way only. -/
theorem Ends.unique {result₁ result₂ : Except EvalError (Value N)} {state₁ state₂ : State T N}
    (h₁ : interpreter.Ends request state result₁ state₁)
    (h₂ : interpreter.Ends request state result₂ state₂) : result₁ = result₂ ∧ state₁ = state₂ := by
  obtain ⟨nesting₁, h₁⟩ := h₁
  obtain ⟨nesting₂, h₂⟩ := h₂
  have h := (answer_of_le (Nat.le_max_left nesting₁ nesting₂) h₁).symm.trans
    (answer_of_le (Nat.le_max_right nesting₁ nesting₂) h₂)
  cases h
  exact ⟨rfl, rfl⟩

/-- A call that is not refused is over when the evaluation of the body is. -/
theorem ends_call_iff {callee : Value N} {args : List (Value N)} {closure : Closure N}
    (h : callee.Accepts args closure)
    (hlimit : interpreter.mode.callLimit.filter (· ≤ state.callDepth) = none) :
    interpreter.Ends (.call callee args) state result state' ↔
      ∃ last, interpreter.Ends (.eval closure.body (state.enter closure args).1)
        (state.enter closure args).2 result last ∧ state' = last.leave := by
  constructor
  · rintro ⟨nesting, hrun⟩
    rw [answer_call, callWith_of_accepts h hlimit] at hrun
    obtain ⟨last, hbody, hlast⟩ := Outcome.mapState_eq_done hrun
    exact ⟨last, ⟨nesting, hbody⟩, hlast⟩
  · rintro ⟨last, ⟨nesting, hbody⟩, rfl⟩
    refine ⟨nesting, ?_⟩
    rw [answer_eval] at hbody
    rw [answer_call, callWith_of_accepts h hlimit, hbody]
    rfl

/-! ### Requests on the way -/

/-- A run that has come to a request comes to another one next, nested in it: one that the action of
the node makes, or the evaluation of the body of the function that is called. -/
inductive Prompts (interpreter : Interpreter T N) :
    Request N × State T N → Request N × State T N → Prop where
  | eval {node : Node} {scope : ScopeId} {state state' : State T N} {request : Request N}
      (nesting : Nat) :
      (interpreter.registry.handler node.kind node scope).Makes (interpreter.answer nesting) state
        request state' →
      Prompts interpreter (.eval node scope, state) (request, state')
  | call {callee : Value N} {args : List (Value N)} {closure : Closure N} {state : State T N} :
      callee.Accepts args closure →
      interpreter.mode.callLimit.filter (· ≤ state.callDepth) = none →
      Prompts interpreter (.call callee args, state)
        (.eval closure.body (state.enter closure args).1, (state.enter closure args).2)

/-- A run that is cut off for lack of nesting is cut off in a request that it comes to next. -/
theorem exists_prompts_of_exhausted {nesting : Nat}
    (h : interpreter.answer nesting request state = .exhausted) :
    (nesting = 0 ∧ ∃ node scope, request = .eval node scope) ∨
      ∃ request' state' less, nesting ≤ less + 1 ∧
        interpreter.Prompts (request, state) (request', state') ∧
        interpreter.answer less request' state' = .exhausted := by
  cases request with
  | eval node scope =>
    cases nesting with
    | zero => exact .inl ⟨rfl, node, scope, rfl⟩
    | succ nesting =>
      have hstop := Outcome.stop?_eq_exhausted_iff.2 h
      rw [answer_eval, evalWithin_succ] at hstop
      rcases Action.makes_of_stop?_run hstop with ⟨request', state', hm, hs⟩ | ⟨_, _, hfail, -⟩
      · have hs := Outcome.stop?_eq_exhausted_iff.1 hs
        exact .inr ⟨request', state', nesting, Nat.le_refl _, .eval nesting hm, hs⟩
      · cases hfail
  | call callee args =>
    rw [answer_call] at h
    rcases callWith_cases interpreter.mode.callLimit callee args state with
      ⟨error, -, heq⟩ | ⟨closure, depth, -, -, heq⟩ | ⟨closure, hc, hlimit, heq⟩
    · rw [heq] at h
      cases h
    · rw [heq] at h
      cases h
    · rw [heq] at h
      exact .inr ⟨_, _, nesting, Nat.le_succ _, .call hc hlimit, Outcome.mapState_eq_exhausted h⟩

/-- A run that has come to a request comes to another one later on, nested in it at any depth. -/
def Reaches (interpreter : Interpreter T N) :
    Request N × State T N → Request N × State T N → Prop :=
  Relation.ReflTransGen interpreter.Prompts

/-! ### Where errors come from -/

/-- An error arises at a request: the handler of the node may fail with it by itself, or the call
fails with it before the body of a function is evaluated. -/
inductive Raises (interpreter : Interpreter T N) (error : EvalError) :
    Request N × State T N → Prop where
  | eval {node : Node} {scope : ScopeId} {state : State T N}
      (h : (interpreter.registry.handler node.kind node scope).MayFail error) :
      Raises interpreter error (.eval node scope, state)
  | call {callee : Value N} {args : List (Value N)} {state : State T N}
      (h : ∀ eval, callWith eval interpreter.mode.callLimit callee args state =
        .done (.error error) state) :
      Raises interpreter error (.call callee args, state)

/-- A run comes to a request at which an error arises. -/
def ReachesRaise (interpreter : Interpreter T N) (error : EvalError)
    (start : Request N × State T N) : Prop :=
  ∃ origin, interpreter.Reaches start origin ∧ interpreter.Raises error origin

theorem ReachesRaise.of_prompts {error : EvalError} {start next : Request N × State T N}
    (hfirst : interpreter.Prompts start next) (h : interpreter.ReachesRaise error next) :
    interpreter.ReachesRaise error start := by
  obtain ⟨origin, hreaches, hraises⟩ := h
  exact ⟨origin, .head hfirst hreaches, hraises⟩

section Raise

variable {error : EvalError} {nesting : Nat}

/-- An answer that is an error has an origin, if evaluations that fail have one. -/
theorem answer_reachesRaise
    (heval : ∀ node scope state state',
      interpreter.evalWithin nesting node scope state = .done (.error error) state' →
      interpreter.ReachesRaise error (.eval node scope, state))
    (h : interpreter.answer nesting request state = .done (.error error) state') :
    interpreter.ReachesRaise error (request, state) := by
  cases request with
  | eval node scope => exact heval node scope state state' h
  | call callee args =>
    rw [answer_call] at h
    rcases callWith_cases interpreter.mode.callLimit callee args state with
      ⟨_, -, heq⟩ | ⟨_, _, -, -, heq⟩ | ⟨closure, hc, hlimit, heq⟩
    · rw [heq] at h
      cases h
      exact ⟨_, .refl, .call heq⟩
    · rw [heq] at h
      cases h
      exact ⟨_, .refl, .call heq⟩
    · rw [heq] at h
      obtain ⟨inside, hinside, -⟩ := Outcome.mapState_eq_done h
      exact .of_prompts (.call hc hlimit) (heval _ _ _ _ hinside)

theorem evalWithin_reachesRaise {node : Node} {scope : ScopeId}
    (h : interpreter.evalWithin nesting node scope state = .done (.error error) state') :
    interpreter.ReachesRaise error (.eval node scope, state) := by
  induction nesting generalizing node scope state state' with
  | zero => cases h
  | succ nesting ih =>
    have hstop := Outcome.stop?_eq_failed_iff.2 h
    rw [evalWithin_succ] at hstop
    rcases Action.makes_of_stop?_run hstop with ⟨request, between, hmakes, hs⟩ | ⟨_, _, heq, hfail⟩
    · have hrun := Outcome.stop?_eq_failed_iff.1 hs
      exact .of_prompts (.eval nesting hmakes) (answer_reachesRaise (fun _ _ _ _ => ih) hrun)
    · cases heq
      exact ⟨_, .refl, .eval hfail⟩

/-- No error that a run ends with comes from nowhere. -/
theorem Ends.reachesRaise (h : interpreter.Ends request state (.error error) state') :
    interpreter.ReachesRaise error (request, state) := by
  obtain ⟨nesting, hrun⟩ := h
  exact answer_reachesRaise (fun _ _ _ _ => evalWithin_reachesRaise) hrun

end Raise

end Interpreter

end TreeScript
