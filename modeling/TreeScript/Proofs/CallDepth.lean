import TreeScript.Eval.Replacement
import TreeScript.Proofs.CallLimit
import TreeScript.Regex.Engine

/-!
The depth of calls counts the bodies that are being evaluated. A run is looked at from inside: it
has a moment (`Interpreter.During`) at its start, before and after everything that an action does,
in the middle of the requests on its way, in the body of a function that is called, and after the
call; nothing that a run comes to is left out (`During.of_reaches`, `During.of_ends`). A handler
cannot touch the depth of calls, and a call that is over has taken back what it added when it began.
So a run ends at the depth at which it began (`Ends.callDepth`), and at each moment the depth is
greater than at the start by the number of bodies that are open (`During.callDepth`); under a limit
it does not go beyond the limit (`During.callDepth_le`). It does not matter which handlers replace
the rules.
-/

namespace TreeScript

section Depth

variable [PatternEngine]

/-! ### The states that an action passes through -/

namespace Action

variable {T N α : Type}

/-- When an action is carried out from a state, it passes through the state given last: it begins
there, it has come there by changing the state, or a request has ended there, with a value or with
an error. -/
inductive Visits (evaluator : Evaluator T N) : Action T N α → State T N → State T N → Prop where
  | here {action : Action T N α} {state : State T N} : Visits evaluator action state state
  | access {change : State T N → State T N} {next : State T N → Action T N α}
      {keeps : ∀ state, (change state).callDepth = state.callDepth} {state state' : State T N} :
      Visits evaluator (next state) (change state) state' →
      Visits evaluator (access change next keeps) state state'
  | answered {request : Request N} {next : Value N → Action T N α}
      {state between state' : State T N} {value : Value N} :
      evaluator request state = .done (.ok value) between →
      Visits evaluator (next value) between state' →
      Visits evaluator (ask request next) state state'
  | failed {request : Request N} {next : Value N → Action T N α} {state state' : State T N}
      {error : EvalError} : evaluator request state = .done (.error error) state' →
      Visits evaluator (ask request next) state state'

variable {evaluator : Evaluator T N} {action : Action T N α} {state state' : State T N}

/-- An action passes through the state that it ends in. -/
theorem Visits.of_run {result : Except EvalError α}
    (h : action.run evaluator state = .done result state') :
    Visits evaluator action state state' := by
  induction action generalizing state with
  | finish result =>
    cases h
    exact .here
  | access change next _ ih => exact .access (ih state h)
  | ask request next ih =>
    rcases Outcome.andThen_eq_done h with ⟨value, between, hfirst, hrest⟩ | ⟨error, hfirst, -⟩
    · exact .answered hfirst (ih value hrest)
    · exact .failed hfirst

/-- An action passes through the states in which it makes requests. -/
theorem Visits.of_makes {request : Request N} (h : action.Makes evaluator state request state') :
    Visits evaluator action state state' := by
  induction h with
  | here => exact .here
  | later hfirst _ ih => exact .answered hfirst ih
  | access _ ih => exact .access ih

/-- All states that an action passes through have one depth of calls, if its requests keep it. -/
theorem Visits.callDepth (h : Visits evaluator action state state')
    (hanswer : ∀ request state result state', evaluator request state = .done result state' →
      state'.callDepth = state.callDepth) : state'.callDepth = state.callDepth := by
  induction h with
  | here => rfl
  | @access _ _ hkeeps state _ _ ih => exact ih.trans (hkeeps state)
  | answered hfirst _ ih => exact ih.trans (hanswer _ _ _ _ hfirst)
  | failed hfirst => exact hanswer _ _ _ _ hfirst

end Action

/-! ### Ends of runs -/

/-- To enter a function is to go one call deeper. -/
theorem State.callDepth_enter (state : State) (closure : Closure) (args : List Value) :
    (state.enter closure args).2.callDepth = state.callDepth + 1 :=
  rfl

namespace Interpreter

variable {interpreter : Interpreter} {request : Request} {state state' : State}
  {result : Except EvalError Value} {nesting : Nat}

/-- A call ends at the depth at which it began, if evaluations do. -/
theorem callWith_callDepth {eval : Node → ScopeId → Eval Value} {limit : Option Nat}
    {callee : Value} {args : List Value}
    (heval : ∀ node scope state result state', eval node scope state = .done result state' →
      state'.callDepth = state.callDepth)
    (h : callWith eval limit callee args state = .done result state') :
    state'.callDepth = state.callDepth := by
  rcases callWith_cases limit callee args state with
    ⟨error, -, heq⟩ | ⟨closure, depth, -, -, heq⟩ | ⟨closure, -, -, heq⟩
  · rw [heq] at h
    cases h
    rfl
  · rw [heq] at h
    cases h
    rfl
  · rw [heq] at h
    obtain ⟨inside, hbody, rfl⟩ := Outcome.mapState_eq_done h
    have hinside := heval _ _ _ _ _ hbody
    rw [State.callDepth_enter] at hinside
    change inside.callDepth - 1 = state.callDepth
    omega

theorem evalWithin_callDepth {node : Node} {scope : ScopeId}
    (h : interpreter.evalWithin nesting node scope state = .done result state') :
    state'.callDepth = state.callDepth := by
  induction nesting generalizing node scope state result state' with
  | zero => cases h
  | succ nesting ih =>
    rw [evalWithin_succ] at h
    refine (Action.Visits.of_run h).callDepth ?_
    intro request state result state' hanswer
    cases request with
    | eval node scope => exact ih hanswer
    | call callee args =>
      rw [answer_call] at hanswer
      refine callWith_callDepth ?_ hanswer
      intro node scope state result state' hbody
      exact ih hbody

theorem answer_callDepth
    (h : interpreter.answer nesting request state = .done result state') :
    state'.callDepth = state.callDepth := by
  cases request with
  | eval node scope => exact evalWithin_callDepth h
  | call callee args =>
    rw [answer_call] at h
    refine callWith_callDepth ?_ h
    intro node scope state result state' hbody
    exact evalWithin_callDepth hbody

/-- A run ends at the depth of calls at which it began. -/
theorem Ends.callDepth (h : interpreter.Ends request state result state') :
    state'.callDepth = state.callDepth :=
  let ⟨_, hrun⟩ := h
  answer_callDepth hrun

/-! ### Moments of a run -/

/-- While a request is answered, there is a moment at which so many bodies of functions are being
evaluated, in the state given last. -/
inductive During (interpreter : Interpreter) : Request × State → Nat → State → Prop where
  | start {request : Request} {state : State} : During interpreter (request, state) 0 state
  /-- What the action of a node does, step by step, as far as it comes. -/
  | visit {node : Node} {scope : ScopeId} {state state' : State} (nesting : Nat) :
      (interpreter.registry.handler node.kind node scope).Visits (interpreter.answer nesting) state
        state' →
      During interpreter (.eval node scope, state) 0 state'
  /-- What happens while a request of the action is answered. -/
  | nested {node : Node} {scope : ScopeId} {request : Request} {state between moment : State}
      {opened : Nat} (nesting : Nat) :
      (interpreter.registry.handler node.kind node scope).Makes (interpreter.answer nesting) state
        request between →
      During interpreter (request, between) opened moment →
      During interpreter (.eval node scope, state) opened moment
  /-- What happens in the body of the function that is called. -/
  | body {callee : Value} {args : List Value} {closure : Closure} {state moment : State}
      {opened : Nat} : callee.Accepts args closure →
      interpreter.mode.callLimit.filter (· ≤ state.callDepth) = none →
      During interpreter
        (.eval closure.body (state.enter closure args).1, (state.enter closure args).2) opened
        moment →
      During interpreter (.call callee args, state) (opened + 1) moment
  /-- After the body, the call is over. -/
  | ended {callee : Value} {args : List Value} {state after : State}
      {result : Except EvalError Value} :
      interpreter.Ends (.call callee args) state result after →
      During interpreter (.call callee args, state) 0 after

variable {start : Request × State} {opened maxDepth : Nat} {moment : State}

/-- The end of a run is a moment at which no body is being evaluated any more. -/
theorem During.of_ends (h : interpreter.Ends request state result state') :
    interpreter.During (request, state) 0 state' := by
  cases request with
  | call callee args => exact .ended h
  | eval node scope =>
    obtain ⟨nesting, hrun⟩ := h
    cases nesting with
    | zero => cases hrun
    | succ nesting => exact .visit nesting (.of_run hrun)

/-- What a run comes to, it comes to at some moment. -/
theorem During.of_reaches {last : Request × State} (h : interpreter.Reaches start last) :
    ∃ opened, interpreter.During start opened last.2 := by
  induction h using Relation.ReflTransGen.head_induction_on with
  | refl => exact ⟨0, .start⟩
  | head hprompts _ ih =>
    obtain ⟨opened, hduring⟩ := ih
    cases hprompts with
    | eval nesting hmakes => exact ⟨opened, .nested nesting hmakes hduring⟩
    | call hc hlimit => exact ⟨opened + 1, .body hc hlimit hduring⟩

/-- The depth of calls is that at the start and one for every body that is being evaluated. -/
theorem During.callDepth (h : interpreter.During start opened moment) :
    moment.callDepth = start.2.callDepth + opened := by
  induction h with
  | start => rfl
  | visit nesting hvisits => exact hvisits.callDepth fun _ _ _ _ => answer_callDepth
  | nested nesting hmakes _ ih =>
    rw [ih, (Action.Visits.of_makes hmakes).callDepth fun _ _ _ _ => answer_callDepth]
  | @body _ args closure state moment opened _ _ _ ih =>
    calc moment.callDepth
        = (state.enter closure args).2.callDepth + opened := ih
      _ = state.callDepth + 1 + opened := by rw [State.callDepth_enter]
      _ = state.callDepth + (opened + 1) := by rw [Nat.add_right_comm, Nat.add_assoc]
  | ended hends => exact hends.callDepth

/-- Under a limit the depth of calls does not go beyond it. -/
theorem During.callDepth_le (h : interpreter.During start opened moment)
    (hmode : interpreter.mode = .bounded maxDepth) (hstart : start.2.callDepth ≤ maxDepth) :
    moment.callDepth ≤ maxDepth := by
  induction h with
  | start => exact hstart
  | visit nesting hvisits =>
    rw [During.callDepth (.visit nesting hvisits)]
    exact hstart
  | nested nesting hmakes _ ih =>
    refine ih ?_
    rw [During.callDepth (.visit nesting (.of_makes hmakes))]
    exact hstart
  | body _ hlimit _ ih =>
    refine ih ?_
    rw [hmode] at hlimit
    exact bounded_filter_eq_none_iff.1 hlimit
  | ended hends =>
    rw [hends.callDepth]
    exact hstart

/-! ### Calls -/

/-- A call that does not come to the body of a function fails, and the state is as it was. -/
theorem exists_ends_of_refused {callee : Value} {args : List Value}
    (h : ∀ closure, callee.Accepts args closure →
      interpreter.mode.callLimit.filter (· ≤ state.callDepth) ≠ none) :
    ∃ error, interpreter.Ends (.call callee args) state (.error error) state := by
  rcases callWith_cases interpreter.mode.callLimit callee args state with
    ⟨error, -, heq⟩ | ⟨closure, depth, -, -, heq⟩ | ⟨closure, hc, hlimit, -⟩
  · exact ⟨error, 0, heq _⟩
  · exact ⟨_, 0, heq _⟩
  · exact absurd hlimit (h closure hc)

/-- A call ends when the body has ended. -/
theorem Ends.leave {callee : Value} {args : List Value} {closure : Closure} {inside : State}
    (hc : callee.Accepts args closure)
    (hlimit : interpreter.mode.callLimit.filter (· ≤ state.callDepth) = none)
    (hbody : interpreter.Ends (.eval closure.body (state.enter closure args).1)
      (state.enter closure args).2 result inside) :
    interpreter.Ends (.call callee args) state result inside.leave :=
  (ends_call_iff hc hlimit).2 ⟨inside, hbody, rfl⟩

end Interpreter

/-- **The depth of calls is balanced and bounded.** However a run ends, it ends at the depth of
calls at which it began; at each moment on its way, which its end and everything that it comes to
are, the depth is greater than at the start by the number of bodies of functions that are being
evaluated, and under a limit it does not go beyond the limit. A call of what is no function, with a
wrong number of arguments or at the limit fails and leaves the state as it was; any other call takes
one from a depth that is not zero when the body has ended. -/
theorem call_depth_balanced (interpreter : Interpreter) :
    (∀ request state result after, interpreter.Ends request state result after →
      after.callDepth = state.callDepth ∧ interpreter.During (request, state) 0 after) ∧
    (∀ request state last, interpreter.Reaches (request, state) last →
      ∃ opened, interpreter.During (request, state) opened last.2) ∧
    (∀ request state opened moment, interpreter.During (request, state) opened moment →
      moment.callDepth = state.callDepth + opened ∧
      ∀ maxDepth, interpreter.mode = .bounded maxDepth → state.callDepth ≤ maxDepth →
        moment.callDepth ≤ maxDepth) ∧
    (∀ callee args state,
      (∀ closure, callee.Accepts args closure →
        interpreter.mode.callLimit.filter (· ≤ state.callDepth) ≠ none) →
      ∃ error, interpreter.Ends (.call callee args) state (.error error) state) ∧
    ∀ callee args closure state result inside, callee.Accepts args closure →
      interpreter.mode.callLimit.filter (· ≤ state.callDepth) = none →
      interpreter.Ends (.eval closure.body (state.enter closure args).1)
        (state.enter closure args).2 result inside →
      0 < inside.callDepth ∧ interpreter.Ends (.call callee args) state result inside.leave := by
  refine ⟨?_, fun _ _ _ h => Interpreter.During.of_reaches h, ?_, ?_, ?_⟩
  · intro request state result after h
    exact ⟨h.callDepth, .of_ends h⟩
  · intro request state opened moment h
    exact ⟨h.callDepth, fun maxDepth hmode hstart => h.callDepth_le hmode hstart⟩
  · intro callee args state h
    exact Interpreter.exists_ends_of_refused h
  · intro callee args closure state result inside hc hlimit hbody
    refine ⟨?_, .leave hc hlimit hbody⟩
    rw [hbody.callDepth, State.callDepth_enter]
    exact Nat.succ_pos _

/-- An interpreter in which string literals have their text as they are written, and in which two
calls may be nested. -/
def Interpreter.verbatim : Interpreter where
  registry := Registry.standard.withHandler .stringLiteral Replacement.ownText
  mode := .bounded 2

end Depth

/-- A function that calls itself is cut off and leaves the depth at zero, which was one when its
body began; a call of what is no function changes nothing; and a call of a function that gives null
ends with a depth to take one from. -/
theorem call_depth_balanced_recursive :
    (∃ after, Interpreter.verbatim.Ends (.call (.function (.calling "f")) []) (.recursive "f")
        (.error (.callDepth 2)) after ∧ after.callDepth = 0) ∧
    (∃ moment, Interpreter.verbatim.During (.call (.function (.calling "f")) [], .recursive "f") 1
        moment ∧ moment.callDepth = 1 ∧ moment.callDepth ≤ 2) ∧
    (∃ error, Interpreter.verbatim.Ends (.call .null []) .initial (.error error) .initial) ∧
    ∃ inside : State, 0 < inside.callDepth ∧
      Interpreter.verbatim.Ends (.call (.function ⟨[], .new 0 .nullLiteral, .global⟩) []) .initial
        (.ok .null) inside.leave := by
  have hbalanced := call_depth_balanced Interpreter.verbatim
  have hcalling : (Value.function (.calling "f")).Accepts [] (.calling "f") := ⟨rfl, rfl⟩
  have hends : ∃ after, Interpreter.verbatim.Ends (.call (.function (.calling "f")) [])
      (.recursive "f") (.error (.callDepth 2)) after := ⟨_, 6, by rfl⟩
  have hduring : Interpreter.verbatim.During (.call (.function (.calling "f")) [], .recursive "f") 1
      ((State.recursive "f").enter (.calling "f") []).2 := .body hcalling rfl .start
  have hbody : Interpreter.verbatim.Ends (.eval (.new 0 .nullLiteral) ⟨1⟩)
      (State.initial.enter ⟨[], .new 0 .nullLiteral, .global⟩ []).2 (.ok .null)
      (State.initial.enter ⟨[], .new 0 .nullLiteral, .global⟩ []).2 := ⟨1, by rfl⟩
  obtain ⟨after, hends⟩ := hends
  have hzero : after.callDepth = 0 := (hbalanced.1 _ _ _ _ hends).1
  obtain ⟨-, -, hmoment, hrefused, hcall⟩ := hbalanced
  obtain ⟨hdepth, hle⟩ := hmoment _ _ _ _ hduring
  refine ⟨⟨after, hends, hzero⟩, ⟨_, hduring, hdepth, hle 2 rfl (by decide)⟩,
    hrefused .null [] .initial ?_, _, hcall _ _ _ _ _ _ ⟨rfl, rfl⟩ rfl hbody⟩
  rintro closure ⟨hnull, -⟩
  cases hnull

end TreeScript
