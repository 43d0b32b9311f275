import TreeScript.Proofs.Lockstep.Rules
import TreeScript.Proofs.Run.Ends

/-!
Two runs of one program, side by side. A `Correspondence` is a likeness with a relation between the
states of the two runs that every single step keeps: to give out a name, to bind one, to make a
scope. Then whole runs keep it too (`Correspondence.answer_matches`): they end in the same way,
with alike values or with the same error, in states that stand in the relation and at the depth of
calls at which they began. The two runs also come to alike requests on the way
(`Correspondence.asks_of_handler`).

A correspondence of a run with itself is an invariant of the run.
-/

namespace TreeScript

variable [PatternEngine]

/-- A likeness, and a relation between states that single steps keep. -/
structure Correspondence (T : Type := NameTable) (N : Type := Name) (T' : Type := NameTable)
    (N' : Type := Name) [DecidableEq N] [Naming N T] [DecidableEq N'] [Naming N' T'] extends
    Likeness N N' where
  state : World → State T N → State T' N' → Prop
  /-- Alike functions differ by names and scopes only. -/
  closure : ∀ {w left right}, value w (.function left) (.function right) →
    List.Forall₂ (fun m n => ∃ text, name w text m n) left.params right.params ∧
      left.body = right.body ∧ node left.body ∧ scope w left.scope right.scope
  /-- The depth of calls may change, in both runs alike. -/
  callDepth : ∀ {w left right} (change : Nat → Nat), state w left right →
    left.callDepth = right.callDepth →
    state w { left with callDepth := change left.callDepth }
      { right with callDepth := change right.callDepth }
  intern : ∀ {w left right} (text : String), state w left right →
    ∃ w', w ≤ w' ∧
      name w' text (Naming.intern left.names text).1 (Naming.intern right.names text).1 ∧
      state w' { left with names := (Naming.intern (N := N) left.names text).2 }
        { right with names := (Naming.intern (N := N') right.names text).2 }
  lookup : ∀ {w left right a b text m n}, state w left right → scope w a b → name w text m n →
    Option.Rel (value w) (left.store.lookup a m) (right.store.lookup b n)
  bind : ∀ {w left right a b text m n v v'}, state w left right → scope w a b →
    name w text m n → value w v v' →
    state w { left with store := left.store.bind a m v }
      { right with store := right.store.bind b n v' }
  addChild : ∀ {w left right a b}, state w left right → scope w a b →
    ∃ w', w ≤ w' ∧ scope w' (left.store.addChild a).1 (right.store.addChild b).1 ∧
      state w' { left with store := (left.store.addChild a).2 }
        { right with store := (right.store.addChild b).2 }

/-- Two runs, each from a request and a state, end together: if one of them ends, so does the other,
and their ends are alike. -/
structure Interpreter.EndTogether {T N T' N' : Type} [DecidableEq N] [Naming N T] [DecidableEq N']
    [Naming N' T'] (interpreter : Interpreter T N) (interpreter' : Interpreter T' N')
    (start : Request N × State T N) (start' : Request N' × State T' N')
    (alike : Except EvalError (Value N) → State T N → Except EvalError (Value N') → State T' N' →
      Prop) : Prop where
  forth : ∀ result after, interpreter.Ends start.1 start.2 result after →
    ∃ result' after', interpreter'.Ends start'.1 start'.2 result' after' ∧
      alike result after result' after'
  back : ∀ result' after', interpreter'.Ends start'.1 start'.2 result' after' →
    ∃ result after, interpreter.Ends start.1 start.2 result after ∧
      alike result after result' after'

theorem Interpreter.EndTogether.mono {T N T' N' : Type} [DecidableEq N] [Naming N T]
    [DecidableEq N'] [Naming N' T'] {interpreter : Interpreter T N}
    {interpreter' : Interpreter T' N'} {start : Request N × State T N}
    {start' : Request N' × State T' N'}
    {alike alike' : Except EvalError (Value N) → State T N → Except EvalError (Value N') →
      State T' N' → Prop}
    (h : interpreter.EndTogether interpreter' start start' alike)
    (sub : ∀ result after result' after', alike result after result' after' →
      alike' result after result' after') :
    interpreter.EndTogether interpreter' start start' alike' where
  forth result after hends :=
    let ⟨result', after', hends', halike⟩ := h.forth result after hends
    ⟨result', after', hends', sub _ _ _ _ halike⟩
  back result' after' hends :=
    let ⟨result, after, hends', halike⟩ := h.back result' after' hends
    ⟨result, after, hends', sub _ _ _ _ halike⟩

/-- An interpreter has the handlers of the language for all nodes of some sort. -/
def Interpreter.Follows {T N : Type} [DecidableEq N] [Naming N T] (interpreter : Interpreter T N)
    (sort : Node → Prop) : Prop :=
  ∀ node, sort node → interpreter.registry.handler node.kind = Rules.handler node.kind

theorem Interpreter.Follows.standard {T N : Type} [DecidableEq N] [Naming N T] {mode : Mode}
    (sort : Node → Prop) : (Interpreter.standard mode T N).Follows sort :=
  fun _ _ => rfl

namespace Correspondence

variable {T N T' N' : Type} [DecidableEq N] [Naming N T] [DecidableEq N'] [Naming N' T']
  {c : Correspondence T N T' N'} {w w' : c.World} {depth : Nat} {node : Node} {a b : ScopeId}
  {α β γ δ : Type} {alike : c.World → α → β → Prop} {left left' : State T N}
  {right right' : State T' N'} {evaluator : Evaluator T N} {evaluator' : Evaluator T' N'}

/-- Two states correspond, at a depth of calls. -/
structure At (c : Correspondence T N T' N') (w : c.World) (depth : Nat) (left : State T N)
    (right : State T' N') : Prop where
  state : c.state w left right
  left_depth : left.callDepth = depth
  right_depth : right.callDepth = depth

/-- Two computations end in the same way, at a depth of calls. -/
inductive Matches (c : Correspondence T N T' N') (w : c.World) (depth : Nat)
    (alike : c.World → α → β → Prop) : Outcome α T N → Outcome β T' N' → Prop where
  | ok {w' : c.World} {v : α} {v' : β} {left : State T N} {right : State T' N'} (hle : w ≤ w')
      (h : alike w' v v') (hstate : c.At w' depth left right) :
      Matches c w depth alike (.done (.ok v) left) (.done (.ok v') right)
  | error {w' : c.World} {error : EvalError} {left : State T N} {right : State T' N'} (hle : w ≤ w')
      (hstate : c.At w' depth left right) :
      Matches c w depth alike (.done (.error error) left) (.done (.error error) right)
  | exhausted : Matches c w depth alike .exhausted .exhausted

/-- Alike requests: for the value of one node in alike scopes, or for alike calls. -/
inductive Alike (c : Correspondence T N T' N') (w : c.World) : Request N → Request N' → Prop where
  | eval {node : Node} {a b : ScopeId} (hnode : c.node node) (hscope : c.scope w a b) :
      Alike c w (.eval node a) (.eval node b)
  | call {callee : Value N} {callee' : Value N'} {args : List (Value N)} {args' : List (Value N')}
      (hcallee : c.value w callee callee')
      (hargs : List.Forall₂ (c.value w) args args') :
      Alike c w (.call callee args) (.call callee' args')

theorem At.depth_eq (h : c.At w depth left right) : left.callDepth = right.callDepth :=
  h.left_depth.trans h.right_depth.symm

/-- What two actions for a node ask for is alike, in alike scopes. -/
theorem alike_of_asks {request : Request N} {request' : Request N'}
    (h : c.Asks node a b w request request') (hnode : c.node node) (hscope : c.scope w a b) :
    c.Alike w request request' := by
  cases h with
  | eval hpart => exact .eval (c.node_part hnode hpart) hscope
  | call hcallee hargs => exact .call hcallee hargs

namespace Matches

theorem of_le {outcome : Outcome α T N} {outcome' : Outcome β T' N'} (hle : w ≤ w')
    (h : Matches c w' depth alike outcome outcome') : Matches c w depth alike outcome outcome' := by
  cases h with
  | ok hle' h hstate => exact .ok (hle.trans hle') h hstate
  | error hle' hstate => exact .error (hle.trans hle') hstate
  | exhausted => exact .exhausted

/-- What corresponds to a value. -/
theorem exists_of_ok {v : α} {outcome' : Outcome β T' N'}
    (h : Matches c w depth alike (.done (.ok v) left) outcome') :
    ∃ w' v' right, outcome' = .done (.ok v') right ∧ w ≤ w' ∧ alike w' v v' ∧
      c.At w' depth left right := by
  cases h with
  | ok hle h hstate => exact ⟨_, _, _, rfl, hle, h, hstate⟩

/-- If one of the two computations ends, so does the other, in the same way. -/
theorem cases {outcome : Outcome α T N} {outcome' : Outcome β T' N'}
    (h : Matches c w depth alike outcome outcome') :
    (outcome = .exhausted ∧ outcome' = .exhausted) ∨
      ∃ result after result' after', outcome = .done result after ∧
        outcome' = .done result' after' ∧ ∃ w', w ≤ w' ∧ SameResult (alike w') result result' ∧
          c.At w' depth after after' := by
  cases h with
  | ok hle h hstate => exact .inr ⟨_, _, _, _, rfl, rfl, _, hle, .ok h, hstate⟩
  | error hle hstate => exact .inr ⟨_, _, _, _, rfl, rfl, _, hle, .error _, hstate⟩
  | exhausted => exact .inl ⟨rfl, rfl⟩

theorem andThen {alike' : c.World → γ → δ → Prop} {first : Outcome α T N}
    {first' : Outcome β T' N'} {next : α → Eval γ T N} {next' : β → Eval δ T' N'}
    (h : Matches c w depth alike first first')
    (hnext : ∀ w' v v' left right, w ≤ w' → alike w' v v' → c.At w' depth left right →
      Matches c w' depth alike' (next v left) (next' v' right)) :
    Matches c w depth alike' (first.andThen next) (first'.andThen next') := by
  cases h with
  | ok hle h hstate => exact (hnext _ _ _ _ _ hle h hstate).of_le hle
  | error hle hstate => exact .error hle hstate
  | exhausted => exact .exhausted

/-- When calls are over, the depth of calls is one less. -/
theorem leave {outcome : Outcome α T N} {outcome' : Outcome β T' N'}
    (h : Matches c w (depth + 1) alike outcome outcome') :
    Matches c w depth alike (outcome.mapState State.leave) (outcome'.mapState State.leave) := by
  have leaves {w' : c.World} {left : State T N} {right : State T' N'}
      (hstate : c.At w' (depth + 1) left right) :
      c.At w' depth left.leave right.leave := by
    refine ⟨c.callDepth (· - 1) hstate.state hstate.depth_eq, ?_, ?_⟩
    · exact congrArg (· - 1) hstate.left_depth
    · exact congrArg (· - 1) hstate.right_depth
  cases h with
  | ok hle h hstate => exact .ok hle h (leaves hstate)
  | error hle hstate => exact .error hle (leaves hstate)
  | exhausted => exact .exhausted

end Matches

/-! ### Actions of rules -/

/-- Actions in lockstep are carried out alike, if their requests are answered alike. -/
theorem run_matches {action : Action T N α} {action' : Action T' N' β}
    (h : Lockstep c.toLikeness node a b alike w action action')
    (hanswer : ∀ w request request' left right, c.Alike w request request' →
      c.At w depth left right →
      Matches c w depth c.value (evaluator request left) (evaluator' request' right))
    (hnode : c.node node) (hscope : c.scope w a b) (hstate : c.At w depth left right) :
    Matches c w depth alike (action.run evaluator left) (action'.run evaluator' right) := by
  induction h generalizing left right with
  | ok h => exact .ok le_rfl h hstate
  | error _ => exact .error le_rfl hstate
  | @intern w text next next' _ ih =>
    obtain ⟨w', hle, hname, hs⟩ := c.intern text hstate.state
    have hstate : c.At w' depth _ _ := ⟨hs, hstate.left_depth, hstate.right_depth⟩
    exact (ih w' _ _ hle hname (c.scope_mono hle hscope) hstate).of_le hle
  | lookup hname _ ih => exact ih _ _ (c.lookup hstate.state hscope hname) hscope hstate
  | bindName _ hname hvalue _ ih =>
    have hs := c.bind hstate.state hscope hname hvalue
    exact ih () hscope ⟨hs, hstate.left_depth, hstate.right_depth⟩
  | ask hasks _ ih =>
    refine (hanswer _ _ _ _ _ (alike_of_asks hasks hnode hscope) hstate).andThen ?_
    intro w' v v' left right hle hv hstate
    exact ih w' v v' hle hv (c.scope_mono hle hscope) hstate

/-- What one of two actions in lockstep asks for, the other one asks for too, in a state that
corresponds. -/
theorem asks_of_makes {action : Action T N α} {action' : Action T' N' β}
    {request : Request N}
    (h : Lockstep c.toLikeness node a b alike w action action')
    (hanswer : ∀ w request request' left right, c.Alike w request request' →
      c.At w depth left right →
      Matches c w depth c.value (evaluator request left) (evaluator' request' right))
    (hnode : c.node node) (hscope : c.scope w a b) (hstate : c.At w depth left right)
    (hmakes : action.Makes evaluator left request left') :
    ∃ w' request' right', w ≤ w' ∧ action'.Makes evaluator' right request' right' ∧
      c.Asks node a b w' request request' ∧ c.scope w' a b ∧ c.At w' depth left' right' := by
  induction h generalizing left right with
  | ok _ | error _ => cases hmakes
  | @intern w text next next' _ ih =>
    cases hmakes with
    | access hmakes =>
      obtain ⟨w', hle, hname, hs⟩ := c.intern text hstate.state
      have hstate : c.At w' depth _ _ := ⟨hs, hstate.left_depth, hstate.right_depth⟩
      obtain ⟨w'', request', right', hle', hm, hrest⟩ :=
        ih w' _ _ hle hname (c.scope_mono hle hscope) hstate hmakes
      exact ⟨w'', request', right', hle.trans hle', .access hm, hrest⟩
  | lookup hname _ ih =>
    cases hmakes with
    | access hmakes =>
      obtain ⟨w', request', right', hle, hm, hrest⟩ :=
        ih _ _ (c.lookup hstate.state hscope hname) hscope hstate hmakes
      exact ⟨w', request', right', hle, .access hm, hrest⟩
  | bindName _ hname hvalue _ ih =>
    cases hmakes with
    | access hmakes =>
      have hs := c.bind hstate.state hscope hname hvalue
      obtain ⟨w', request', right', hle, hm, hrest⟩ :=
        ih () hscope ⟨hs, hstate.left_depth, hstate.right_depth⟩ hmakes
      exact ⟨w', request', right', hle, .access hm, hrest⟩
  | ask hasks _ ih =>
    cases hmakes with
    | here => exact ⟨_, _, _, le_rfl, .here, hasks, hscope, hstate⟩
    | later hfirst hmakes =>
      have hm := hanswer _ _ _ _ _ (alike_of_asks hasks hnode hscope) hstate
      rw [hfirst] at hm
      obtain ⟨w', v', between, hfirst', hle, hv, hstate⟩ := hm.exists_of_ok
      obtain ⟨w'', request', right', hle', hm, hrest⟩ :=
        ih w' _ v' hle hv (c.scope_mono hle hscope) hstate hmakes
      exact ⟨w'', request', right', hle.trans hle', .later hfirst' hm, hrest⟩

/-! ### Calls -/

/-- To bind alike parameters to alike arguments keeps states alike. -/
theorem bindAll {params : List N} {params' : List N'} {args : List (Value N)}
    {args' : List (Value N')}
    (hstate : c.state w left right) (hscope : c.scope w a b)
    (hparams : c.Params w params params') (hargs : List.Forall₂ (c.value w) args args') :
    c.state w
      { left with
        store := (params.zip args).foldl (fun store (m, v) => store.bind a m v) left.store }
      { right with
        store :=
          (params'.zip args').foldl (fun store (n, v) => store.bind b n v) right.store } := by
  induction hparams generalizing args args' left right with
  | nil => exact hstate
  | cons hname _ ih =>
    obtain ⟨text, hname⟩ := hname
    cases hargs with
    | nil => exact hstate
    | cons hvalue hargs => exact ih (c.bind hstate hscope hname hvalue) hargs

/-- To enter alike functions leads to alike states, one call deeper. -/
theorem enter {params : List N} {params' : List N'} {body : Node} {args : List (Value N)}
    {args' : List (Value N')}
    (hstate : c.At w depth left right) (hscope : c.scope w a b)
    (hparams : c.Params w params params') (hargs : List.Forall₂ (c.value w) args args') :
    ∃ w', w ≤ w' ∧
      c.scope w' (left.enter ⟨params, body, a⟩ args).1 (right.enter ⟨params', body, b⟩ args').1 ∧
      c.At w' (depth + 1) (left.enter ⟨params, body, a⟩ args).2
        (right.enter ⟨params', body, b⟩ args').2 := by
  obtain ⟨w', hle, hinner, hs⟩ := c.addChild hstate.state hscope
  have hargs := hargs.imp fun _ _ h => c.value_mono hle h
  have hs := bindAll hs hinner (c.params_mono hle hparams) hargs
  refine ⟨w', hle, hinner, c.callDepth (· + 1) hs hstate.depth_eq, ?_, ?_⟩
  · exact congrArg (· + 1) hstate.left_depth
  · exact congrArg (· + 1) hstate.right_depth

/-- Alike calls end in the same way if evaluations do. -/
theorem callWith_matches {eval : Node → ScopeId → Eval (Value N) T N}
    {eval' : Node → ScopeId → Eval (Value N') T' N'} {limit : Option Nat}
    (heval : ∀ w depth node a b left right, c.node node → c.scope w a b → c.At w depth left right →
      Matches c w depth c.value (eval node a left) (eval' node b right))
    {callee : Value N} {callee' : Value N'} {args : List (Value N)} {args' : List (Value N')}
    (hcallee : c.value w callee callee')
    (hargs : List.Forall₂ (c.value w) args args') (hstate : c.At w depth left right) :
    Matches c w depth c.value (callWith eval limit callee args left)
      (callWith eval' limit callee' args' right) := by
  cases c.indistinct hcallee with
  | @function left' right' _ =>
    obtain ⟨params, body, a⟩ := left'
    obtain ⟨params', body', b⟩ := right'
    obtain ⟨hparams, rfl, hbody, hscope⟩ := c.closure hcallee
    have harity : params.length = params'.length := hparams.length_eq
    by_cases h : params.length = args.length
    · have hc : (Value.function ⟨params, body, a⟩).Accepts args ⟨params, body, a⟩ := ⟨rfl, h⟩
      have hc' : (Value.function ⟨params', body, b⟩).Accepts args' ⟨params', body, b⟩ :=
        ⟨rfl, harity.symm.trans (h.trans hargs.length_eq)⟩
      cases hlimit : limit.filter (· ≤ depth) with
      | some l =>
        rw [callWith_of_limit hc (hstate.left_depth ▸ hlimit),
          callWith_of_limit hc' (hstate.right_depth ▸ hlimit)]
        exact .error le_rfl hstate
      | none =>
        rw [callWith_of_accepts hc (hstate.left_depth ▸ hlimit),
          callWith_of_accepts hc' (hstate.right_depth ▸ hlimit)]
        obtain ⟨w', hle, hinner, hinside⟩ := enter hstate hscope hparams hargs
        exact ((heval _ _ _ _ _ _ _ hbody hinner hinside).of_le hle).leave
    · have h' : params'.length ≠ args'.length := by
        rw [← harity, ← hargs.length_eq]
        exact h
      simp only [callWith, Closure.arity, h', if_false, harity, hargs.length_eq]
      exact .error le_rfl hstate
  | _ => exact .error le_rfl hstate

/-- Alike requests are answered alike if evaluations are alike. -/
theorem answerWith_matches {eval : Node → ScopeId → Eval (Value N) T N}
    {eval' : Node → ScopeId → Eval (Value N') T' N'} {limit : Option Nat}
    (heval : ∀ w depth node a b left right, c.node node → c.scope w a b → c.At w depth left right →
      Matches c w depth c.value (eval node a left) (eval' node b right))
    {request : Request N} {request' : Request N'} (halike : c.Alike w request request')
    (hstate : c.At w depth left right) :
    Matches c w depth c.value (answerWith eval limit request left)
      (answerWith eval' limit request' right) := by
  cases halike with
  | eval hnode hscope => exact heval _ _ _ _ _ _ _ hnode hscope hstate
  | call hcallee hargs => exact callWith_matches heval hcallee hargs hstate

/-! ### Runs -/

/-- Interpreters that follow the rules at the nodes of a correspondence, with one limit of calls,
evaluate alike. -/
theorem evalWithin_matches_of_follows {interpreter : Interpreter T N}
    {interpreter' : Interpreter T' N'} (h : interpreter.Follows c.node)
    (h' : interpreter'.Follows c.node)
    (hlimit : interpreter.mode.callLimit = interpreter'.mode.callLimit) (nesting : Nat)
    (hnode : c.node node) (hscope : c.scope w a b) (hstate : c.At w depth left right) :
    Matches c w depth c.value (interpreter.evalWithin nesting node a left)
      (interpreter'.evalWithin nesting node b right) := by
  induction nesting generalizing w depth node a b left right with
  | zero => exact .exhausted
  | succ nesting ih =>
    rw [Interpreter.evalWithin_succ, Interpreter.evalWithin_succ, h node hnode, h' node hnode]
    refine run_matches (.handler hnode hscope) ?_ hnode hscope hstate
    intro w request request' left right halike hstate
    rw [Interpreter.answer, Interpreter.answer, hlimit]
    exact answerWith_matches (fun _ _ _ _ _ _ _ => ih) halike hstate

/-- The same for all requests. -/
theorem answer_matches_of_follows {interpreter : Interpreter T N}
    {interpreter' : Interpreter T' N'} (h : interpreter.Follows c.node)
    (h' : interpreter'.Follows c.node)
    (hlimit : interpreter.mode.callLimit = interpreter'.mode.callLimit) (nesting : Nat)
    {request : Request N} {request' : Request N'} (halike : c.Alike w request request')
    (hstate : c.At w depth left right) :
    Matches c w depth c.value (interpreter.answer nesting request left)
      (interpreter'.answer nesting request' right) := by
  rw [Interpreter.answer, Interpreter.answer, hlimit]
  exact answerWith_matches
    (fun _ _ _ _ _ _ _ => evalWithin_matches_of_follows h h' hlimit nesting) halike hstate

/-- **Corresponding runs.** Alike requests, from corresponding states, are answered in the same
way. -/
theorem answer_matches {mode : Mode} (nesting : Nat) {request : Request N} {request' : Request N'}
    (halike : c.Alike w request request') (hstate : c.At w depth left right) :
    Matches c w depth c.value ((Interpreter.standard mode T N).answer nesting request left)
      ((Interpreter.standard mode T' N').answer nesting request' right) :=
  answer_matches_of_follows (.standard c.node) (.standard c.node) rfl nesting halike hstate

/-- If one of two corresponding runs ends, so does the other. -/
theorem endTogether {mode : Mode} {request : Request N} {request' : Request N'}
    (halike : c.Alike w request request') (hstate : c.At w depth left right) :
    Interpreter.EndTogether (.standard mode T N) (.standard mode T' N') (request, left)
      (request', right) fun result after result' after' =>
        ∃ w', w ≤ w' ∧ SameResult (c.value w') result result' ∧ c.At w' depth after after' := by
  constructor
  · rintro result after ⟨nesting, hrun⟩
    rcases (answer_matches nesting halike hstate).cases with
      ⟨hl, -⟩ | ⟨_, _, result', after', hl, hr, hends⟩
    · rw [hrun] at hl
      cases hl
    · rw [hrun] at hl
      cases hl
      exact ⟨result', after', ⟨nesting, hr⟩, hends⟩
  · rintro result' after' ⟨nesting, hrun⟩
    rcases (answer_matches nesting halike hstate).cases with
      ⟨-, hr⟩ | ⟨result, after, _, _, hl, hr, hends⟩
    · rw [hrun] at hr
      cases hr
    · rw [hrun] at hr
      cases hr
      exact ⟨result, after, ⟨nesting, hl⟩, hends⟩

/-- What the rule for a node asks for, it asks for in a state that corresponds to another one. -/
theorem asks_of_handler {mode : Mode} {nesting : Nat} {request : Request N} (hnode : c.node node)
    (hscope : c.scope w a b) (hstate : c.At w depth left right)
    (hmakes : (Rules.handler node.kind node a).Makes
      ((Interpreter.standard mode T N).answer nesting) left request left') :
    ∃ w' request' right', c.Asks node a b w' request request' ∧ c.scope w' a b ∧
      c.At w' depth left' right' := by
  have hlockstep : Lockstep c.toLikeness node a b c.value w (Rules.handler node.kind node a)
      (Rules.handler node.kind node b) := .handler hnode hscope
  obtain ⟨w', request', right', -, -, hasks, hrest⟩ :=
    asks_of_makes hlockstep (fun _ _ _ _ _ => answer_matches nesting) hnode hscope hstate hmakes
  exact ⟨w', request', right', hasks, hrest⟩

end Correspondence

end TreeScript
