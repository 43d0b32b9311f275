import TreeScript.Eval.Replacement
import TreeScript.Eval.Rules

/-!
The interpreter. It looks up the handler of a node's kind in its registry and carries out its
action; the requests of the action come back to the interpreter. How deeply this may nest is a
number that each nested evaluation is granted one less of: a computation that ends does not depend
on it.
-/

namespace TreeScript

variable [PatternEngine]

/-! ### Handlers by kind -/

/-- The handlers of all kinds of nodes: those of the language, where they are not replaced. -/
structure Registry (T : Type := NameTable) (N : Type := Name) where
  replacement : NodeKind → Option (Handler T N)

variable {T N : Type}

namespace Registry

def standard : Registry T N := ⟨fun _ => none⟩

def withHandler (registry : Registry T N) (kind : NodeKind) (handler : Handler T N) :
    Registry T N :=
  ⟨fun other => if other = kind then some handler else registry.replacement other⟩

def handler [DecidableEq N] [Naming N T] (registry : Registry T N) (kind : NodeKind) :
    Handler T N :=
  (registry.replacement kind).getD (Rules.handler kind)

def isReplaced (registry : Registry T N) (kind : NodeKind) : Bool :=
  (registry.replacement kind).isSome

/-- The kinds that have a handler, which are all of them. -/
def kinds (_ : Registry T N) : List NodeKind :=
  NodeKind.all

def replacedCount (registry : Registry T N) : Nat :=
  NodeKind.all.countP registry.isReplaced

end Registry

/-! ### Modes -/

/-- Whether nested calls are limited. -/
inductive Mode where
  | unlimited
  | bounded (maxDepth : Nat)
  deriving DecidableEq, Repr

namespace Mode

/-- The mode of an interpreter that was not told otherwise. -/
def default : Mode := .unlimited

def callLimit : Mode → Option Nat
  | unlimited => none
  | bounded maxDepth => some maxDepth

end Mode

/-! ### Calls -/

/-- The scope in which the body of a function is evaluated when it is called, nested in the one that
the function was made in, with the parameters bound to the arguments in order; of two parameters
with one name the later counts. -/
def Store.enter [DecidableEq N] (store : Store N) (closure : Closure N) (args : List (Value N)) :
    ScopeId × Store N :=
  let (scope, inner) := store.addChild closure.scope
  (scope, (closure.params.zip args).foldl (fun store (param, arg) => store.bind scope param arg)
    inner)

/-- The scope and the state in which the body of a function is evaluated when it is called. -/
def State.enter [DecidableEq N] (state : State T N) (closure : Closure N)
    (args : List (Value N)) : ScopeId × State T N :=
  let (scope, store) := state.store.enter closure args
  (scope, { state with store, callDepth := state.callDepth + 1 })

def State.leave (state : State T N) : State T N :=
  { state with callDepth := state.callDepth - 1 }

/-- Calls a function with arguments, given how nodes are evaluated, unless the limit of nested calls
is reached. The call is over when the evaluation of the body ends, with a value or with an error. -/
def callWith [DecidableEq N] (eval : Node → ScopeId → Eval (Value N) T N) (limit : Option Nat)
    (callee : Value N) (args : List (Value N)) : Eval (Value N) T N := fun state =>
  match callee with
  | .function closure =>
    if closure.arity = args.length then
      match limit.filter (· ≤ state.callDepth) with
      | some limit => .done (.error (.callDepth limit)) state
      | none =>
        let (scope, inner) := state.enter closure args
        (eval closure.body scope inner).mapState State.leave
    else .done (.error (.arityMismatch closure.arity args.length)) state
  | callee => .done (.error (.notCallable callee.kindName)) state

/-- Answers requests, given how nodes are evaluated. -/
def answerWith [DecidableEq N] (eval : Node → ScopeId → Eval (Value N) T N)
    (limit : Option Nat) : Evaluator T N
  | .eval node scope => eval node scope
  | .call callee args => callWith eval limit callee args

/-! ### Interpreters -/

structure Interpreter (T : Type := NameTable) (N : Type := Name) where
  registry : Registry T N := .standard
  mode : Mode := .default

namespace Interpreter

variable [DecidableEq N] [Naming N T]

/-- Evaluates a node in a scope where evaluations may nest as deeply as the number says. -/
def evalWithin (interpreter : Interpreter T N) : Nat → Node → ScopeId → Eval (Value N) T N
  | 0, _, _ => fun _ => .exhausted
  | nesting + 1, node, scope =>
    (interpreter.registry.handler node.kind node scope).run
      (answerWith (interpreter.evalWithin nesting) interpreter.mode.callLimit)

/-- Calls a function where evaluations may nest as deeply as the number says. -/
def callWithin (interpreter : Interpreter T N) (nesting : Nat) :
    Value N → List (Value N) → Eval (Value N) T N :=
  callWith (interpreter.evalWithin nesting) interpreter.mode.callLimit

/-- More nesting than fits in the memory of a machine. -/
def ampleNesting : Nat := 1000000000

def eval (interpreter : Interpreter T N) : Node → ScopeId → Eval (Value N) T N :=
  interpreter.evalWithin ampleNesting

def call (interpreter : Interpreter T N) : Value N → List (Value N) → Eval (Value N) T N :=
  interpreter.callWithin ampleNesting

end Interpreter

end TreeScript
