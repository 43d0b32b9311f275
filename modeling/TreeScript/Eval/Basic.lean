import TreeScript.Error
import TreeScript.Scope

/-!
Computations of the evaluator. A computation reads and changes a state, which holds the names given
out, the scopes, and how deeply calls are nested; it ends with a value or an error, and the state is
kept in both cases. A computation that needs more nesting than it was granted comes to no end
(`Outcome.exhausted`), which is neither a value nor an error.

What a handler does is an `Action`: it has nodes evaluated and functions called, one after another,
without knowing how, and uses the state in between. `Action.run` carries an action out, given an
evaluator that answers its requests. An action cannot go on after a request has failed, and it
cannot tell how much nesting was granted.

All this is said for any keys under which scopes bind values and any table of them (`Naming`). Names
and their table are meant where nothing else is said.
-/

namespace TreeScript

variable [PatternEngine]

/-! ### States and outcomes -/

/-- What a computation reads and changes. -/
structure State (T : Type := NameTable) (N : Type := Name) where
  names : T
  store : Store N
  callDepth : Nat

/-- The scope that a new state begins with. -/
def ScopeId.global : ScopeId := ⟨0⟩

/-- The state before anything was evaluated: no names but the empty one, and one outermost scope
without bindings. -/
def State.initial : State :=
  ⟨.new, Store.empty.addGlobal.2, 0⟩

inductive Outcome (α : Type) (T : Type := NameTable) (N : Type := Name) where
  | done (result : Except EvalError α) (state : State T N)
  | exhausted

abbrev Eval (α : Type) (T : Type := NameTable) (N : Type := Name) := State T N → Outcome α T N

variable {T N : Type}

namespace Outcome

/-- Goes on where a computation ended, unless it failed. -/
@[always_inline, inline]
def andThen {α β : Type} (first : Outcome α T N) (next : α → Eval β T N) : Outcome β T N :=
  match first with
  | done (.ok value) state => next value state
  | done (.error error) state => done (.error error) state
  | exhausted => exhausted

def mapState {α : Type} (change : State T N → State T N) : Outcome α T N → Outcome α T N
  | done result state => done result (change state)
  | exhausted => exhausted

end Outcome

/-! ### Actions -/

/-- What a handler asks for. -/
inductive Request (N : Type := Name) where
  /-- The value of a node in a scope. -/
  | eval (node : Node) (scope : ScopeId)
  /-- What a function returns for some arguments. -/
  | call (callee : Value N) (args : List (Value N))

abbrev Evaluator (T : Type := NameTable) (N : Type := Name) := Request N → Eval (Value N) T N

/-- What a handler does, step by step. -/
inductive Action (T N α : Type) where
  /-- Ends with a value or an error. -/
  | finish (result : Except EvalError α)
  /-- Changes names or scopes, and goes on by what the state was before. The depth of calls is out
  of reach for a handler. -/
  | access (change : State T N → State T N) (next : State T N → Action T N α)
      (keeps : ∀ state, (change state).callDepth = state.callDepth)
  /-- Makes a request, and goes on with the value that answers it. -/
  | ask (request : Request N) (next : Value N → Action T N α)

namespace Action

/-- Goes on with the value of an action, unless it failed. -/
protected def bind {α β : Type} : Action T N α → (α → Action T N β) → Action T N β
  | finish (.ok value), rest => rest value
  | finish (.error error), _ => finish (.error error)
  | access change next keeps, rest => access change (fun state => (next state).bind rest) keeps
  | ask request next, rest => ask request fun value => (next value).bind rest

instance : Monad (Action T N) where
  pure value := finish (.ok value)
  bind := Action.bind

def run {α : Type} (evaluator : Evaluator T N) : Action T N α → Eval α T N
  | finish result, state => .done result state
  | access change next _, state => run evaluator (next state) (change state)
  | ask request next, state =>
    (evaluator request state).andThen fun value state => run evaluator (next value) state

def fail {α : Type} (error : EvalError) : Action T N α :=
  finish (.error error)

/-- Ends with a value that must be there, and fails otherwise. -/
def require {α : Type} (error : EvalError) : Option α → Action T N α
  | some value => pure value
  | none => fail error

/-! ### Single steps -/

def eval (node : Node) (scope : ScopeId) : Action T N (Value N) :=
  ask (.eval node scope) pure

def call (callee : Value N) (args : List (Value N)) : Action T N (Value N) :=
  ask (.call callee args) pure

def intern [Naming N T] (text : String) : Action T N N :=
  access (fun state => { state with names := (Naming.intern (N := N) state.names text).2 })
    (fun state => pure (Naming.intern state.names text).1) fun _ => rfl

/-- The value of a name as seen from a scope, if it has one. -/
def lookup [DecidableEq N] (scope : ScopeId) (name : N) : Action T N (Option (Value N)) :=
  access id (fun state => pure (state.store.lookup scope name)) fun _ => rfl

def bindName [DecidableEq N] (scope : ScopeId) (name : N) (value : Value N) : Action T N Unit :=
  access (fun state => { state with store := state.store.bind scope name value }) (fun _ => pure ())
    fun _ => rfl

def newChild (parent : ScopeId) : Action T N ScopeId :=
  access (fun state => { state with store := (state.store.addChild parent).2 })
    (fun state => pure (state.store.addChild parent).1) fun _ => rfl

end Action

end TreeScript
