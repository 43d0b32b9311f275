import TreeScript.Eval.Basic

/-!
Handlers: what is done with a node of some kind. A handler does not know how other nodes are
evaluated or functions are called; it asks for that through the requests of its action.
-/

namespace TreeScript

variable [PatternEngine]

abbrev Handler (T : Type := NameTable) (N : Type := Name) :=
  Node → ScopeId → Action T N (Value N)

variable {T N : Type}

namespace Action

/-- Evaluates nodes in order and ends with the last value, or with the given one if there are no
nodes. -/
def sequence (scope : ScopeId) : Value N → List Node → Action T N (Value N)
  | last, [] => pure last
  | _, node :: rest => do
    let value ← eval node scope
    sequence scope value rest

/-- Evaluates nodes in order and ends with all their values. -/
def values (scope : ScopeId) : List Node → Action T N (List (Value N))
  | [] => pure []
  | node :: rest => do
    let value ← eval node scope
    let values ← values scope rest
    pure (value :: values)

end Action

/-! ### What a handler needs of its node -/

namespace Node

/-- The error for an attribute that is missing or cannot be used. -/
def malformed (node : Node) (attr : Attr) : EvalError :=
  .malformedNode node.kind attr

def requireText (node : Node) (attr : Attr) : Action T N String :=
  Action.require (node.malformed attr) (node.text? attr)

def requireChild (node : Node) (attr : Attr) : Action T N Node :=
  Action.require (node.malformed attr) (node.child? attr)

/-- The nodes of an attribute that must hold a list or a single node. -/
def requireChildren (node : Node) (attr : Attr) : Action T N (List Node) :=
  Action.require (node.malformed attr) (node.children? attr)

/-- The text of a slot that must hold a text or a node with a text. -/
def requireSlotText (node : Node) (attr : Attr) : Action T N String :=
  Action.require (node.malformed attr) (node.slotText? attr)

/-- The operator that is spelled in an attribute of the node, one of those allowed there. -/
def requireOperator (node : Node) (attr : Attr) (allowed : Operator → Bool)
    (symbol : Option String) : Action T N Operator :=
  Action.require (node.malformed attr) ((symbol.bind Operator.ofSymbol?).filter allowed)

end Node

end TreeScript
