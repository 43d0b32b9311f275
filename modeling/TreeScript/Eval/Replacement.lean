import TreeScript.Eval.Handler

/-!
Ready-made handlers to put in the place of a rule of the language.
-/

namespace TreeScript.Replacement

variable [PatternEngine]

/-- Every node has one value. -/
def constant (value : Value) : Handler := fun _ _ => pure value

/-- No node has a value. -/
def refuse : Handler := fun node _ =>
  Action.fail (.invalidOperand ("refused " ++ node.kind.name))

/-- A node has its text as its value, or null if it has no text. -/
def ownText : Handler := fun node _ =>
  pure (match node.text? .text with
    | some text => .string (.ofChars text.toList)
    | none => .null)

/-- The statements of a node are evaluated in a new scope. -/
def ownScope : Handler := fun node scope => do
  let inner ← Action.newChild scope
  Action.sequence inner .null ((node.children? .nodes).getD [])

end TreeScript.Replacement
