import TreeScript.Eval.Handler
import TreeScript.Value.Iteration

/-!
The rules of the language: one handler for each kind of node. Parts are evaluated from left to
right, and what an error stops has kept its effects so far.
-/

namespace TreeScript.Rules

variable [PatternEngine] {T N : Type}

/-! ### Statements -/

/-- Statements in order; the last value is the result, and null if there are none. A list of
statements has no scope of its own. -/
def statements : Handler T N := fun node scope => do
  let nodes ← node.requireChildren .nodes
  Action.sequence scope .null nodes

/-- Binds the item to each of some characters and evaluates the body each time. -/
def loop [DecidableEq N] (scope : ScopeId) (item : N) (body : Node) :
    List Text → Action T N (Value N)
  | [] => pure .null
  | c :: rest => do
    Action.bindName scope item (.string c)
    let _ ← Action.eval body scope
    loop scope item body rest

/-- A loop over what a pass yields that begins with the loop: the characters that the string has
then (`Iterator.yields_remaining`). The item stays bound to the last of them. -/
def foreach [DecidableEq N] [Naming N T] : Handler T N := fun node scope => do
  let left ← node.requireChild .left
  let iterated ← Action.eval left scope
  let item ← node.requireSlotText .item
  let item ← Action.intern item
  let body ← node.requireChild .body
  let pass ← Action.finish iterated.iterate
  loop scope item body pass.remaining

/-! ### Literals -/

/-- A literal has the value of what is read from the text of its node. -/
def literal {α : Type} (read : String → Option α) (value : α → Value.Result N) : Handler T N :=
  fun node _ => do
    let text ← node.requireText .text
    let content ← Action.require (node.malformed .text) (read text)
    Action.finish (value content)

/-- A text without its first and last character, if it has as many as two. -/
def inner? (text : String) : Option (List Char) :=
  match text.toList with
  | _ :: second :: rest => some (second :: rest).dropLast
  | _ => none

/-- A string literal; its text includes the quotes. -/
def stringLiteral : Handler T N :=
  literal inner? fun body => .ok (.string (.ofLiteral body))

/-- Whether a text is made of the characters of numerals and has a digit. -/
def isNumeric (text : List Char) : Bool :=
  text.any Char.isDigit && text.all fun c => c.isDigit || ['.', 'e', 'E', '+', '-'].contains c

/-- The number that a literal denotes: an integer if it is one that fits, else the nearest
floating-point number. -/
def number? (text : List Char) : Option Number :=
  if isNumeric text then
    (Decimal.readInt? text).map Number.int <|> (Decimal.readFloat? text).map Number.float
  else none

def numberLiteral : Handler T N :=
  literal (fun text => number? text.toList) fun number => .ok (.number number)

def bool? : String → Option Bool
  | "true" => some true
  | "false" => some false
  | _ => none

def boolLiteral : Handler T N :=
  literal bool? fun value => .ok (.bool value)

def nullLiteral : Handler T N := fun _ _ => pure .null

def pattern (source : String) : Value.Result N :=
  match Pattern.ofSource source with
  | .ok pattern => .ok (.regex pattern)
  | .error failure => .error (.invalidPattern source (PatternEngine.message failure))

/-- A pattern literal; its text includes the slashes. -/
def regexLiteral : Handler T N :=
  literal inner? fun source => pattern (String.ofList source)

/-! ### Variables -/

/-- The value of a name as seen from a scope, which must have one. -/
def resolve [DecidableEq N] (scope : ScopeId) (text : String) (name : N) :
    Action T N (Value N) := do
  Action.require (.undefinedName text) (← Action.lookup scope name)

def identifier [DecidableEq N] [Naming N T] : Handler T N := fun node scope => do
  let text ← node.requireText .text
  let name ← Action.intern text
  resolve scope text name

/-- Evaluates a node that may be absent. -/
def optional (scope : ScopeId) : Option Node → Action T N (Option (Value N))
  | some node => do return some (← Action.eval node scope)
  | none => pure none

/-- An assignment, whose value is that of its right side. A name is bound in the scope of the
assignment. An indexed variable is resolved first; then the index and the right side are evaluated,
and the value that was resolved is written to and bound under the name. Without an index the right
side is appended. -/
def assignment [DecidableEq N] [Naming N T] : Handler T N := fun node scope => do
  let left ← node.requireChild .left
  match left.kind with
  | .identifier => do
    let text ← left.requireText .text
    let name ← Action.intern text
    let right ← node.requireChild .right
    let value ← Action.eval right scope
    Action.bindName scope name value
    pure value
  | .dereference => do
    let target ← left.requireChild .target
    if target.kind ≠ .identifier then Action.fail (node.malformed .left)
    else do
      let text ← target.requireText .text
      let name ← Action.intern text
      let current ← resolve scope text name
      let index ← optional scope (left.child? .index)
      let right ← node.requireChild .right
      let value ← Action.eval right scope
      let changed ← Action.finish (current.indexSet index value)
      Action.bindName scope name changed
      pure value
  | _ => Action.fail (node.malformed .left)

/-- The character of a string at an index. -/
def dereference : Handler T N := fun node scope => do
  let target ← Action.eval (← node.requireChild .target) scope
  let index ← Action.eval (← node.requireChild .index) scope
  Action.finish (target.indexGet index)

/-! ### Operators -/

/-- Folds operators and their right operands into a value, from left to right. An operator is looked
at after everything before it was evaluated, and before its own operand is. -/
def foldChain (node : Node) (scope : ScopeId) (allowed : Operator → Bool) :
    Value N → List (Node × Node) → Action T N (Value N)
  | value, [] => pure value
  | value, (symbol, operand) :: rest => do
    let operator ← node.requireOperator .ops allowed (symbol.text? .text)
    let right ← Action.eval operand scope
    let value ← Action.finish (value.binary operator right)
    foldChain node scope allowed value rest

/-- The operators of a chain with so many operands. They may be absent if there is one operand. -/
def chainOperators (node : Node) (operands : Nat) : Action T N (List Node) :=
  match node.children? .ops with
  | some symbols => pure symbols
  | none => if operands = 1 then pure [] else Action.fail (node.malformed .ops)

def chain (allowed : Operator → Bool) : Handler T N := fun node scope => do
  let operands ← node.requireChildren .nodes
  let symbols ← chainOperators node operands.length
  match operands with
  | [] => Action.fail (node.malformed .nodes)
  | first :: rest =>
    if symbols.length ≠ rest.length then Action.fail (node.malformed .ops)
    else do
      let value ← Action.eval first scope
      foldChain node scope allowed value (symbols.zip rest)

/-- Whether an operator may stand in a chain of sums and differences. -/
def isAdditive : Operator → Bool
  | .add | .sub => true
  | _ => false

/-- Whether an operator may stand in a chain of products. -/
def isMultiplicative : Operator → Bool
  | .mul => true
  | _ => false

def comparison : Handler T N := fun node scope => do
  let left ← Action.eval (← node.requireChild .left) scope
  let operator ← node.requireOperator .op Operator.isComparison (node.slotText? .op)
  let right ← Action.eval (← node.requireChild .right) scope
  Action.finish (Value.compare operator left right)

/-- An operator by itself has no value. -/
def operator : Handler T N := fun node _ => Action.fail (node.malformed .text)

/-! ### Functions -/

/-- The names of parameters, which are nodes with a text. -/
def paramNames [Naming N T] (node : Node) : List Node → Action T N (List N)
  | [] => pure []
  | param :: rest => do
    let text ← Action.require (node.malformed .args) (param.text? .text)
    let name ← Action.intern text
    let names ← paramNames node rest
    pure (name :: names)

def anonymousFunction [Naming N T] : Handler T N := fun node scope => do
  let params ← paramNames node ((node.children? .args).getD [])
  let body ← node.requireChild .body
  pure (.function ⟨params, body, scope⟩)

/-- A call: the callee and then the arguments are evaluated, and then the function is called. -/
def functionCall : Handler T N := fun node scope => do
  let callee ← Action.eval (← node.requireChild .callee) scope
  let args ← Action.values scope ((node.children? .args).getD [])
  Action.call callee args

/-! ### All kinds -/

def handler [DecidableEq N] [Naming N T] : NodeKind → Handler T N
  | .program => statements
  | .block => statements
  | .stringLiteral => stringLiteral
  | .numberLiteral => numberLiteral
  | .boolLiteral => boolLiteral
  | .nullLiteral => nullLiteral
  | .regexLiteral => regexLiteral
  | .identifier => identifier
  | .assignment => assignment
  | .addition => chain isAdditive
  | .multiplication => chain isMultiplicative
  | .comparison => comparison
  | .dereference => dereference
  | .anonymousFunction => anonymousFunction
  | .functionCall => functionCall
  | .foreach => foreach
  | .operator => operator

end TreeScript.Rules
