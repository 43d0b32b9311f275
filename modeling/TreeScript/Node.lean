/-!
Syntax trees. A node has a kind and some attributes; an attribute holds a text, a single node or a
list of nodes. A tree does not restrict which attributes a node has or what they hold: whoever
evaluates a node asks for what it needs.

Every node has an identity, a number that its maker chooses. Two nodes are taken to be the same if
their identities are equal; functions are compared in this way.
-/

namespace TreeScript

/-! ### Kinds -/

inductive NodeKind where
  | program
  | block
  | stringLiteral
  | numberLiteral
  | boolLiteral
  | nullLiteral
  | regexLiteral
  | identifier
  | assignment
  | addition
  | multiplication
  | comparison
  | dereference
  | anonymousFunction
  | functionCall
  | foreach
  | operator
  deriving DecidableEq, Repr

namespace NodeKind

def all : List NodeKind :=
  [.program, .block, .stringLiteral, .numberLiteral, .boolLiteral, .nullLiteral, .regexLiteral,
   .identifier, .assignment, .addition, .multiplication, .comparison, .dereference,
   .anonymousFunction, .functionCall, .foreach, .operator]

def name : NodeKind → String
  | program => "Program"
  | block => "Block"
  | stringLiteral => "StringLiteral"
  | numberLiteral => "NumberLiteral"
  | boolLiteral => "BoolLiteral"
  | nullLiteral => "NullLiteral"
  | regexLiteral => "RegexLiteral"
  | identifier => "Variable"
  | assignment => "Assignment"
  | addition => "Addition"
  | multiplication => "Multiplication"
  | comparison => "Comparison"
  | dereference => "Dereference"
  | anonymousFunction => "AnonymousFunction"
  | functionCall => "FunctionCall"
  | foreach => "Foreach"
  | operator => "Operator"

def ofName? (text : String) : Option NodeKind :=
  all.find? (·.name == text)

end NodeKind

/-! ### Attributes -/

inductive Attr where
  /-- Source text of a literal, an identifier or an operator. -/
  | text
  /-- Statements or operands in order. -/
  | nodes
  /-- Operators between operands. -/
  | ops
  | left
  | right
  /-- The operator of a comparison. -/
  | op
  /-- The value that is indexed. -/
  | target
  | index
  /-- Parameters of a function, or arguments of a call. -/
  | args
  | body
  | callee
  /-- The variable of a loop. -/
  | item
  deriving DecidableEq, Repr

namespace Attr

def all : List Attr :=
  [.text, .nodes, .ops, .left, .right, .op, .target, .index, .args, .body, .callee, .item]

def name : Attr → String
  | text => "text"
  | nodes => "nodes"
  | ops => "ops"
  | left => "left"
  | right => "right"
  | op => "op"
  | target => "target"
  | index => "index"
  | args => "args"
  | body => "body"
  | callee => "callee"
  | item => "item"

def ofName? (text : String) : Option Attr :=
  all.find? (·.name == text)

end Attr

/-! ### Nodes -/

mutual

/-- A node of a syntax tree. No key occurs twice among the attributes of a node that is made with
`Node.new` and `Node.set`. -/
inductive Node where
  | mk (identity : Nat) (kind : NodeKind) (attrs : List (Attr × AttrValue))

inductive AttrValue where
  | text (content : String)
  | node (child : Node)
  | list (children : List Node)

end

namespace Node

def identity : Node → Nat
  | mk identity _ _ => identity

def kind : Node → NodeKind
  | mk _ kind _ => kind

def attrs : Node → List (Attr × AttrValue)
  | mk _ _ attrs => attrs

/-! ### Making nodes -/

def new (identity : Nat) (kind : NodeKind) : Node :=
  .mk identity kind []

/-- Sets an attribute; what it held before is gone. -/
def set (node : Node) (attr : Attr) (value : AttrValue) : Node :=
  .mk node.identity node.kind ((attr, value) :: node.attrs.filter (·.1 != attr))

/-- A node that has only a text. -/
def leaf (identity : Nat) (kind : NodeKind) (text : String) : Node :=
  (new identity kind).set .text (.text text)

/-! ### Reading attributes -/

def attr? (node : Node) (attr : Attr) : Option AttrValue :=
  node.attrs.lookup attr

def has (node : Node) (attr : Attr) : Bool :=
  (node.attr? attr).isSome

def text? (node : Node) (attr : Attr) : Option String :=
  match node.attr? attr with
  | some (.text content) => some content
  | _ => none

/-- The single node that an attribute holds. -/
def child? (node : Node) (attr : Attr) : Option Node :=
  match node.attr? attr with
  | some (.node child) => some child
  | _ => none

/-- The list that an attribute holds. A single node is a list of one. -/
def children? (node : Node) (attr : Attr) : Option (List Node) :=
  match node.attr? attr with
  | some (.list children) => some children
  | some (.node child) => some [child]
  | _ => none

/-- The text of a slot that holds either the text or a node with that text. -/
def slotText? (node : Node) (attr : Attr) : Option String :=
  match node.text? attr with
  | some content => some content
  | none => (node.child? attr).bind (·.text? .text)

/-! ### Reading what was set -/

theorem lookup_filter_ne {key attr : Attr} (h : attr ≠ key) (attrs : List (Attr × AttrValue)) :
    (attrs.filter (·.1 != key)).lookup attr = attrs.lookup attr := by
  induction attrs with
  | nil => rfl
  | cons pair rest ih =>
    obtain ⟨k, v⟩ := pair
    by_cases hk : k = key
    · subst hk
      have hne : (attr == k) = false := by simpa using h
      simp [List.lookup_cons, hne, ih]
    · simp [List.lookup_cons, hk, ih]

/-- An attribute that was set holds what it was set to, and the others are as before. -/
theorem attr?_set (node : Node) (key attr : Attr) (value : AttrValue) :
    (node.set key value).attr? attr = if attr = key then some value else node.attr? attr := by
  by_cases h : attr = key
  · subst h
    simp [attr?, set, attrs]
  · have hne : (attr == key) = false := by simpa using h
    simpa [attr?, set, attrs, List.lookup_cons, hne, h] using lookup_filter_ne h _

end Node

end TreeScript
