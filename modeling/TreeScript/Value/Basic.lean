import TreeScript.Capability
import TreeScript.Name
import TreeScript.Node
import TreeScript.Number
import TreeScript.Pattern
import TreeScript.Text.Basic

/-!
Values of the language. A function is a closure: it keeps the scope it was made in, and so sees
what is bound there when it runs. Its parameters are keys of scopes: names, if nothing else is said.
-/

namespace TreeScript

/-- The number of a scope. -/
structure ScopeId where
  index : Nat
  deriving DecidableEq, Repr

variable [PatternEngine]

/-- A function: its parameters, its body, and the scope it was made in. -/
structure Closure (N : Type := Name) where
  params : List N
  body : Node
  scope : ScopeId

inductive Value (N : Type := Name) where
  | null
  | bool (value : Bool)
  | number (value : Number)
  | string (text : Text)
  | regex (pattern : Pattern)
  | function (closure : Closure N)

variable {N : Type}

namespace Closure

def arity (closure : Closure N) : Nat :=
  closure.params.length

/-- Whether two functions are one: the same body node in the same scope with the same
parameters. -/
def same [DecidableEq N] (left right : Closure N) : Bool :=
  left.body.identity == right.body.identity && left.scope == right.scope &&
    left.params == right.params

end Closure

namespace Value

def int (value : Int64) : Value N :=
  .number (.int value)

def float (value : Float) : Value N :=
  .number (.float value)

def kind : Value N → Kind
  | null => .null
  | bool _ => .bool
  | number _ => .number
  | string _ => .string
  | regex _ => .regex
  | function _ => .function

def kindName (value : Value N) : String :=
  value.kind.name

/-- Whether a value counts as true: null, false, zero and the empty string do not. -/
def isTruthy : Value N → Bool
  | null => false
  | bool value => value
  | number value => !value.isZero
  | string text => !text.isEmpty
  | regex _ => true
  | function _ => true

/-! ### Text of a value -/

def boolText (value : Bool) : String :=
  if value then "true" else "false"

/-- A value as people see it: strings in quotes, patterns between slashes. -/
def display : Value N → String
  | null => "null"
  | bool value => boolText value
  | number value => value.text
  | string text => text.quoted
  | regex pattern => "/" ++ pattern.source ++ "/"
  | function _ => "<function>"

/-- A value as another operation uses it: the content of a string, the source of a pattern, and
the display text of all other values. -/
def internal : Value N → String
  | string text => text.internal
  | regex pattern => pattern.source
  | value => value.display

/-! ### Equality of values as data -/

/-- Whether two values are of one kind and equal: numbers in one variant, strings by content,
patterns by source, functions by identity. -/
def equal [DecidableEq N] : Value N → Value N → Bool
  | null, null => true
  | bool a, bool b => a == b
  | number a, number b => a.sameVariantEqual b
  | string a, string b => a.sameContent b
  | regex a, regex b => a.source == b.source
  | function a, function b => a.same b
  | _, _ => false

end Value

end TreeScript
