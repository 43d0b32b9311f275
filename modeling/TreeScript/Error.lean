import TreeScript.Capability
import TreeScript.Node

/-!
The ways in which an evaluation fails, and what is said about each. Kinds of values stand in errors
by their names, which is all that the messages need.
-/

namespace TreeScript

/-- Why an evaluation failed. -/
inductive EvalError where
  /-- The right operand is of a kind that the operator does not take with the left one. -/
  | operandMismatch (operator left right : String)
  /-- An operand is of a right kind, but its value cannot be used. -/
  | invalidOperand (message : String)
  /-- The left operand is of a kind that lacks a capability. -/
  | unsupported (capability : Capability) (kind : String)
  /-- An index lies outside the value. -/
  | undefinedIndex (index : Int64)
  /-- A name is bound nowhere in the chain of scopes. -/
  | undefinedName (name : String)
  | notCallable (kind : String)
  | arityMismatch (expected got : Nat)
  /-- Calls are nested more deeply than allowed. -/
  | callDepth (limit : Nat)
  /-- A node lacks an attribute or holds something there that cannot be used. -/
  | malformedNode (kind : NodeKind) (attr : Attr)
  | invalidPattern (pattern reason : String)
  deriving DecidableEq, Repr

namespace EvalError

/-- Whether an operator was applied to operands that it does not take. -/
def isTypeError : EvalError → Bool
  | operandMismatch .. | invalidOperand _ | unsupported .. => true
  | _ => false

/-- Whether an index was out of range. -/
def isUndefinedIndex : EvalError → Bool
  | undefinedIndex _ => true
  | _ => false

/-- Whether a name was not found. -/
def isUndefinedName : EvalError → Bool
  | undefinedName _ => true
  | _ => false

/-- The message of a pattern error up to the reason. -/
def invalidPatternStart (pattern : String) : String :=
  "invalid regular expression /" ++ pattern ++ "/: "

/-- A number of arguments in words. -/
def argumentCount (count : Nat) : String :=
  toString count ++ if count = 1 then " argument" else " arguments"

def quoted (symbol : String) : String :=
  "`" ++ symbol ++ "`"

def message : EvalError → String
  | operandMismatch operator left right =>
    "type error: operator " ++ quoted operator ++ " cannot be applied to " ++ left ++ " and " ++
      right
  | invalidOperand message => "type error: " ++ message
  | unsupported capability kind => "type error: " ++ kind ++ " does not support " ++ capability.name
  | undefinedIndex index => "undefined index " ++ toString index.toInt
  | undefinedName name => "undefined variable: " ++ name
  | notCallable kind => kind ++ " is not callable"
  | arityMismatch expected got => "expected " ++ argumentCount expected ++ ", got " ++ toString got
  | callDepth limit => "maximum call depth exceeded (limit: " ++ toString limit ++ ")"
  | malformedNode kind attr =>
    "malformed " ++ kind.name ++ " node: missing or invalid " ++ quoted attr.name
  | invalidPattern pattern reason => invalidPatternStart pattern ++ reason

end EvalError

end TreeScript
