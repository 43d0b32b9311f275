import TreeScript.Scope
import TreeScript.Unicode.Property

/-!
Values and scopes as they are shown for inspection: with the variant of each value, and strings by
their stored text with every character that could not be seen escaped.
-/

namespace TreeScript

variable [PatternEngine]

/-! ### Strings -/

def hexCode (c : Char) : List Char :=
  Nat.toDigits 16 c.toNat

/-- A character of an inspected string: control characters with a short form, quotes and backslashes
are escaped, and so is what has no shape of its own. -/
def inspectChar (c : Char) : List Char :=
  match c with
  | '\x00' => ['\\', '0']
  | '\t' => ['\\', 't']
  | '\r' => ['\\', 'r']
  | '\n' => ['\\', 'n']
  | '"' => ['\\', '"']
  | '\\' => ['\\', '\\']
  | c =>
    if Unicode.isGraphemeExtend c.toNat || !Unicode.isPrintable c.toNat then
      ['\\', 'u', '\x7b'] ++ hexCode c ++ ['\x7d']
    else [c]

/-- A text in double quotes with its characters escaped where needed. -/
def inspectString (text : String) : String :=
  String.ofList ('"' :: text.toList.flatMap inspectChar ++ ['"'])

/-! ### Values -/

/-- A record with its fields, each with its value, in braces. -/
def inspectRecord (name : String) (fields : List String) : String :=
  name ++ " \x7b " ++ String.intercalate ", " fields ++ " \x7d"

def Name.inspect (name : Name) : String :=
  "Name(" ++ toString name.index ++ ")"

def Number.inspect : Number → String
  | int value => "Int(" ++ toString value.toInt ++ ")"
  | float value => "Float(" ++ Decimal.floatInspection value ++ ")"

/-- A function by its parameters alone: the scope that it holds may hold the function. -/
def Closure.inspect (closure : Closure) : String :=
  let params := String.intercalate ", " (closure.params.map Name.inspect)
  inspectRecord "FnContainer" ["params: [" ++ params ++ "]", ".."]

def Value.inspect : Value → String
  | null => "Null"
  | bool value => "Bool(" ++ Value.boolText value ++ ")"
  | number value => "Number(" ++ value.inspect ++ ")"
  | string text => "Str(StringValue(" ++ inspectString text.raw ++ "))"
  | regex pattern => "Regex(RegexValue(/" ++ pattern.source ++ "/))"
  | function closure => "Func(" ++ closure.inspect ++ ")"

/-- A scope by its depth and the number of its bindings. -/
def Store.inspect (store : Store) (id : ScopeId) : String :=
  let size := ((store.scope? id).map Scope.size).getD 0
  inspectRecord "Context"
    ["depth: " ++ toString (store.depth id), "bindings: " ++ toString size]

end TreeScript
