/-!
Patterns: regular expressions of the language. What regular expressions mean is not part of the
language, which takes them from an engine; all that is said about values and their evaluation holds
for any engine (`PatternEngine`). A pattern is a source that the engine has compiled.
-/

namespace TreeScript

/-- What the language needs of regular expressions. -/
class PatternEngine where
  Program : Type
  Failure : Type
  /-- The program that recognises a regular expression, given by its source. -/
  compile : String → Except Failure Program
  /-- What is said about a source that does not compile. -/
  message : Failure → String
  hasMatch : Program → List Char → Bool
  /-- A text without its matches. -/
  removeAll : Program → List Char → List Char

variable [PatternEngine]

/-- A regular expression that has been compiled. -/
structure Pattern where
  source : String
  program : PatternEngine.Program
  compiled : PatternEngine.compile source = .ok program

namespace Pattern

def ofSource (source : String) : Except PatternEngine.Failure Pattern :=
  match h : PatternEngine.compile source with
  | .ok program => .ok ⟨source, program, h⟩
  | .error failure => .error failure

def occursIn (pattern : Pattern) (text : List Char) : Bool :=
  PatternEngine.hasMatch pattern.program text

def removeFrom (pattern : Pattern) (text : List Char) : List Char :=
  PatternEngine.removeAll pattern.program text

end Pattern

end TreeScript
