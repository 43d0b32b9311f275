import TreeScript.Pattern
import TreeScript.Regex.Search

/-!
The engine that patterns run on where no other is given: the regular expressions of this library.
-/

namespace TreeScript

instance : PatternEngine where
  Program := Regex.Program
  Failure := Regex.PatternError
  compile source := Regex.Program.compile source.toList
  message := Regex.PatternError.message
  hasMatch := Regex.Program.hasMatch
  removeAll := Regex.Program.removeAll

end TreeScript
