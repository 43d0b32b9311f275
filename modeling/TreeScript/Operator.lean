/-!
Binary operators: their symbols, and which of them compare.
-/

namespace TreeScript

inductive Operator where
  | add
  | sub
  | mul
  | eq
  | ne
  | lt
  | le
  | gt
  | ge
  deriving DecidableEq, Repr

namespace Operator

/-- Every operator, arithmetic ones first. -/
def all : List Operator :=
  [.add, .sub, .mul, .eq, .ne, .lt, .le, .gt, .ge]

def symbol : Operator → String
  | add => "+"
  | sub => "-"
  | mul => "*"
  | eq => "=="
  | ne => "!="
  | lt => "<"
  | le => "<="
  | gt => ">"
  | ge => ">="

def ofSymbol? (text : String) : Option Operator :=
  all.find? (·.symbol == text)

def isComparison : Operator → Bool
  | add | sub | mul => false
  | eq | ne | lt | le | gt | ge => true

/-- Whether an operator asks for equality or inequality. -/
def isEquality : Operator → Bool
  | eq | ne => true
  | add | sub | mul | lt | le | gt | ge => false

theorem ofSymbol?_symbol (operator : Operator) : ofSymbol? operator.symbol = some operator := by
  cases operator <;> rfl

end Operator

end TreeScript
