import TreeScript.Operator

/-!
What values of a kind can do. A capability is a family of operations; `Kind.supports` says which
kinds of values have which capabilities. That the operations themselves keep to this is a matter
of their own definitions.
-/

namespace TreeScript

/-! ### Capabilities -/

/-- A family of operations on values. -/
inductive Capability where
  | addition
  | subtraction
  | multiplication
  | comparison
  | iteration
  | indexedAccess
  deriving DecidableEq, Repr

namespace Capability

def all : List Capability :=
  [.addition, .subtraction, .multiplication, .comparison, .iteration, .indexedAccess]

def name : Capability → String
  | addition => "addition"
  | subtraction => "subtraction"
  | multiplication => "multiplication"
  | comparison => "comparison"
  | iteration => "iteration"
  | indexedAccess => "indexed access"

def ofName? (text : String) : Option Capability :=
  all.find? (·.name == text)

/-- The bit of a capability in a set of them. -/
def bit : Capability → Nat
  | addition => 1
  | subtraction => 2
  | multiplication => 4
  | comparison => 8
  | iteration => 16
  | indexedAccess => 32

/-- The capability that an operator needs on its left. -/
def ofOperator : Operator → Capability
  | .add => addition
  | .sub => subtraction
  | .mul => multiplication
  | .eq | .ne | .lt | .le | .gt | .ge => comparison

end Capability

/-! ### Kinds of values -/

inductive Kind where
  | null
  | bool
  | number
  | string
  | regex
  | function
  deriving DecidableEq, Repr

namespace Kind

def all : List Kind :=
  [.null, .bool, .number, .string, .regex, .function]

def name : Kind → String
  | null => "null"
  | bool => "bool"
  | number => "number"
  | string => "string"
  | regex => "regex"
  | function => "function"

/-- Whether values of a kind have a capability. Strings have all of them, numbers those of
arithmetic and comparison, functions none. -/
def supports : Kind → Capability → Bool
  | string, _ => true
  | number, .addition | number, .subtraction | number, .multiplication => true
  | function, _ => false
  | _, .comparison => true
  | _, _ => false

def capabilities (kind : Kind) : List Capability :=
  Capability.all.filter kind.supports

/-- The capabilities of a kind as a set of bits. -/
def capabilityBits (kind : Kind) : Nat :=
  kind.capabilities.foldl (fun bits capability => bits + capability.bit) 0

theorem mem_capabilities_iff {kind : Kind} {capability : Capability} :
    capability ∈ kind.capabilities ↔ kind.supports capability = true := by
  cases capability <;> simp [capabilities, Capability.all]

end Kind

end TreeScript
