import TreeScript.Regex.Expr
import TreeScript.Regex.Parser

/-!
Programs that recognise patterns. An instruction reads a character, tests a place or forks; of the
two ways of a fork the first is preferred. `Program.ofExpr` turns an expression into a program back
to front: each part is built for the instruction that follows it.
-/

namespace TreeScript.Regex

/-- An instruction and the numbers of those that may follow. -/
inductive Instruction where
  | accept
  | read (set : CharClass) (next : Nat)
  | check (look : Look) (next : Nat)
  | fork (first second : Nat)

/-- Instructions, and the one to start with. -/
structure Program where
  code : Array Instruction
  start : Nat

/-! ### Size -/

namespace Expr

/-- The estimated memory in bytes of an instruction. -/
def instructionCost : Nat := 32

/-- The estimated memory in bytes of the program for an expression. -/
def cost : Expr → Nat
  | empty => instructionCost
  | char set => set.cost
  | look _ => instructionCost
  | seq first second => first.cost + second.cost
  | choice first second => first.cost + second.cost + instructionCost
  | repetition body least most _ =>
    body.cost * least + (body.cost + instructionCost) * ((most.getD (least + 1)) - least)

/-! ### From expressions to instructions -/

/-- Instructions written so far, and the one that a part starts with. -/
abbrev Built := Nat × Array Instruction

/-- A fork that tries the body first if the repetition is greedy and the exit first otherwise. -/
def forkTo (greedy : Bool) (body exit : Nat) : Instruction :=
  if greedy then .fork body exit else .fork exit body

def emit (instruction : Instruction) (code : Array Instruction) : Built :=
  (code.size, code.push instruction)

/-- Adds a loop that has the body at least once. -/
def plus (greedy : Bool) (body : Nat → Array Instruction → Built) (next : Nat)
    (code : Array Instruction) : Built :=
  let loop := code.size
  let (start, code) := body loop (code.push .accept)
  (start, code.setIfInBounds loop (forkTo greedy start next))

/-- Adds a part several times over; `step` builds one more copy before what is built. -/
def copies (step : Built → Built) : Nat → Built → Built
  | 0, built => built
  | count + 1, built => copies step count (step built)

/-- Adds the instructions for an expression that is followed by instruction `next`. A loop whose
body may hold no character is entered through a fork of its own, which keeps its choices in
order. -/
def build : Expr → Nat → Array Instruction → Built
  | empty, next, code => (next, code)
  | char set, next, code => emit (.read set next) code
  | look l, next, code => emit (.check l next) code
  | seq first second, next, code =>
    let (start, code) := second.build next code
    first.build start code
  | choice first second, next, code =>
    let (other, code) := second.build next code
    let (start, code) := first.build next code
    emit (.fork start other) code
  | repetition body least (some most) greedy, next, code =>
    let optional := copies (fun (exit, code) =>
      let (start, code) := body.build exit code
      emit (forkTo greedy start next) code) (most - least) (next, code)
    copies (fun (exit, code) => body.build exit code) least optional
  | repetition body 0 none greedy, next, code =>
    let (start, built) := plus greedy body.build next code
    if body.isNonempty then (code.size, built) else emit (forkTo greedy start next) built
  | repetition body (least + 1) none greedy, next, code =>
    copies (fun (exit, code) => body.build exit code) least (plus greedy body.build next code)

end Expr

namespace Program

/-- The greatest estimated memory in bytes of a program. -/
def maxCost : Nat := 10485760

def ofExpr (expr : Expr) : Program :=
  let (start, code) := expr.build 0 #[.accept]
  ⟨code, start⟩

/-- Reads a pattern and builds its program. -/
def compile (source : List Char) : Except PatternError Program := do
  let ast ← Ast.parse source
  let (expr, _) ← ast.toExpr {}
  if expr.cost ≤ maxCost then .ok (ofExpr expr) else .error .tooLarge

end Program

end TreeScript.Regex
