import TreeScript.Interpreter
import TreeScript.Value.Inspection
import TreeScript.Regex.Engine
import TreeScript.Proofs.Run.Ends
import TreeScript.Proofs.Names
import TreeScript.Proofs.Lockstep.Likeness
import TreeScript.Proofs.Lockstep.Rules
import TreeScript.Proofs.Frame
import TreeScript.Proofs.Lockstep.Bodies
import TreeScript.Proofs.Termination
import TreeScript.Proofs.CallLimit
import TreeScript.Proofs.Lockstep.Renaming
import TreeScript.Proofs.Reachable
import TreeScript.Proofs.RepeatedCall
import TreeScript.Proofs.KnownNames
import TreeScript.Proofs.Text.Runs
import TreeScript.Proofs.Text.StoredText
import TreeScript.Proofs.Values.Rel
import TreeScript.Proofs.Lockstep.Matching
import TreeScript.Proofs.Interning
import TreeScript.Proofs.Spelling
import TreeScript.Proofs.CallDepth
import TreeScript.Proofs.ScopeChain
import TreeScript.Proofs.HandlerReplacement
import TreeScript.Proofs.Values.FloatOrder
import TreeScript.Proofs.Values.Comparison
import TreeScript.Proofs.Decimal.Numerals
import TreeScript.Proofs.Syntax.WellFormed
import TreeScript.Proofs.WellFormedRuns
import TreeScript.Proofs.Text.Quoting
import TreeScript.Proofs.Run.Finishes
import TreeScript.Proofs.Syntax.Flaws
import TreeScript.Proofs.Run.IndexedWrite
import TreeScript.Proofs.Run.OwnEnds
import TreeScript.Proofs.Values.Capabilities
import TreeScript.Proofs.UnsupportedOperations
import TreeScript.Proofs.UnusableAttributes
import TreeScript.Proofs.IndexedAssignment
import TreeScript.Proofs.Run.Performs
import TreeScript.Proofs.Text.Escapes
import TreeScript.Proofs.Text.Joining
import TreeScript.Proofs.Run.Rules
import TreeScript.Proofs.LiteralConcatenation
import TreeScript.Proofs.StringWrites
import TreeScript.Proofs.Values.Iteration
import TreeScript.Proofs.LoopUnrolling
import TreeScript.Proofs.Values.Rounding
import TreeScript.Proofs.Values.FloatIntegers
import TreeScript.Proofs.Values.EqualityThroughFloats
import TreeScript.Proofs.CallEnvironment
import TreeScript.Proofs.Syntax.Chains
import TreeScript.Proofs.NestedChains
import TreeScript.Proofs.IntegerChains
import TreeScript.Proofs.StringSubtraction
import TreeScript.Proofs.StringRepetition
import TreeScript.Proofs.StringRebuilding
import TreeScript.Proofs.PrintedStrings
import TreeScript.Proofs.Text.Reduction
import TreeScript.Proofs.Text.Expansion
import TreeScript.Proofs.InternHistory
import TreeScript.Proofs.Decimal.Integers
import TreeScript.Proofs.Decimal.Acceptance
import TreeScript.Proofs.NumberLiterals
