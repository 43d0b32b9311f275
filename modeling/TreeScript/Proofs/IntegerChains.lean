import Mathlib.Algebra.Ring.Int.Defs
import Mathlib.Data.List.Forall2
import TreeScript.Proofs.Decimal.Integers
import TreeScript.Proofs.Run.Rules
import TreeScript.Regex.Engine

/-!
Chains of integers. As long as what comes out fits into 64 bits, each step of a chain is exact; the
first result that does not fit is computed in floating point, and all later ones are, too, even
where they would fit again (`Number.valueAfter_succ_of_not_fits`). Nothing wraps around: such a step
adds, subtracts or multiplies the floating-point numbers nearest to its operands. And nothing fails:
a chain whose operands have integer values has the value that the last step gives
(`integer_chains`).
-/

namespace TreeScript

/-! ### Steps -/

/-- What an operator of a chain gives for exact integers. -/
def Operator.exact : Operator → Int → Int → Int
  | add => (· + ·)
  | sub => (· - ·)
  | mul => (· * ·)
  | _ => fun left _ => left

/-- What an operator of a chain gives in floating point. -/
def Operator.approximate : Operator → Float → Float → Float
  | add => (· + ·)
  | sub => (· - ·)
  | mul => (· * ·)
  | _ => fun left _ => left

namespace Number

variable {operator : Operator} {a b : Int64} {n : Int}

def apply (operator : Operator) : Number → Number → Number :=
  combine operator.exact operator.approximate

/-- A result that fits is exact. -/
theorem apply_int_of_fits (h : Fits (operator.exact a.toInt b.toInt)) :
    ∃ c, apply operator (.int a) (.int b) = .int c ∧ c.toInt = operator.exact a.toInt b.toInt := by
  refine ⟨_, ?_, toInt_ofInt_of_fits h⟩
  rw [apply, combine, int64?_of_fits h]

/-- A result that does not fit is computed in floating point, from the nearest floating-point
numbers of the operands. -/
theorem apply_int_of_not_fits (h : ¬ Fits (operator.exact a.toInt b.toInt)) :
    apply operator (.int a) (.int b) =
      .float (operator.approximate (int a).toFloat (int b).toFloat) := by
  rw [apply, combine, int64?_of_not_fits h]

/-- What was computed in floating point is computed in floating point from then on. -/
theorem apply_float (operator : Operator) (x : Float) (right : Number) :
    apply operator (.float x) right =
      .float (operator.approximate (float x).toFloat right.toFloat) :=
  rfl

/-! ### Steps in a row -/

/-- The exact result of the first steps, each an operator and its right operand. -/
def exactAfter (first : Int64) (steps : List (Operator × Int64)) (k : Nat) : Int :=
  (steps.take k).foldl (fun total step => step.1.exact total step.2.toInt) first.toInt

/-- The number that the first steps give. -/
def valueAfter (first : Int64) (steps : List (Operator × Int64)) (k : Nat) : Number :=
  (steps.take k).foldl (fun value step => apply step.1 value (.int step.2)) (.int first)

variable {first : Int64} {steps : List (Operator × Int64)} {step : Operator × Int64} {k : Nat}

theorem exactAfter_succ (h : steps[k]? = some step) :
    exactAfter first steps (k + 1) = step.1.exact (exactAfter first steps k) step.2.toInt := by
  rw [exactAfter, List.take_add_one, h, List.foldl_append]
  rfl

theorem valueAfter_succ (h : steps[k]? = some step) :
    valueAfter first steps (k + 1) = apply step.1 (valueAfter first steps k) (.int step.2) := by
  rw [valueAfter, List.take_add_one, h, List.foldl_append]
  rfl

/-- What a chain begins with fits. -/
theorem fits_of_le_zero : ∀ i ≤ 0, Fits (exactAfter first steps i) := by
  intro i hi
  obtain rfl := Nat.le_zero.1 hi
  exact fits_toInt first

/-- A result that does not fit is the first one, or there is one before it. -/
theorem first_or_before (hnot : ∃ i ≤ k + 1, ¬ Fits (exactAfter first steps i)) :
    ((∀ i ≤ k, Fits (exactAfter first steps i)) ∧ ¬ Fits (exactAfter first steps (k + 1))) ∨
      ∃ i ≤ k, ¬ Fits (exactAfter first steps i) := by
  by_cases hfits : ∀ i ≤ k, Fits (exactAfter first steps i)
  · obtain ⟨i, hi, hi'⟩ := hnot
    rcases Nat.le_succ_iff.1 hi with hle | rfl
    · exact absurd (hfits i hle) hi'
    · exact .inl ⟨hfits, hi'⟩
  · exact .inr (by simpa using hfits)

/-- The number after some steps is the exact result if all results so far fit. -/
theorem valueAfter_of_fits (first : Int64) (hk : k ≤ steps.length)
    (hfits : ∀ i ≤ k, Fits (exactAfter first steps i)) :
    ∃ a, valueAfter first steps k = .int a ∧ a.toInt = exactAfter first steps k := by
  induction k with
  | zero => exact ⟨first, rfl, rfl⟩
  | succ k ih =>
    obtain ⟨a, hvalue, ha⟩ := ih (Nat.le_of_succ_le hk) fun i hi => hfits i (Nat.le_succ_of_le hi)
    have hstep : steps[k]? = some steps[k] := List.getElem?_eq_getElem hk
    have hnext := hfits (k + 1) (Nat.le_refl _)
    rw [exactAfter_succ hstep, ← ha] at hnext
    rw [valueAfter_succ hstep, exactAfter_succ hstep, hvalue, ← ha]
    exact apply_int_of_fits hnext

/-- The first step whose result does not fit computes it in floating point. -/
theorem valueAfter_succ_of_first (hstep : steps[k]? = some step)
    (hfits : ∀ i ≤ k, Fits (exactAfter first steps i))
    (hnot : ¬ Fits (exactAfter first steps (k + 1))) :
    valueAfter first steps (k + 1) =
      .float (step.1.approximate (valueAfter first steps k).toFloat (int step.2).toFloat) := by
  obtain ⟨hk, -⟩ := List.getElem?_eq_some_iff.1 hstep
  obtain ⟨a, hvalue, ha⟩ := valueAfter_of_fits first (Nat.le_of_lt hk) hfits
  rw [exactAfter_succ hstep, ← ha] at hnot
  rw [valueAfter_succ hstep, hvalue]
  exact apply_int_of_not_fits hnot

/-- From the first result on that does not fit, each step computes in floating point, from what the
step before it gave: nothing wraps around. -/
theorem valueAfter_succ_of_not_fits (hstep : steps[k]? = some step)
    (hnot : ∃ i ≤ k + 1, ¬ Fits (exactAfter first steps i)) :
    valueAfter first steps (k + 1) =
      .float (step.1.approximate (valueAfter first steps k).toFloat (int step.2).toFloat) := by
  induction k generalizing step with
  | zero =>
    rcases first_or_before hnot with ⟨hfits, hnext⟩ | ⟨i, hi, hi'⟩
    · exact valueAfter_succ_of_first hstep hfits hnext
    · exact absurd (fits_of_le_zero i hi) hi'
  | succ k ih =>
    rcases first_or_before hnot with ⟨hfits, hnext⟩ | hbefore
    · exact valueAfter_succ_of_first hstep hfits hnext
    · obtain ⟨hk, -⟩ := List.getElem?_eq_some_iff.1 hstep
      have hprevious := List.getElem?_eq_getElem (Nat.lt_of_succ_lt hk)
      rw [valueAfter_succ hstep, ih hprevious hbefore]
      exact apply_float ..

/-- The number after some steps is a floating-point number if a result so far does not fit. -/
theorem valueAfter_of_not_fits (hk : k ≤ steps.length)
    (hnot : ∃ i ≤ k, ¬ Fits (exactAfter first steps i)) :
    ∃ x, valueAfter first steps k = .float x := by
  cases k with
  | zero =>
    obtain ⟨i, hi, hi'⟩ := hnot
    exact absurd (fits_of_le_zero i hi) hi'
  | succ k => exact ⟨_, valueAfter_succ_of_not_fits (List.getElem?_eq_getElem hk) hnot⟩

end Number

/-! ### Chains -/

variable {T N : Type}

/-- The operators of chains are applied to numbers without fail. -/
theorem Value.binary_number [PatternEngine] {kind : NodeKind} {operator : Operator}
    (h : Rules.allowedIn kind operator = true) (a b : Number) :
    (number a : Value N).binary operator (number b) =
      .ok (.number (Number.apply operator a b)) := by
  cases operator with
  | add | sub | mul => rfl
  | _ => cases kind <;> cases h

/-- Nodes stand for operators that chains of a kind may have. -/
def Rules.Spell (kind : NodeKind) (symbols : List Node) (operators : List Operator) : Prop :=
  List.Forall₂ (fun symbol operator => symbol.allowedOperator? (allowedIn kind) = some operator)
    symbols operators

namespace Interpreter

variable [PatternEngine] [DecidableEq N] [Naming N T] {interpreter : Interpreter T N} {mode : Mode}
  {node : Node} {kind : NodeKind} {scope : ScopeId} {state state' after : State T N}
  {result : Except EvalError (Value N)} {operands symbols : List Node} {operators : List Operator}
  {first : Int64} {rest : List Int64}

/-- Nodes have values one after the other, each in the state that the one before has ended in. -/
inductive EndInOrder (interpreter : Interpreter T N) (scope : ScopeId) :
    List Node → State T N → List (Value N) → State T N → Prop where
  | nil {state : State T N} : EndInOrder interpreter scope [] state [] state
  | cons {node : Node} {nodes : List Node} {value : Value N} {values : List (Value N)}
      {state between after : State T N}
      (hfirst : interpreter.Ends (.eval node scope) state (.ok value) between)
      (hrest : EndInOrder interpreter scope nodes between values after) :
      EndInOrder interpreter scope (node :: nodes) state (value :: values) after

/-- The first of nodes that have values in order have values in order. -/
theorem EndInOrder.take {nodes : List Node} {values : List (Value N)}
    (h : interpreter.EndInOrder scope nodes state values after) (k : Nat) :
    ∃ between, interpreter.EndInOrder scope (nodes.take k) state (values.take k) between := by
  induction h generalizing k with
  | nil =>
    rw [List.take_nil, List.take_nil]
    exact ⟨_, .nil⟩
  | cons hfirst hrest ih =>
    cases k with
    | zero => exact ⟨_, .nil⟩
    | succ k =>
      obtain ⟨between, hbetween⟩ := ih k
      exact ⟨between, .cons hfirst hbetween⟩

theorem EndInOrder.length_eq {nodes : List Node} {values : List (Value N)}
    (h : interpreter.EndInOrder scope nodes state values after) :
    nodes.length = values.length := by
  induction h with
  | nil => rfl
  | cons _ _ ih => exact congrArg (· + 1) ih

/-- A fold over operands that have integer values gives the number after all steps. -/
theorem performs_foldChain_ints (hsymbols : Rules.Spell kind symbols operators)
    (hcount : symbols.length = rest.length)
    (hoperands : interpreter.EndInOrder scope operands state (rest.map Value.int) after)
    (value : Number) :
    interpreter.Performs
      (Rules.foldChain node scope (Rules.allowedIn kind) (.number value) (symbols.zip operands))
      state result state' ↔
      result = .ok (.number ((operators.zip rest).foldl
        (fun value step => Number.apply step.1 value (.int step.2)) value)) ∧ state' = after := by
  induction hsymbols generalizing operands rest state value with
  | nil =>
    obtain rfl := List.length_eq_zero_iff.1 hcount.symm
    cases hoperands
    exact performs_pure_iff
  | cons hsymbol hsymbols ih =>
    cases rest with
    | nil => cases hcount
    | cons a rest =>
      cases hoperands with
      | cons hoperand hoperands =>
        have hallowed := (Option.filter_eq_some_iff.1 hsymbol).2
        have hnext := Value.binary_number (N := N) hallowed value (.int a)
        refine (performs_foldChain_of_ends hsymbol hoperand hnext).trans ?_
        exact ih (Nat.add_right_cancel hcount) hoperands _

/-- A chain of operands that have integer values has the number after all steps. -/
theorem ends_chain_ints (hkind : kind.isChain = true) (hnode : node.IsChain kind operands symbols)
    (hsymbols : Rules.Spell kind symbols operators) (hcount : symbols.length = rest.length)
    (hoperands : (standard mode T N).EndInOrder scope operands state
      ((first :: rest).map Value.int) after) :
    (standard mode T N).Ends (.eval node scope) state result state' ↔
      result = .ok (.number ((operators.zip rest).foldl
        (fun value step => Number.apply step.1 value (.int step.2)) (.int first))) ∧
      state' = after := by
  cases hoperands with
  | cons hfirst hrest =>
    have hlength := hcount.trans ((List.length_map _).symm.trans hrest.length_eq.symm)
    refine (ends_chain_iff hkind hnode hlength).trans ?_
    exact (performs_eval_bind_of_ends hfirst).trans
      (performs_foldChain_ints hsymbols hcount hrest (.int first))

/-- **Chains of integers.** A chain of sums and differences, or of products, whose operands have
integer values has a value. As long as the exact results fit into 64 bits, what its first steps give
is the integer that is the exact result, and from the first one on that does not fit it is a
floating-point number: what the operator gives in floating point for the number before the step and
the operand. The chain of the operands of the first steps has the value that these steps give. -/
theorem integer_chains (mode : Mode) (hkind : kind.isChain = true)
    (hnode : node.IsChain kind operands symbols) (hsymbols : Rules.Spell kind symbols operators)
    (hcount : symbols.length = rest.length)
    (hoperands : (standard mode T N).EndInOrder scope operands state
      ((first :: rest).map Value.int) after) :
    (∀ result state', (standard mode T N).Ends (.eval node scope) state result state' ↔
      result = .ok (.number (Number.valueAfter first (operators.zip rest) rest.length)) ∧
        state' = after) ∧
    (∀ k ≤ rest.length,
      ((∀ i ≤ k, Number.Fits (Number.exactAfter first (operators.zip rest) i)) →
        ∃ a : Int64, Number.valueAfter first (operators.zip rest) k = .int a ∧
          a.toInt = Number.exactAfter first (operators.zip rest) k) ∧
      ((∃ i ≤ k, ¬ Number.Fits (Number.exactAfter first (operators.zip rest) i)) →
        ∃ x, Number.valueAfter first (operators.zip rest) k = .float x) ∧
      ∀ inner : Node, inner.IsChain kind (operands.take (k + 1)) (symbols.take k) →
        ∃ between, ∀ result state',
          (standard mode T N).Ends (.eval inner scope) state result state' ↔
            result = .ok (.number (Number.valueAfter first (operators.zip rest) k)) ∧
              state' = between) ∧
    ∀ k operator operand, (operators.zip rest)[k]? = some (operator, operand) →
      (∃ i ≤ k + 1, ¬ Number.Fits (Number.exactAfter first (operators.zip rest) i)) →
        Number.valueAfter first (operators.zip rest) (k + 1) =
          .float (operator.approximate
            (Number.valueAfter first (operators.zip rest) k).toFloat
            (Number.int operand).toFloat) := by
  have hsteps : (operators.zip rest).length = rest.length := by
    rw [List.length_zip, ← hsymbols.length_eq, hcount, Nat.min_self]
  refine ⟨fun result state' => ?_, fun k hk => ?_, ?_⟩
  · rw [Number.valueAfter, List.take_of_length_le (Nat.le_of_eq hsteps)]
    exact ends_chain_ints hkind hnode hsymbols hcount hoperands
  · have hk' : k ≤ (operators.zip rest).length := hsteps.symm ▸ hk
    refine ⟨Number.valueAfter_of_fits first hk', Number.valueAfter_of_not_fits hk',
      fun inner hinner => ?_⟩
    obtain ⟨between, hbetween⟩ := hoperands.take (k + 1)
    refine ⟨between, fun result state' => ?_⟩
    have htake : (operators.zip rest).take k = (operators.take k).zip (rest.take k) :=
      List.take_zipWith
    rw [Number.valueAfter, htake]
    refine ends_chain_ints hkind hinner (List.forall₂_take k hsymbols) ?_ ?_
    · rw [List.length_take, List.length_take, hcount]
    · rwa [← List.map_take] at hbetween
  · intro k operator operand hstep hnot
    exact Number.valueAfter_succ_of_not_fits hstep hnot

end Interpreter

/-- The greatest integer plus one, less one, is computed in floating point to the end, although the
exact result fits: the sum before it does not. -/
theorem integer_chains_overflow :
    (Interpreter.standard .unlimited).Ends
      (.eval (.chain .addition [.number "9223372036854775807", .number "1", .number "1"]
        [.symbol "+", .symbol "-"]) .global) .initial
      (.ok (.float (Float.ofInt 9223372036854775807 + Float.ofInt 1 - Float.ofInt 1))) .initial ∧
    Number.Fits (Number.exactAfter 9223372036854775807 [(.add, 1), (.sub, 1)] 2) := by
  have hoperands : (Interpreter.standard .unlimited).EndInOrder .global
      [.number "9223372036854775807", .number "1", .number "1"] .initial
      ([9223372036854775807, 1, 1].map Value.int) .initial :=
    .cons ⟨1, by rfl⟩ (.cons ⟨1, by rfl⟩ (.cons ⟨1, by rfl⟩ .nil))
  have hsymbols : Rules.Spell .addition [.symbol "+", .symbol "-"] [.add, .sub] :=
    .cons rfl (.cons rfl .nil)
  obtain ⟨hends, -, hfloat⟩ := Interpreter.integer_chains .unlimited rfl
    (Node.isChain_chain .addition _ _) hsymbols rfl hoperands
  have hsum := hfloat 0 .add 1 rfl ⟨1, by decide, by decide⟩
  have hdifference := hfloat 1 .sub 1 rfl ⟨1, by decide, by decide⟩
  rw [hsum] at hdifference
  exact ⟨(hends _ _).2 ⟨congrArg (Except.ok ∘ Value.number) hdifference.symm, rfl⟩, by decide⟩

end TreeScript
