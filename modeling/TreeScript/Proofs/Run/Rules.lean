import TreeScript.Proofs.Run.Performs
import TreeScript.Proofs.Syntax.Chains

/-!
What evaluations of single kinds of nodes come to, in terms of the evaluations of their parts. Where
the attributes of a node are what its rule needs, the rule has one equation: which parts are
evaluated, in which states, and what is bound. A literal has its value at once
(`ends_stringLiteral_iff`, `ends_numberLiteral_iff`), and so has a variable
(`ends_identifier_iff`); statements are evaluated one after the other until one fails
(`performs_sequence_cons`); an assignment binds the value of its right side
(`ends_assignment_iff`), and an indexed one ends as its write does (`ComesToWrite.ends_iff`); a
chain of operands is a fold from the value of the first one (`ends_chain_iff`).
-/

namespace TreeScript

variable {T N : Type}

/-- A node is the literal of a string, with some body between delimiters. -/
inductive Node.IsStringLiteral (node : Node) (body : List Char) : Prop where
  | mk {opening closing : Char} (hkind : node.kind = .stringLiteral)
      (htext : node.text? .text = some (String.ofList (opening :: (body ++ [closing]))))

/-- A node is the literal of a number, with some text. -/
structure Node.IsNumberLiteral (node : Node) (text : String) : Prop where
  kind : node.kind = .numberLiteral
  text : node.text? .text = some text

inductive Node.IsSum (node left right : Node) : Prop where
  | mk {symbol : Node} (hkind : node.kind = .addition)
      (hnodes : node.children? .nodes = some [left, right])
      (hops : node.children? .ops = some [symbol]) (hsymbol : symbol.text? .text = some "+")

/-- The text between delimiters. -/
theorem Rules.inner?_delimited (opening closing : Char) (body : List Char) :
    inner? (String.ofList (opening :: (body ++ [closing]))) = some body := by
  unfold inner?
  rw [String.toList_ofList]
  cases body with
  | nil => rfl
  | cons c rest =>
    have hlast : ((c :: rest) ++ [closing]).dropLast = c :: rest := List.dropLast_concat
    exact congrArg some hlast

namespace Interpreter

variable [PatternEngine] [DecidableEq N] [Naming N T] {mode : Mode} {node : Node} {scope : ScopeId}
  {state state' : State T N} {result : Except EvalError (Value N)}

/-! ### Literals and variables -/

/-- A string literal has its string at once. -/
theorem ends_stringLiteral_iff {body : List Char} (h : node.IsStringLiteral body) :
    (standard mode T N).Ends (.eval node scope) state result state' ↔
      result = .ok (.string (.ofLiteral body)) ∧ state' = state := by
  obtain ⟨hkind, htext⟩ := h
  rw [ends_eval_iff, hkind]
  refine (performs_require_bind_of_some htext).trans ?_
  refine (performs_require_bind_of_some (Rules.inner?_delimited _ _ body)).trans ?_
  exact performs_pure_iff

/-- A number literal has its number at once, if its text denotes one; otherwise it is malformed. -/
theorem ends_numberLiteral_iff {text : String} (h : node.IsNumberLiteral text) :
    (standard mode T N).Ends (.eval node scope) state result state' ↔
      result = (match Rules.number? text.toList with
        | some number => .ok (.number number)
        | none => .error (.malformedNode .numberLiteral .text)) ∧ state' = state := by
  rw [ends_eval_iff, h.kind]
  refine (performs_require_bind_of_some h.text).trans ?_
  dsimp only
  cases Rules.number? text.toList with
  | some number => exact performs_finish_iff
  | none =>
    rw [Node.malformed, h.kind]
    exact performs_finish_iff

theorem ends_nullLiteral_iff (h : node.kind = .nullLiteral) :
    (standard mode T N).Ends (.eval node scope) state result state' ↔
      result = .ok .null ∧ state' = state := by
  rw [ends_eval_iff, h]
  exact performs_pure_iff

/-- A variable that has a value gets its name and has this value. -/
theorem ends_identifier_iff {text : String} {value : Value N} (hkind : node.kind = .identifier)
    (htext : node.text? .text = some text)
    (hvalue : state.store.lookup scope (state.nameOf text) = some value) :
    (standard mode T N).Ends (.eval node scope) state result state' ↔
      result = .ok value ∧ state' = state.named text := by
  rw [ends_eval_iff, hkind]
  refine (performs_require_bind_of_some htext).trans (performs_intern_bind.trans ?_)
  change (standard mode T N).Performs (Action.require (.undefinedName text)
    (state.store.lookup scope (state.nameOf text))) (state.named text) result state' ↔ _
  rw [hvalue]
  exact performs_pure_iff

/-! ### Statements -/

/-- The statements of a program or a block are evaluated in its scope. -/
theorem ends_statements_iff {nodes : List Node} (hkind : node.kind = .program ∨ node.kind = .block)
    (hnodes : node.children? .nodes = some nodes) :
    (standard mode T N).Ends (.eval node scope) state result state' ↔
      (standard mode T N).Performs (Action.sequence scope .null nodes) state result state' := by
  rw [ends_eval_iff]
  rcases hkind with hkind | hkind
  · rw [hkind]
    exact performs_require_bind_of_some hnodes
  · rw [hkind]
    exact performs_require_bind_of_some hnodes

/-- No statements are left: the value is that of the last one. -/
theorem performs_sequence_nil {interpreter : Interpreter T N} {last : Value N} :
    interpreter.Performs (Action.sequence scope last []) state result state' ↔
      result = .ok last ∧ state' = state :=
  performs_pure_iff

/-- A statement is evaluated, and the others after it unless it fails. -/
theorem performs_sequence_cons {interpreter : Interpreter T N} {first : Node} {rest : List Node}
    {last : Value N} :
    interpreter.Performs (Action.sequence scope last (first :: rest)) state result state' ↔
      (∃ value between, interpreter.Ends (.eval first scope) state (.ok value) between ∧
        interpreter.Performs (Action.sequence scope value rest) between result state') ∨
      ∃ error, result = .error error ∧
        interpreter.Ends (.eval first scope) state (.error error) state' :=
  performs_eval_bind

/-! ### Assignments -/

/-- An assignment to a variable gives the variable its name, evaluates the right side and binds the
value. -/
theorem ends_assignment_iff {left right : Node} {text : String} (hkind : node.kind = .assignment)
    (hleft : node.child? .left = some left) (hvariable : left.kind = .identifier)
    (htext : left.text? .text = some text) (hright : node.child? .right = some right) :
    (standard mode T N).Ends (.eval node scope) state result state' ↔
      (∃ value between,
        (standard mode T N).Ends (.eval right scope) (state.named text) (.ok value) between ∧
        result = .ok value ∧ state' = between.bound scope (state.nameOf text) value) ∨
      ∃ error, result = .error error ∧
        (standard mode T N).Ends (.eval right scope) (state.named text) (.error error) state' := by
  rw [ends_eval_iff, hkind]
  refine (performs_require_bind_of_some hleft).trans ?_
  simp only [hvariable]
  refine (performs_require_bind_of_some htext).trans (performs_intern_bind.trans ?_)
  refine (performs_require_bind_of_some hright).trans (performs_eval_bind.trans ?_)
  simp only [performs_bindName_bind, performs_pure_iff]

/-- An assignment to an indexed variable comes to its write: the variable is resolved, and the index
and the right side have values, in this order. -/
inductive ComesToWrite (interpreter : Interpreter T N) (node : Node) (scope : ScopeId)
    (state : State T N) (name : N) (current : Value N) (index : Option (Value N))
    (value : Value N) (before : State T N) : Prop where
  | mk {left right : Node} {text : String} {middle : State T N} (hkind : node.kind = .assignment)
      (hleft : node.child? .left = some left) (hindexed : left.kind = .dereference)
      (htext : left.assignedText? = some text) (hname : name = state.nameOf text)
      (hcurrent : state.store.lookup scope name = some current)
      (hindex : interpreter.EndsOptional (left.child? .index) scope (state.named text) index
        middle)
      (hright : node.child? .right = some right)
      (hvalue : interpreter.Ends (.eval right scope) middle (.ok value) before)

/-- After an index that may be absent the action goes on. -/
theorem EndsOptional.performs_bind {interpreter : Interpreter T N}
    {node? : Option Node} {index : Option (Value N)} {middle : State T N} {α : Type}
    {rest : Option (Value N) → Action T N α} {last : Except EvalError α}
    (h : interpreter.EndsOptional node? scope state index middle) :
    interpreter.Performs (Rules.optional scope node? >>= rest) state last state' ↔
      interpreter.Performs (rest index) middle last state' := by
  rcases h with ⟨rfl, rfl, rfl⟩ | ⟨part, value, rfl, rfl, hvalue⟩
  · rfl
  · exact performs_eval_bind_of_ends hvalue

/-- An assignment that has come to its write ends as the write does: where the write fails, in the
state that the write began in, and otherwise with the variable bound to what was written. -/
theorem ComesToWrite.ends_iff {name : N} {current value : Value N} {index : Option (Value N)}
    {before : State T N}
    (h : (standard mode T N).ComesToWrite node scope state name current index value before) :
    (standard mode T N).Ends (.eval node scope) state result state' ↔
      (∃ error, current.indexSet index value = .error error ∧ result = .error error ∧
        state' = before) ∨
      ∃ changed, current.indexSet index value = .ok changed ∧ result = .ok value ∧
        state' = before.bound scope name changed := by
  obtain ⟨hkind, hleft, hindexed, htext, rfl, hcurrent, hindex, hright, hvalue⟩ := h
  rcases Node.assignedText?_cases htext with
    ⟨hvariable, -⟩ | ⟨-, target, htarget, htargetKind, htargetText⟩
  · rw [hindexed] at hvariable
    cases hvariable
  rw [ends_eval_iff, hkind]
  refine (performs_require_bind_of_some hleft).trans ?_
  simp only [hindexed]
  refine (performs_require_bind_of_some htarget).trans ?_
  rw [if_neg (not_not_intro htargetKind)]
  refine (performs_require_bind_of_some htargetText).trans (performs_intern_bind.trans ?_)
  refine (performs_require_bind_of_some hcurrent).trans (hindex.performs_bind.trans ?_)
  refine (performs_require_bind_of_some hright).trans ?_
  refine (performs_eval_bind_of_ends hvalue).trans ?_
  cases hwrite : current.indexSet index value with
  | error error =>
    refine performs_finish_iff.trans ?_
    simp
  | ok changed =>
    refine (performs_finish_bind_of_ok rfl).trans (performs_bindName_bind.trans ?_)
    refine performs_pure_iff.trans ?_
    simp

/-! ### Chains -/

/-- A chain with one operator fewer than it has operands evaluates the first operand and folds the
operators and the other operands into its value. -/
theorem ends_chain_iff {kind : NodeKind} {first : Node} {rest symbols : List Node}
    (hkind : kind.isChain = true) (h : node.IsChain kind (first :: rest) symbols)
    (hcount : symbols.length = rest.length) :
    (standard mode T N).Ends (.eval node scope) state result state' ↔
      (standard mode T N).Performs (Action.eval first scope >>= fun value =>
        Rules.foldChain node scope (Rules.allowedIn kind) value (symbols.zip rest)) state result
        state' := by
  rw [ends_eval_iff, h.kind]
  change (standard mode T N).Performs (Rules.handler kind node scope) state result state' ↔ _
  rw [Rules.handler_eq_chain hkind, Rules.chain_eq h.nodes h.ops hcount]

/-- A chain in which the numbers of operands and operators do not go together fails before any
operand is evaluated. -/
theorem exists_failsAtOnce_chain {kind : NodeKind} (hkind : kind.isChain = true)
    (h : node.kind = kind) (hcount : ((node.children? .ops).getD []).length + 1 ≠
      ((node.children? .nodes).getD []).length) :
    ∃ attr, (attr = .nodes ∨ attr = .ops) ∧
      (standard mode T N).FailsAtOnce (.eval node scope) state (node.malformed attr) := by
  obtain ⟨attr, hattr, heq⟩ :=
    Rules.chain_eq_malformed (T := T) (N := N) (Rules.allowedIn kind) scope hcount
  refine ⟨attr, hattr, failsAtOnce_eval ?_⟩
  rw [h]
  change Rules.handler kind node scope = _
  rw [Rules.handler_eq_chain hkind, heq]

section Fold

variable {interpreter : Interpreter T N} {allowed : Operator → Bool} {value : Value N}
  {symbol operand : Node} {rest : List (Node × Node)}

/-- A fold ends with the error of the node where an operator is not allowed. -/
theorem performs_foldChain_of_not_allowed (h : symbol.allowedOperator? allowed = none) :
    interpreter.Performs
      (Rules.foldChain node scope allowed value ((symbol, operand) :: rest)) state result state' ↔
      result = .error (node.malformed .ops) ∧ state' = state := by
  rw [Rules.foldChain, Node.requireOperator]
  change interpreter.Performs (Action.require _ (symbol.allowedOperator? allowed) >>= _) _ _ _ ↔ _
  rw [h]
  exact performs_finish_iff

/-- A fold goes on with what an operator gives for a value and the value of its operand. -/
theorem performs_foldChain_of_ends {operator : Operator} {other next : Value N} {after : State T N}
    (h : symbol.allowedOperator? allowed = some operator)
    (hoperand : interpreter.Ends (.eval operand scope) state (.ok other) after)
    (hnext : value.binary operator other = .ok next) :
    interpreter.Performs
      (Rules.foldChain node scope allowed value ((symbol, operand) :: rest)) state result state' ↔
      interpreter.Performs (Rules.foldChain node scope allowed next rest) after result state' :=
  (performs_require_bind_of_some h).trans
    ((performs_eval_bind_of_ends hoperand).trans (performs_finish_bind_of_ok hnext))

end Fold

/-- The sum of two nodes has the sum of their values, the left one first. -/
theorem ends_sum {left right : Node} {value other : Value N} {middle after : State T N}
    (h : node.IsSum left right)
    (hleft : (standard mode T N).Ends (.eval left scope) state (.ok value) middle)
    (hright : (standard mode T N).Ends (.eval right scope) middle (.ok other) after) :
    (standard mode T N).Ends (.eval node scope) state result state' ↔
      result = value.add other ∧ state' = after := by
  obtain ⟨hkind, hnodes, hops, hsymbol⟩ := h
  have hchain : node.IsChain .addition [left, right] [_] := ⟨hkind, hnodes, by rw [hops]; rfl⟩
  refine (ends_chain_iff rfl hchain rfl).trans ((performs_eval_bind_of_ends hleft).trans ?_)
  have hadd : ((some "+").bind Operator.ofSymbol?).filter Rules.isAdditive = some .add := rfl
  rw [← hsymbol] at hadd
  refine (performs_require_bind_of_some hadd).trans ?_
  refine (performs_eval_bind_of_ends hright).trans ?_
  change (standard mode T N).Performs (Action.finish (value.add other) >>= pure) after _ _ ↔ _
  cases hsum : value.add other with
  | error error => exact performs_finish_iff
  | ok sum => exact (performs_finish_bind_of_ok rfl).trans performs_pure_iff

end Interpreter

end TreeScript
