import TreeScript.Proofs.Run.Rules
import TreeScript.Regex.Engine

/-!
Chains nested in chains. The first operands of a chain can be put into a chain of their own, which
is then the first operand of a chain with the others, and this changes nothing: wherever the chain
is cut, the result, the bindings and the names are the same (`nested_chains`). So what is done first
in a chain is done no matter what comes later in it; an operator that is not allowed is reported
after all that stands before it was evaluated and combined. Only the numbers of operands and
operators are looked at before.
-/

namespace TreeScript.Interpreter

variable [PatternEngine] {T N : Type} [DecidableEq N] [Naming N T] {mode : Mode} {kind : NodeKind}
  {flat inner outer : Node} {operands symbols : List Node} {k : Nat} {scope : ScopeId}
  {state state' : State T N} {result : Except EvalError (Value N)}

/-- A chain is evaluated like the chain of its first operands, folded with the others. -/
theorem ends_chain_iff_performs_fold (hkind : kind.isChain = true)
    (hcount : symbols.length + 1 = operands.length) (hflat : flat.IsChain kind operands symbols)
    (hinner : inner.IsChain kind (operands.take (k + 1)) (symbols.take k)) :
    (standard mode T N).Ends (.eval flat scope) state result state' ↔
      (standard mode T N).Performs (Action.eval inner scope >>= fun value =>
        Rules.foldChain flat scope (Rules.allowedIn kind) value
          ((symbols.drop k).zip (operands.drop (k + 1)))) state result state' := by
  cases operands with
  | nil => cases hcount
  | cons first rest =>
    have hrest : symbols.length = rest.length := Nat.add_right_cancel hcount
    have hcut : (symbols.take k).length = (rest.take k).length := by
      rw [List.length_take, List.length_take, hrest]
    have hpairs : symbols.zip rest =
        (symbols.take k).zip (rest.take k) ++ (symbols.drop k).zip (rest.drop k) := by
      rw [← List.zip_append hcut, List.take_append_drop, List.take_append_drop]
    have hfold (value : Value N) (pairs : List (Node × Node)) :
        (Rules.foldChain flat scope (Rules.allowedIn kind) value pairs : Action T N (Value N)) =
          Rules.foldChain inner scope (Rules.allowedIn kind) value pairs :=
      Rules.foldChain_congr (hflat.kind.trans hinner.kind.symm) value pairs
    rw [ends_chain_iff hkind hflat hrest, hpairs, List.drop_succ_cons]
    simp only [Rules.foldChain_append, ← Action.bind_assoc]
    rw [performs_bind_iff, performs_eval_bind]
    simp only [hfold, ends_chain_iff hkind hinner hcut]

/-- A chain can be cut anywhere. -/
theorem ends_chain_iff_nested (hkind : kind.isChain = true)
    (hcount : symbols.length + 1 = operands.length) (hflat : flat.IsChain kind operands symbols)
    (hinner : inner.IsChain kind (operands.take (k + 1)) (symbols.take k))
    (houter : outer.IsChain kind (inner :: operands.drop (k + 1)) (symbols.drop k)) :
    (standard mode T N).Ends (.eval flat scope) state result state' ↔
      (standard mode T N).Ends (.eval outer scope) state result state' := by
  have hrest : (symbols.drop k).length = (operands.drop (k + 1)).length := by
    rw [List.length_drop, List.length_drop]
    omega
  rw [ends_chain_iff_performs_fold hkind hcount hflat hinner,
    ends_chain_iff hkind houter hrest]
  simp only [Rules.foldChain_congr (hflat.kind.trans houter.kind.symm)]

/-- Where an operator is not allowed, a chain ends as the part before the operator does, with the
error in place of a value. -/
theorem ends_chain_iff_of_not_allowed (hkind : kind.isChain = true)
    (hcount : symbols.length + 1 = operands.length) (hflat : flat.IsChain kind operands symbols)
    {symbol : Node} (hsymbol : symbols[k]? = some symbol)
    (hallowed : symbol.allowedOperator? (Rules.allowedIn kind) = none)
    (hinner : inner.IsChain kind (operands.take (k + 1)) (symbols.take k)) :
    (standard mode T N).Ends (.eval flat scope) state result state' ↔
      (result = .error (flat.malformed .ops) ∧
        ∃ value, (standard mode T N).Ends (.eval inner scope) state (.ok value) state') ∨
      ∃ error, result = .error error ∧
        (standard mode T N).Ends (.eval inner scope) state (.error error) state' := by
  obtain ⟨hlt, rfl⟩ := List.getElem?_eq_some_iff.1 hsymbol
  have hoperand : k + 1 < operands.length := by omega
  rw [ends_chain_iff_performs_fold hkind hcount hflat hinner,
    List.drop_eq_getElem_cons hlt, List.drop_eq_getElem_cons hoperand, List.zip_cons_cons,
    performs_eval_bind]
  simp only [performs_foldChain_of_not_allowed hallowed]
  refine or_congr ?_ Iff.rfl
  constructor
  · rintro ⟨value, between, hends, rfl, rfl⟩
    exact ⟨rfl, value, hends⟩
  · rintro ⟨rfl, value, hends⟩
    exact ⟨value, state', hends, rfl, rfl⟩

/-- **Chains are nested folds.** A chain of sums and differences, or of products, with one operator
fewer than it has operands ends exactly as the chain does whose first operand is the chain of the
first operands, wherever it is cut. If an operator is not allowed, the chain ends as the part before
the operator does, with an error for the operators in place of a value. A chain without operands, or
with another number of operators, fails before any operand is evaluated. -/
theorem nested_chains (mode : Mode) (kind : NodeKind) (hkind : kind.isChain = true) :
    (∀ flat operands symbols k inner, symbols.length + 1 = operands.length →
      flat.IsChain kind operands symbols →
      inner.IsChain kind (operands.take (k + 1)) (symbols.take k) →
      (∀ outer, outer.IsChain kind (inner :: operands.drop (k + 1)) (symbols.drop k) →
        ∀ scope state result state',
          (standard mode T N).Ends (.eval flat scope) state result state' ↔
            (standard mode T N).Ends (.eval outer scope) state result state') ∧
      ∀ symbol, symbols[k]? = some symbol →
        symbol.allowedOperator? (Rules.allowedIn kind) = none →
        ∀ scope state result state',
          (standard mode T N).Ends (.eval flat scope) state result state' ↔
            (result = .error (flat.malformed .ops) ∧
              ∃ value, (standard mode T N).Ends (.eval inner scope) state (.ok value) state') ∨
            ∃ error, result = .error error ∧
              (standard mode T N).Ends (.eval inner scope) state (.error error) state') ∧
    ∀ node : Node, node.kind = kind →
      ((node.children? .ops).getD []).length + 1 ≠ ((node.children? .nodes).getD []).length →
      ∀ scope (state : State T N), ∃ attr, (attr = .nodes ∨ attr = .ops) ∧
        (standard mode T N).FailsAtOnce (.eval node scope) state (node.malformed attr) := by
  refine ⟨?_, fun node hnode hcount scope state => exists_failsAtOnce_chain hkind hnode hcount⟩
  intro flat operands symbols k inner hcount hflat hinner
  refine ⟨fun outer houter scope state result state' => ?_, ?_⟩
  · exact ends_chain_iff_nested hkind hcount hflat hinner houter
  · intro symbol hsymbol hallowed scope state result state'
    exact ends_chain_iff_of_not_allowed hkind hcount hflat hsymbol hallowed hinner

end TreeScript.Interpreter

namespace TreeScript

/-- The sum of one and two, less three, is zero, as it is with the sum nested; a product cannot
stand in the place of the difference, and there is no sum of nothing. -/
theorem nested_chains_numbers :
    (Interpreter.standard .unlimited).Ends
      (.eval (.chain .addition [.number "1", .number "2", .number "3"] [.symbol "+", .symbol "-"])
        .global) .initial (.ok (.int 0)) .initial ∧
    (Interpreter.standard .unlimited).Ends
      (.eval (.chain .addition [.number "1", .number "2", .number "3"] [.symbol "+", .symbol "*"])
        .global) .initial (.error (.malformedNode .addition .ops)) .initial ∧
    ∃ attr, (Interpreter.standard .unlimited).FailsAtOnce
      (.eval (.chain .addition [] []) .global) .initial (.malformedNode .addition attr) := by
  have hsum : (Interpreter.standard .unlimited).Ends
      (.eval (.chain .addition [.number "1", .number "2"] [.symbol "+"]) .global) .initial
      (.ok (.int 3)) .initial := ⟨2, by rfl⟩
  have hnested : (Interpreter.standard .unlimited).Ends
      (.eval (.chain .addition [.chain .addition [.number "1", .number "2"] [.symbol "+"],
        .number "3"] [.symbol "-"]) .global) .initial (.ok (.int 0)) .initial := ⟨3, by rfl⟩
  obtain ⟨hcut, hmalformed⟩ :=
    Interpreter.nested_chains (T := NameTable) (N := Name) .unlimited .addition rfl
  have hinner (last : String) := hcut _ [.number "1", .number "2", .number "3"]
    [.symbol "+", .symbol last] 1 _ rfl (Node.isChain_chain .addition _ _)
    (Node.isChain_chain .addition _ _)
  refine ⟨?_, ?_, ?_⟩
  · obtain ⟨hsame, -⟩ := hinner "-"
    exact (hsame _ (Node.isChain_chain .addition _ _) _ _ _ _).2 hnested
  · obtain ⟨-, hillegal⟩ := hinner "*"
    exact (hillegal (.symbol "*") rfl rfl _ _ _ _).2 (.inl ⟨rfl, _, hsum⟩)
  · obtain ⟨attr, -, hfails⟩ := hmalformed (.chain .addition [] []) rfl nofun .global .initial
    exact ⟨attr, hfails⟩

end TreeScript
