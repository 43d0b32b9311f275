import TreeScript.Proofs.Syntax.Flaws

/-!
Chains of operands with operators between them. The rule for a chain with one operator fewer than it
has operands is to evaluate the first operand and to fold the operators and the other operands into
its value (`chain_eq`); any other chain is malformed, and the rule is to say so
(`chain_eq_malformed`). A fold over pairs is a fold over the first of them and then one over the
others (`foldChain_append`), and of the node it uses only the kind (`foldChain_congr`).
-/

namespace TreeScript

variable {T N : Type}

/-- Actions in a row can be grouped in either way. -/
theorem Action.bind_assoc [PatternEngine] {α β γ : Type} (action : Action T N α)
    (first : α → Action T N β)
    (second : β → Action T N γ) :
    action >>= first >>= second = action >>= fun value => first value >>= second := by
  change (action.bind first).bind second = action.bind fun value => (first value).bind second
  induction action with
  | finish result =>
    cases result with
    | ok value => rfl
    | error error => rfl
  | access change next keeps ih => exact congrArg (access change · keeps) (funext ih)
  | ask request next ih => exact congrArg (ask request) (funext ih)

/-- A node is a chain of a kind, with these operands and the operators given by these nodes. Where
it has no usable list of operators there are none. -/
structure Node.IsChain (node : Node) (kind : NodeKind) (operands symbols : List Node) : Prop where
  kind : node.kind = kind
  nodes : node.children? .nodes = some operands
  ops : (node.children? .ops).getD [] = symbols

def Node.chain (kind : NodeKind) (operands symbols : List Node) : Node :=
  ((new 0 kind).set .nodes (.list operands)).set .ops (.list symbols)

theorem Node.isChain_chain (kind : NodeKind) (operands symbols : List Node) :
    (chain kind operands symbols).IsChain kind operands symbols :=
  ⟨rfl, rfl, rfl⟩

def Node.number (text : String) : Node :=
  .leaf 1 .numberLiteral text

def Node.symbol (text : String) : Node :=
  .leaf 2 .operator text

namespace Rules

variable [PatternEngine] {node node' : Node} {kind : NodeKind} {scope : ScopeId}
  {allowed : Operator → Bool}

/-! ### Folds -/

/-- Of the node a fold uses only the kind, for its errors. -/
theorem foldChain_congr (h : node'.kind = node.kind) (value : Value N)
    (pairs : List (Node × Node)) :
    (foldChain node' scope allowed value pairs : Action T N (Value N)) =
      foldChain node scope allowed value pairs := by
  induction pairs generalizing value with
  | nil => rfl
  | cons pair rest ih =>
    simp only [foldChain, ih, Node.requireOperator, Node.malformed, h]

/-- A fold over pairs and more pairs goes on from what the first ones give. -/
theorem foldChain_append (value : Value N) (pairs more : List (Node × Node)) :
    (foldChain node scope allowed value (pairs ++ more) : Action T N (Value N)) =
      foldChain node scope allowed value pairs >>= fun value =>
        foldChain node scope allowed value more := by
  induction pairs generalizing value with
  | nil => rfl
  | cons pair rest ih => simp only [List.cons_append, foldChain, ih, Action.bind_assoc]

/-! ### Chains -/

theorem chainOperators_eq {operands : List Node}
    (h : ((node.children? .ops).getD []).length + 1 = operands.length) :
    (chainOperators node operands.length : Action T N (List Node)) =
      pure ((node.children? .ops).getD []) := by
  unfold chainOperators
  cases hops : node.children? .ops with
  | some symbols => rfl
  | none =>
    rw [hops] at h
    exact if_pos h.symm

/-- The rule for a chain in which the numbers of operands and operators go together. -/
theorem chain_eq {first : Node} {rest symbols : List Node}
    (hnodes : node.children? .nodes = some (first :: rest))
    (hops : (node.children? .ops).getD [] = symbols) (hcount : symbols.length = rest.length) :
    (chain allowed node scope : Action T N (Value N)) =
      Action.eval first scope >>= fun value =>
        foldChain node scope allowed value (symbols.zip rest) := by
  subst hops
  have hoperators : (chainOperators node (first :: rest).length : Action T N (List Node)) = _ :=
    chainOperators_eq (congrArg (· + 1) hcount)
  unfold chain Node.requireChildren
  rw [hnodes]
  change (chainOperators node (first :: rest).length >>= _) = _
  rw [hoperators]
  exact if_neg (not_not_intro hcount)

/-- The rule for a chain in which they do not is to fail. -/
theorem chain_eq_malformed (allowed : Operator → Bool) (scope : ScopeId)
    (h : ((node.children? .ops).getD []).length + 1 ≠
      ((node.children? .nodes).getD []).length) :
    ∃ attr, (attr = .nodes ∨ attr = .ops) ∧
      (chain allowed node scope : Action T N (Value N)) =
        .finish (.error (node.malformed attr)) := by
  unfold chain Node.requireChildren
  cases hnodes : node.children? .nodes with
  | none => exact ⟨.nodes, .inl rfl, rfl⟩
  | some operands =>
    rw [hnodes, Option.getD_some] at h
    cases hops : node.children? .ops with
    | none =>
      rw [hops] at h
      have hoperators : (chainOperators node operands.length : Action T N (List Node)) =
          Action.fail (node.malformed .ops) := by
        rw [chainOperators, hops]
        exact if_neg (Ne.symm h)
      refine ⟨.ops, .inr rfl, ?_⟩
      change (chainOperators node operands.length >>= _) = _
      rw [hoperators]
      rfl
    | some symbols =>
      rw [hops, Option.getD_some] at h
      have hoperators : (chainOperators node operands.length : Action T N (List Node)) =
          pure symbols := by
        rw [chainOperators, hops]
      change ∃ attr, _ ∧ (chainOperators node operands.length >>= _) = _
      rw [hoperators]
      cases operands with
      | nil => exact ⟨.nodes, .inl rfl, rfl⟩
      | cons first rest =>
        have hcount : symbols.length ≠ rest.length := fun heq => h (congrArg (· + 1) heq)
        exact ⟨.ops, .inr rfl, if_pos hcount⟩

/-! ### Kinds of chains -/

def allowedIn : NodeKind → Operator → Bool
  | .addition => isAdditive
  | .multiplication => isMultiplicative
  | _ => fun _ => false

theorem handler_eq_chain [DecidableEq N] [Naming N T] (h : kind.isChain = true) :
    (handler kind : Handler T N) = chain (allowedIn kind) := by
  cases kind with
  | addition | multiplication => rfl
  | _ => cases h

end Rules

end TreeScript
