import TreeScript.Proofs.Decimal.Numerals
import TreeScript.Proofs.Lockstep.Bodies

/-!
Well-formed trees: every node has the attributes that the rule for its kind asks for
(`Node.WellFormed`). What is read of a node without being evaluated has to have the texts that are
read of it; what is evaluated, and the bodies of function literals, have to be well-formed again
(`NodesClosed.wellFormed`). An operator by itself has no value and is not well-formed.
-/

namespace TreeScript

namespace Node

/-- The operators between the operands of a chain, one fewer than there are operands, are spelled
and allowed. They may be absent if there is one operand. -/
structure Chained (allowed : Operator → Bool) (node : Node) (operands : List Node) : Prop where
  nodes : node.children? .nodes = some operands
  count : ((node.children? .ops).getD []).length + 1 = operands.length
  symbols : ∀ symbol ∈ (node.children? .ops).getD [],
    ∃ operator, allowed operator = true ∧ symbol.text? .text = some operator.symbol

/-- A node has what the rule for its kind asks for, and so have the nodes that are evaluated. -/
inductive WellFormed : Node → Prop where
  | statements {node : Node} {nodes : List Node}
      (hkind : node.kind = .program ∨ node.kind = .block)
      (hnodes : node.children? .nodes = some nodes) (h : ∀ child ∈ nodes, WellFormed child) :
      WellFormed node
  | quotedLiteral {node : Node} {text : String}
      (hkind : node.kind = .stringLiteral ∨ node.kind = .regexLiteral)
      (htext : node.text? .text = some text) (hlength : 2 ≤ text.length) : WellFormed node
  | numberLiteral {node : Node} {text : String} (hkind : node.kind = .numberLiteral)
      (htext : node.text? .text = some text) (h : Decimal.Numeral text.toList) : WellFormed node
  | boolLiteral {node : Node} {text : String} (hkind : node.kind = .boolLiteral)
      (htext : node.text? .text = some text) (h : text = "true" ∨ text = "false") : WellFormed node
  | nullLiteral {node : Node} (hkind : node.kind = .nullLiteral) : WellFormed node
  | identifier {node : Node} {text : String} (hkind : node.kind = .identifier)
      (htext : node.text? .text = some text) : WellFormed node
  /-- The left side is a variable, or an indexed variable. An index may be absent. -/
  | assignment {node left right : Node} {text : String} (hkind : node.kind = .assignment)
      (hleft : node.child? .left = some left) (htext : left.assignedText? = some text)
      (hindex : ∀ index ∈ node.assignedIndex?, WellFormed index)
      (hright : node.child? .right = some right) (h : WellFormed right) : WellFormed node
  | addition {node : Node} {operands : List Node} (hkind : node.kind = .addition)
      (hchain : node.Chained Rules.isAdditive operands)
      (h : ∀ operand ∈ operands, WellFormed operand) : WellFormed node
  | multiplication {node : Node} {operands : List Node} (hkind : node.kind = .multiplication)
      (hchain : node.Chained Rules.isMultiplicative operands)
      (h : ∀ operand ∈ operands, WellFormed operand) : WellFormed node
  | comparison {node left right : Node} {operator : Operator} (hkind : node.kind = .comparison)
      (hleft : node.child? .left = some left) (hright : node.child? .right = some right)
      (hop : node.slotText? .op = some operator.symbol) (hoperator : operator.isComparison = true)
      (h : WellFormed left) (h' : WellFormed right) : WellFormed node
  | dereference {node target index : Node} (hkind : node.kind = .dereference)
      (htarget : node.child? .target = some target) (hindex : node.child? .index = some index)
      (h : WellFormed target) (h' : WellFormed index) : WellFormed node
  | anonymousFunction {node body : Node} (hkind : node.kind = .anonymousFunction)
      (hparams : ∀ param ∈ (node.children? .args).getD [], ∃ text, param.text? .text = some text)
      (hbody : node.child? .body = some body) (h : WellFormed body) : WellFormed node
  | functionCall {node callee : Node} (hkind : node.kind = .functionCall)
      (hcallee : node.child? .callee = some callee) (h : WellFormed callee)
      (hargs : ∀ arg ∈ (node.children? .args).getD [], WellFormed arg) : WellFormed node
  | foreach {node left body : Node} {text : String} (hkind : node.kind = .foreach)
      (hleft : node.child? .left = some left) (hitem : node.slotText? .item = some text)
      (hbody : node.child? .body = some body) (h : WellFormed left) (h' : WellFormed body) :
      WellFormed node

namespace WellFormed

variable {node child : Node}

/-- What is evaluated for a well-formed node is well-formed. -/
theorem of_mem_parts (h : node.WellFormed) (hpart : child ∈ node.parts) : child.WellFormed := by
  cases h with
  | statements hkind hnodes h =>
    rcases hkind with hkind | hkind
    all_goals
      simp only [parts, hkind, hnodes, Option.getD_some] at hpart
      exact h child hpart
  | addition hkind hchain h | multiplication hkind hchain h =>
    simp only [parts, hkind, hchain.nodes, Option.getD_some] at hpart
    exact h child hpart
  | assignment hkind _ _ hindex hright h =>
    simp only [parts, hkind, hright, List.mem_append, Option.mem_toList, Option.toList_some,
      List.mem_singleton] at hpart
    rcases hpart with hpart | rfl
    · exact hindex child hpart
    · exact h
  | comparison hkind hleft hright _ _ h h' | dereference hkind hleft hright h h'
  | foreach hkind hleft _ hright h h' =>
    simp only [parts, hkind, hleft, hright, List.mem_append, Option.toList_some,
      List.mem_singleton] at hpart
    rcases hpart with rfl | rfl
    · exact h
    · exact h'
  | functionCall hkind hcallee h hargs =>
    simp only [parts, hkind, hcallee, List.mem_append, Option.toList_some,
      List.mem_singleton] at hpart
    rcases hpart with rfl | hpart
    · exact h
    · exact hargs child hpart
  | quotedLiteral hkind =>
    rcases hkind with hkind | hkind
    all_goals
      simp only [parts, hkind] at hpart
      exact absurd hpart List.not_mem_nil
  | numberLiteral hkind | boolLiteral hkind | nullLiteral hkind | identifier hkind
  | anonymousFunction hkind =>
    simp only [parts, hkind] at hpart
    exact absurd hpart List.not_mem_nil

/-- The body of a well-formed function literal is well-formed. -/
theorem of_body (h : node.WellFormed) (hliteral : node.kind = .anonymousFunction)
    (hbody : node.child? .body = some child) : child.WellFormed := by
  cases h with
  | anonymousFunction _ _ hbody' h =>
    rw [hbody] at hbody'
    cases hbody'
    exact h
  | statements hkind | quotedLiteral hkind =>
    rw [hliteral] at hkind
    rcases hkind with hkind | hkind <;> cases hkind
  | numberLiteral hkind | boolLiteral hkind | nullLiteral hkind | identifier hkind
  | assignment hkind | addition hkind | multiplication hkind | comparison hkind
  | dereference hkind | functionCall hkind | foreach hkind =>
    rw [hliteral] at hkind
    cases hkind

end WellFormed

end Node

/-- The nodes that are evaluated for well-formed nodes are well-formed. -/
theorem NodesClosed.wellFormed : NodesClosed Node.WellFormed where
  part h hpart := h.of_mem_parts hpart
  body h hkind hbody := h.of_body hkind hbody

end TreeScript
