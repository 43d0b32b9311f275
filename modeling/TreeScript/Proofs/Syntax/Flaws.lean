import TreeScript.Eval.Rules
import TreeScript.Proofs.Syntax.Parts

/-!
What the rule for a node cannot use. A flaw of a node is the error for an attribute that the rule
for its kind needs and that is absent or holds something else than what is needed (`Node.flaws`). An
attribute without which the rule does something else is not needed: it may be absent, and if it
holds what the rule cannot use, this is no flaw either. Such an attribute can be taken away from a
node (`Node.without`).
-/

namespace TreeScript

namespace NodeKind

def isChain : NodeKind → Bool
  | addition | multiplication => true
  | _ => false

end NodeKind

namespace EvalError

def isMalformedNode : EvalError → Bool
  | malformedNode .. => true
  | _ => false

end EvalError

namespace Node

variable {node : Node} {attr : Attr} {error : EvalError}

/-! ### Flaws -/

/-- The flaw of an attribute that should hold what is needed. -/
def flaw {α : Type} (node : Node) (attr : Attr) (needed : Option α) : List EvalError :=
  if needed.isSome then [] else [node.malformed attr]

@[simp]
theorem flaw_some {α : Type} (value : α) : node.flaw attr (some value) = [] := rfl

@[simp]
theorem flaw_none {α : Type} : node.flaw attr (none : Option α) = [node.malformed attr] := rfl

/-- The flaws of the left side of an assignment, which should be a variable or an indexed one. -/
def assignedFlaws (node : Node) : List EvalError :=
  match node.child? .left with
  | none => [node.malformed .left]
  | some left =>
    match left.kind with
    | .identifier => left.flaw .text (left.text? .text)
    | .dereference =>
      match left.child? .target with
      | none => [left.malformed .target]
      | some target =>
        if target.kind ≠ .identifier then [node.malformed .left]
        else target.flaw .text (target.text? .text)
    | _ => [node.malformed .left]

/-- The operator that a node stands for, if it is one of those allowed. -/
def allowedOperator? (allowed : Operator → Bool) (symbol : Node) : Option Operator :=
  ((symbol.text? .text).bind Operator.ofSymbol?).filter allowed

/-- The flaws of a chain, which should have allowed operators between its operands. The operators
may be absent if there is one operand. -/
def chainFlaws (allowed : Operator → Bool) (node : Node) : List EvalError :=
  match node.children? .nodes with
  | none => [node.malformed .nodes]
  | some [] => [node.malformed .nodes] ++ node.flaw .ops (node.children? .ops)
  | some (_ :: rest) =>
    if ((node.children? .ops).getD []).length = rest.length then
      ((node.children? .ops).getD []).flatMap fun symbol =>
        node.flaw .ops (symbol.allowedOperator? allowed)
    else [node.malformed .ops]

/-- The errors for what the rule for a node needs and does not get from its attributes. -/
def flaws (node : Node) : List EvalError :=
  match node.kind with
  | .program | .block => node.flaw .nodes (node.children? .nodes)
  | .stringLiteral | .regexLiteral => node.flaw .text ((node.text? .text).bind Rules.inner?)
  | .numberLiteral =>
    node.flaw .text ((node.text? .text).bind fun text => Rules.number? text.toList)
  | .boolLiteral => node.flaw .text ((node.text? .text).bind Rules.bool?)
  | .nullLiteral => []
  | .identifier => node.flaw .text (node.text? .text)
  | .assignment => node.assignedFlaws ++ node.flaw .right (node.child? .right)
  | .addition => node.chainFlaws Rules.isAdditive
  | .multiplication => node.chainFlaws Rules.isMultiplicative
  | .comparison =>
    node.flaw .left (node.child? .left) ++
      node.flaw .op (((node.slotText? .op).bind Operator.ofSymbol?).filter Operator.isComparison) ++
      node.flaw .right (node.child? .right)
  | .dereference =>
    node.flaw .target (node.child? .target) ++ node.flaw .index (node.child? .index)
  | .anonymousFunction =>
    (((node.children? .args).getD []).flatMap fun param => node.flaw .args (param.text? .text)) ++
      node.flaw .body (node.child? .body)
  | .functionCall => node.flaw .callee (node.child? .callee)
  | .foreach =>
    node.flaw .left (node.child? .left) ++ node.flaw .item (node.slotText? .item) ++
      node.flaw .body (node.child? .body)
  | .operator => [node.malformed .text]

/-! ### Flaws are errors about attributes -/

/-- All errors of a list report malformed nodes. -/
def AllMalformed (errors : List EvalError) : Prop :=
  ∀ error ∈ errors, error.isMalformedNode = true

namespace AllMalformed

theorem nil : AllMalformed [] :=
  fun _ => nofun

theorem singleton (node : Node) (attr : Attr) : AllMalformed [node.malformed attr] :=
  List.forall_mem_singleton.2 rfl

theorem append {errors errors' : List EvalError} (h : AllMalformed errors)
    (h' : AllMalformed errors') : AllMalformed (errors ++ errors') :=
  List.forall_mem_append.2 ⟨h, h'⟩

theorem flatMap {α : Type} {errors : α → List EvalError} (h : ∀ a, AllMalformed (errors a))
    (list : List α) : AllMalformed (list.flatMap errors) := by
  intro error hmem
  obtain ⟨a, -, hmem⟩ := List.mem_flatMap.1 hmem
  exact h a error hmem

theorem flaw {α : Type} (node : Node) (attr : Attr) (needed : Option α) :
    AllMalformed (node.flaw attr needed) := by
  cases needed with
  | some value => exact nil
  | none => exact singleton node attr

theorem assignedFlaws (node : Node) : AllMalformed node.assignedFlaws := by
  unfold Node.assignedFlaws
  split
  · exact singleton node .left
  · split
    · exact flaw _ _ _
    · split
      · exact singleton _ .target
      · split
        · exact singleton node .left
        · exact flaw _ _ _
    · exact singleton node .left

theorem chainFlaws (allowed : Operator → Bool) (node : Node) :
    AllMalformed (node.chainFlaws allowed) := by
  unfold Node.chainFlaws
  split
  · exact singleton node .nodes
  · exact (singleton node .nodes).append (flaw node .ops _)
  · split
    · exact flatMap (fun symbol => flaw node .ops _) _
    · exact singleton node .ops

/-- Every flaw is reported as a malformed node. -/
theorem flaws (node : Node) : AllMalformed node.flaws := by
  unfold Node.flaws
  cases node.kind with
  | nullLiteral => exact nil
  | operator => exact singleton node .text
  | assignment => exact (assignedFlaws node).append (flaw node .right _)
  | addition | multiplication => exact chainFlaws _ node
  | comparison | foreach => exact ((flaw node _ _).append (flaw node _ _)).append (flaw node _ _)
  | dereference => exact (flaw node _ _).append (flaw node _ _)
  | anonymousFunction => exact (flatMap (fun param => flaw node .args _) _).append (flaw node _ _)
  | _ => exact flaw node _ _

end AllMalformed

/-! ### Left sides without flaws -/

/-- The left side of an assignment has no flaws if it names a variable. -/
theorem assignedFlaws_eq_nil {left : Node} {text : String} (hleft : node.child? .left = some left)
    (htext : left.assignedText? = some text) : node.assignedFlaws = [] := by
  unfold assignedFlaws
  rcases assignedText?_cases htext with
    ⟨hkind, htext⟩ | ⟨hkind, target, htarget, htargetKind, htext⟩
  · simp only [hleft, hkind, htext, flaw_some]
  · simp only [hleft, hkind, htarget, htargetKind, htext, flaw_some, ne_eq, not_true_eq_false,
      if_false]

/-! ### Taking an attribute away -/

def without (node : Node) (attr : Attr) : Node :=
  .mk node.identity node.kind (node.attrs.filter (·.1 != attr))

@[simp]
theorem malformed_without (node : Node) (key attr : Attr) :
    (node.without key).malformed attr = node.malformed attr := rfl

@[simp]
theorem malformed_set (node : Node) (key attr : Attr) (value : AttrValue) :
    (node.set key value).malformed attr = node.malformed attr := rfl

/-- Of a node without an attribute the other attributes are as before. -/
theorem attr?_without (node : Node) (key attr : Attr) :
    (node.without key).attr? attr = if attr = key then none else node.attr? attr := by
  by_cases h : attr = key
  · subst h
    rw [if_pos rfl, attr?, without, attrs, List.lookup_eq_none_iff]
    intro pair hmem
    have hne := (List.mem_filter.1 hmem).2
    exact bne_iff_ne.2 (bne_iff_ne.1 hne).symm
  · rw [if_neg h]
    exact lookup_filter_ne h _

variable {node' : Node}

theorem child?_congr (h : node'.attr? attr = node.attr? attr) :
    node'.child? attr = node.child? attr := by
  rw [child?, child?, h]

theorem children?_congr (h : node'.attr? attr = node.attr? attr) :
    node'.children? attr = node.children? attr := by
  rw [children?, children?, h]

theorem child?_without_self : (node.without attr).child? attr = none := by
  rw [child?, attr?_without, if_pos rfl]

theorem child?_without_of_ne {key : Attr} (h : attr ≠ key) :
    (node.without key).child? attr = node.child? attr :=
  child?_congr (by rw [attr?_without, if_neg h])

theorem children?_without_self : (node.without attr).children? attr = none := by
  rw [children?, attr?_without, if_pos rfl]

theorem children?_without_of_ne {key : Attr} (h : attr ≠ key) :
    (node.without key).children? attr = node.children? attr :=
  children?_congr (by rw [attr?_without, if_neg h])

theorem child?_set_self {child : Node} :
    (node.set attr (.node child)).child? attr = some child := by
  rw [child?, attr?_set, if_pos rfl]

theorem child?_set_of_ne {key : Attr} {value : AttrValue} (h : attr ≠ key) :
    (node.set key value).child? attr = node.child? attr :=
  child?_congr (by rw [attr?_set, if_neg h])

end Node

end TreeScript
