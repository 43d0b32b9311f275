import TreeScript.Node

/-!
What of a node the rules of the language use. The parts of a node (`Node.parts`) are the nodes below
it that are evaluated in its own scope; the body of a function is none of its parts. A node writes
the texts that it or a part of it, at any depth, binds (`Node.Writes`).
-/

namespace TreeScript.Node

/-- The index under the left side of an assignment to an indexed variable. -/
def assignedIndex? (node : Node) : Option Node :=
  (node.child? .left).bind fun left =>
    if left.kind = .dereference then left.child? .index else none

/-- The nodes directly below a node that are evaluated in its scope. -/
def parts (node : Node) : List Node :=
  match node.kind with
  | .program | .block | .addition | .multiplication => (node.children? .nodes).getD []
  | .assignment => node.assignedIndex?.toList ++ (node.child? .right).toList
  | .comparison => (node.child? .left).toList ++ (node.child? .right).toList
  | .dereference => (node.child? .target).toList ++ (node.child? .index).toList
  | .functionCall => (node.child? .callee).toList ++ (node.children? .args).getD []
  | .foreach => (node.child? .left).toList ++ (node.child? .body).toList
  | .stringLiteral | .numberLiteral | .boolLiteral | .nullLiteral | .regexLiteral | .identifier
  | .anonymousFunction | .operator => []

/-- The variable that an assignment binds, by the left side: a variable, or an indexed one. -/
def assignedText? (left : Node) : Option String :=
  match left.kind with
  | .identifier => left.text? .text
  | .dereference =>
    (left.child? .target).bind fun target =>
      if target.kind = .identifier then target.text? .text else none
  | _ => none

/-- What an assignment binds is a variable, or the variable that is indexed. -/
theorem assignedText?_cases {left : Node} {text : String} (h : left.assignedText? = some text) :
    left.kind = .identifier ∧ left.text? .text = some text ∨
      left.kind = .dereference ∧ ∃ target, left.child? .target = some target ∧
        target.kind = .identifier ∧ target.text? .text = some text := by
  unfold assignedText? at h
  split at h
  · exact .inl ⟨‹_›, h⟩
  · obtain ⟨target, htarget, htext⟩ := Option.bind_eq_some_iff.1 h
    split at htext
    · exact .inr ⟨‹_›, target, htarget, ‹_›, htext⟩
    · cases htext
  · cases h

/-- The text of the name that a node itself binds: the variable of an assignment, or the item of a
loop. -/
def boundText? (node : Node) : Option String :=
  match node.kind with
  | .assignment => (node.child? .left).bind assignedText?
  | .foreach => node.slotText? .item
  | _ => none

/-- A node or a part of it, at any depth, binds the name of a text. What a function literal contains
does not count. -/
inductive Writes (text : String) : Node → Prop where
  | self {node : Node} : node.boundText? = some text → Writes text node
  | part {node part : Node} : part ∈ node.parts → Writes text part → Writes text node

/-! ### Parts are smaller -/

theorem sizeOf_of_attr? {node : Node} {attr : Attr} {value : AttrValue}
    (h : node.attr? attr = some value) : sizeOf value < sizeOf node := by
  obtain ⟨identity, kind, attrs⟩ := node
  have hmem : (attr, value) ∈ attrs := by
    obtain ⟨before, after, rfl, -⟩ := List.lookup_eq_some_iff.1 h
    simp
  have hpair := List.sizeOf_lt_of_mem hmem
  simp only [Prod.mk.sizeOf_spec, mk.sizeOf_spec] at hpair ⊢
  omega

theorem sizeOf_of_mem_children? {node child : Node} {attr : Attr} {children : List Node}
    (h : node.children? attr = some children) (hmem : child ∈ children) :
    sizeOf child < sizeOf node := by
  unfold children? at h
  split at h
  · rename_i list hattr
    cases h
    have hlist := List.sizeOf_lt_of_mem hmem
    have hvalue := sizeOf_of_attr? hattr
    simp only [AttrValue.list.sizeOf_spec] at hvalue
    omega
  · rename_i single hattr
    cases h
    cases List.mem_singleton.1 hmem
    have hvalue := sizeOf_of_attr? hattr
    simp only [AttrValue.node.sizeOf_spec] at hvalue
    omega
  · cases h

theorem children?_of_child? {node child : Node} {attr : Attr} (h : node.child? attr = some child) :
    node.children? attr = some [child] := by
  unfold child? at h
  split at h
  · rename_i single hattr
    cases h
    simp only [children?, hattr]
  · cases h

theorem sizeOf_of_child? {node child : Node} {attr : Attr} (h : node.child? attr = some child) :
    sizeOf child < sizeOf node :=
  sizeOf_of_mem_children? (children?_of_child? h) (List.mem_singleton_self child)

theorem sizeOf_of_mem_getD_children? {node child : Node} {attr : Attr}
    (h : child ∈ (node.children? attr).getD []) : sizeOf child < sizeOf node := by
  cases hc : node.children? attr with
  | none =>
    rw [hc] at h
    exact absurd h List.not_mem_nil
  | some children =>
    rw [hc] at h
    exact sizeOf_of_mem_children? hc h

theorem sizeOf_of_mem_assignedIndex? {node index : Node} (h : index ∈ node.assignedIndex?) :
    sizeOf index < sizeOf node := by
  obtain ⟨left, hleft, h⟩ := Option.bind_eq_some_iff.1 h
  split at h
  · exact Nat.lt_trans (sizeOf_of_child? h) (sizeOf_of_child? hleft)
  · cases h

/-- A part of a node is smaller than the node. -/
theorem sizeOf_of_mem_parts {node part : Node} (h : part ∈ node.parts) :
    sizeOf part < sizeOf node := by
  cases hk : node.kind with
  | program | block | addition | multiplication =>
    simp only [parts, hk] at h
    exact sizeOf_of_mem_getD_children? h
  | assignment =>
    simp only [parts, hk, List.mem_append, Option.mem_toList] at h
    exact h.elim sizeOf_of_mem_assignedIndex? sizeOf_of_child?
  | functionCall =>
    simp only [parts, hk, List.mem_append, Option.mem_toList] at h
    exact h.elim sizeOf_of_child? sizeOf_of_mem_getD_children?
  | comparison | dereference | foreach =>
    simp only [parts, hk, List.mem_append, Option.mem_toList] at h
    exact h.elim sizeOf_of_child? sizeOf_of_child?
  | _ =>
    simp only [parts, hk] at h
    exact absurd h List.not_mem_nil

end TreeScript.Node
