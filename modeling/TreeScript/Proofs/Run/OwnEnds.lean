import TreeScript.Proofs.Run.IndexedWrite
import TreeScript.Proofs.Syntax.Flaws
import TreeScript.Proofs.Values.Data

/-!
What the rule for a node ends with of its own, that is, if no request of it fails
(`Rules.OwnEnd`). It is the error of a flaw, or a value if there are no flaws; a name may be
undefined, a pattern invalid, or the operands of the node's operation may not fit. A rule that
applies an operation has one lemma that says which value the operation works on
(`comparison_finishes`, `chain_finishes` and so on). Nothing but the variable of an assignment and
the operators of a chain is looked at before the attributes are, so any other rule comes to its
operation only for a node without flaws (`handler_ownEnd`).
-/

namespace TreeScript

variable [PatternEngine]

namespace NodeKind

/-- Whether the rule for a kind applies an operation to values. -/
def operates : NodeKind → Bool
  | addition | multiplication | comparison | dereference | foreach | assignment => true
  | _ => false

end NodeKind

namespace Rules

open TreeScript.Action (finishes_require_bind finishes_eval_bind finishes_intern_bind
  finishes_lookup_bind finishes_bindName_bind finishes_finish_bind finishes_finish_iff
  finishes_pure_iff finishes_fail_iff finishes_require_iff finishes_bind finishes_ask_iff)

variable {T N α : Type} {evaluator : Evaluator T N} {node : Node} {scope : ScopeId}
  {state state' : State T N} {result : Except EvalError (Value N)} {error : EvalError}

/-- What the rule for a node may end with if no request of it fails. -/
inductive OwnEnd (node : Node) : Except EvalError (Value N) → Prop where
  | flaw {error : EvalError} (h : error ∈ node.flaws) : OwnEnd node (.error error)
  | value (h : node.flaws = []) (value : Value N) : OwnEnd node (.ok value)
  /-- The variable of an assignment is resolved before its right side is looked at. -/
  | undefinedName (h : node.kind = .assignment ∨ node.flaws = []) (text : String) :
      OwnEnd node (.error (.undefinedName text))
  | invalidPattern (h : node.flaws = []) (source reason : String) :
      OwnEnd node (.error (.invalidPattern source reason))
  /-- An operator of a chain is looked at after the operators before it were applied. -/
  | operands {error : EvalError} (hkind : node.kind.operates = true)
      (h : node.kind.isChain = true ∨ node.flaws = []) (herror : error.blamesOperands = true) :
      OwnEnd node (.error error)

namespace OwnEnd

/-- A rule that needs something ends with a flaw, or it goes on with what it needs. -/
theorem require {needed : Option α} {rest : α → Action T N (Value N)}
    (hnone : needed = none → error ∈ node.flaws)
    (h : (Action.require error needed >>= rest).Finishes evaluator state result state')
    (hrest : ∀ value, needed = some value → (rest value).Finishes evaluator state result state' →
      OwnEnd node result) : OwnEnd node result := by
  rcases finishes_require_bind.1 h with ⟨value, hvalue, h⟩ | ⟨hneeded, rfl, -⟩
  · exact hrest value hvalue h
  · exact .flaw (hnone hneeded)

/-- What an operation gives is a value, or an error about the operands. -/
theorem operation (hkind : node.kind.operates = true) (h : node.flaws = [])
    (hresult : Value.Operational result) : OwnEnd node result := by
  cases result with
  | ok value => exact .value h value
  | error error => exact .operands hkind (.inr h) (hresult.error error rfl)

end OwnEnd

/-! ### Statements and loops -/

/-- Nodes that are evaluated in order give no error but those of the requests. -/
theorem exists_value_of_sequence {last : Value N} {nodes : List Node}
    (h : (Action.sequence scope last nodes).Finishes evaluator state result state') :
    ∃ value, result = .ok value := by
  induction nodes generalizing last state with
  | nil =>
    obtain ⟨rfl, -⟩ := finishes_pure_iff.1 h
    exact ⟨last, rfl⟩
  | cons first rest ih =>
    obtain ⟨value, between, -, h⟩ := finishes_eval_bind.1 h
    exact ih h

theorem statements_ownEnd (hflaws : node.flaws = node.flaw .nodes (node.children? .nodes))
    (h : (statements node scope).Finishes evaluator state result state') : OwnEnd node result := by
  refine .require (fun hnone => by simp [hflaws, hnone]) h fun nodes hnodes h => ?_
  obtain ⟨value, rfl⟩ := exists_value_of_sequence h
  exact .value (by simp [hflaws, hnodes]) value

theorem exists_value_of_loop [DecidableEq N] {item : N} {body : Node} {texts : List Text}
    (h : (loop scope item body texts).Finishes evaluator state result state') :
    ∃ value, result = .ok value := by
  induction texts generalizing state with
  | nil =>
    obtain ⟨rfl, -⟩ := finishes_pure_iff.1 h
    exact ⟨.null, rfl⟩
  | cons c rest ih =>
    obtain ⟨value, between, -, h⟩ := finishes_eval_bind.1 (finishes_bindName_bind.1 h)
    exact ih h

/-- A loop ends with a flaw, or the value of its left side was iterated over. -/
theorem foreach_finishes [DecidableEq N] [Naming N T] (hkind : node.kind = .foreach)
    (h : (foreach node scope).Finishes evaluator state result state') :
    (∃ error ∈ node.flaws, result = .error error) ∨
      node.flaws = [] ∧ ∃ left value between, node.child? .left = some left ∧
        evaluator (.eval left scope) state = .done (.ok value) between ∧
        ((∃ last, result = .ok last) ∨
          ∃ error, value.iterate = .error error ∧ result = .error error) := by
  have hflaws : node.flaws = node.flaw .left (node.child? .left) ++
      node.flaw .item (node.slotText? .item) ++ node.flaw .body (node.child? .body) := by
    simp only [Node.flaws, hkind]
  rcases finishes_require_bind.1 h with ⟨left, hleft, h⟩ | ⟨hnone, rfl, -⟩
  · obtain ⟨value, between, hvalue, h⟩ := finishes_eval_bind.1 h
    rcases finishes_require_bind.1 h with ⟨item, hitem, h⟩ | ⟨hnone, rfl, -⟩
    · rcases finishes_require_bind.1 (finishes_intern_bind.1 h) with
        ⟨body, hbody, h⟩ | ⟨hnone, rfl, -⟩
      · refine .inr ⟨by simp [hflaws, hleft, hitem, hbody], left, value, between, hleft, hvalue, ?_⟩
        rcases finishes_finish_bind.1 h with ⟨pass, -, h⟩ | ⟨error, herror, heq, -⟩
        · exact .inl (exists_value_of_loop h)
        · exact .inr ⟨error, herror, heq⟩
      · exact .inl ⟨_, by simp [hflaws, hnone], rfl⟩
    · exact .inl ⟨_, by simp [hflaws, hnone], rfl⟩
  · exact .inl ⟨_, by simp [hflaws, hnone], rfl⟩

theorem foreach_ownEnd [DecidableEq N] [Naming N T] (hkind : node.kind = .foreach)
    (h : (foreach node scope).Finishes evaluator state result state') : OwnEnd node result := by
  rcases foreach_finishes hkind h with
    ⟨error, hmem, rfl⟩ | ⟨hsound, left, value, between, -, -, ⟨last, rfl⟩ | ⟨error, herror, rfl⟩⟩
  · exact .flaw hmem
  · exact .value hsound last
  · have htype := Value.isTypeError_of_iterate herror
    have hblamed := EvalError.blamesOperands_of_isTypeError htype
    exact .operands (by rw [hkind]; rfl) (.inr hsound) hblamed

/-! ### Literals -/

/-- A literal ends with a flaw, or with the value of what was read from its text. -/
theorem literal_ownEnd (scope : ScopeId) {read : String → Option α} {value : α → Value.Result N}
    (hflaws : node.flaws = node.flaw .text ((node.text? .text).bind read))
    (h : (literal read value node scope).Finishes evaluator state result state')
    (hvalue : ∀ content, node.flaws = [] → OwnEnd node (value content)) : OwnEnd node result := by
  refine .require (fun hnone => by simp [hflaws, hnone]) h fun text htext h => ?_
  refine .require (fun hnone => by simp [hflaws, htext, hnone]) h fun content hcontent h => ?_
  obtain ⟨rfl, -⟩ := finishes_finish_iff.1 h
  exact hvalue content (by simp [hflaws, htext, hcontent])

theorem pattern_ownEnd (h : node.flaws = []) (source : String) :
    OwnEnd node (pattern source : Value.Result N) := by
  unfold pattern
  split
  · exact .value h _
  · exact .invalidPattern h _ _

/-! ### Variables -/

section Variables

variable [DecidableEq N] [Naming N T]

theorem identifier_ownEnd (hkind : node.kind = .identifier)
    (h : (identifier node scope).Finishes evaluator state result state') : OwnEnd node result := by
  have hflaws : node.flaws = node.flaw .text (node.text? .text) := by
    simp only [Node.flaws, hkind]
  refine .require (fun hnone => by simp [hflaws, hnone]) h fun text htext h => ?_
  have hsound : node.flaws = [] := by simp [hflaws, htext]
  have h := finishes_lookup_bind.1 (finishes_intern_bind.1 h)
  rcases finishes_require_iff.1 h with ⟨value, -, rfl, -⟩ | ⟨-, rfl, -⟩
  · exact .value hsound value
  · exact .undefinedName (.inr hsound) text

theorem assignment_ownEnd (hkind : node.kind = .assignment)
    (h : (assignment node scope).Finishes evaluator state result state') : OwnEnd node result := by
  have hflaws : node.flaws = node.assignedFlaws ++ node.flaw .right (node.child? .right) := by
    simp only [Node.flaws, hkind]
  rcases assignment_finishes h with ⟨error, hmem, rfl⟩ | ⟨left, text, hleft, htext⟩
  · exact .flaw (by simp [hflaws, hmem])
  have hassigned := Node.assignedFlaws_eq_nil hleft htext
  rcases Node.assignedText?_cases htext with ⟨hvariable, hname⟩ | ⟨hindexed, -⟩
  · rcases assignment_finishes_variable hleft hvariable hname h with
      ⟨hnone, rfl⟩ | ⟨right, value, hright, rfl⟩
    · exact .flaw (by simp [hflaws, hnone])
    · exact .value (by simp [hflaws, hassigned, hright]) value
  · rcases assignment_finishes_indexed hleft hindexed htext h with
      rfl | ⟨hnone, rfl⟩ | ⟨write, -, -, hend⟩
    · exact .undefinedName (.inl hkind) text
    · exact .flaw (by simp [hflaws, hnone])
    · have hsound : node.flaws = [] := by simp [hflaws, hassigned, write.hright]
      rcases hend with ⟨error, herror, rfl, -⟩ | ⟨changed, -, rfl, -⟩
      · have hblamed := (Value.operational_indexSet ..).error error herror
        exact .operands (by rw [hkind]; rfl) (.inr hsound) hblamed
      · exact .value hsound write.value

end Variables

/-- An indexed access ends with a flaw, or with what indexing the value of its target gives. -/
theorem dereference_finishes (hkind : node.kind = .dereference)
    (h : (dereference node scope).Finishes evaluator state result state') :
    (∃ error ∈ node.flaws, result = .error error) ∨
      node.flaws = [] ∧ ∃ target value between index, node.child? .target = some target ∧
        evaluator (.eval target scope) state = .done (.ok value) between ∧
        result = value.indexGet index := by
  have hflaws : node.flaws =
      node.flaw .target (node.child? .target) ++ node.flaw .index (node.child? .index) := by
    simp only [Node.flaws, hkind]
  rcases finishes_require_bind.1 h with ⟨target, htarget, h⟩ | ⟨hnone, rfl, -⟩
  · obtain ⟨value, between, hvalue, h⟩ := finishes_eval_bind.1 h
    rcases finishes_require_bind.1 h with ⟨index, hindex, h⟩ | ⟨hnone, rfl, -⟩
    · obtain ⟨position, after, -, h⟩ := finishes_eval_bind.1 h
      obtain ⟨rfl, -⟩ := finishes_finish_iff.1 h
      exact .inr ⟨by simp [hflaws, htarget, hindex], target, value, between, position, htarget,
        hvalue, rfl⟩
    · exact .inl ⟨_, by simp [hflaws, hnone], rfl⟩
  · exact .inl ⟨_, by simp [hflaws, hnone], rfl⟩

theorem dereference_ownEnd (hkind : node.kind = .dereference)
    (h : (dereference node scope).Finishes evaluator state result state') : OwnEnd node result := by
  rcases dereference_finishes hkind h with
    ⟨error, hmem, rfl⟩ | ⟨hsound, target, value, between, index, -, -, rfl⟩
  · exact .flaw hmem
  · exact .operation (by rw [hkind]; rfl) hsound (Value.operational_indexGet value index)

/-! ### Operators -/

/-- A comparison ends with a flaw, or with what comparing the values of its sides gives. -/
theorem comparison_finishes (hkind : node.kind = .comparison)
    (h : (comparison node scope).Finishes evaluator state result state') :
    (∃ error ∈ node.flaws, result = .error error) ∨
      node.flaws = [] ∧ ∃ left value between operator right, node.child? .left = some left ∧
        evaluator (.eval left scope) state = .done (.ok value) between ∧
        operator.isComparison = true ∧ result = value.compare operator right := by
  have hflaws : node.flaws = node.flaw .left (node.child? .left) ++
      node.flaw .op (((node.slotText? .op).bind Operator.ofSymbol?).filter Operator.isComparison) ++
      node.flaw .right (node.child? .right) := by
    simp only [Node.flaws, hkind]
  rcases finishes_require_bind.1 h with ⟨left, hleft, h⟩ | ⟨hnone, rfl, -⟩
  · obtain ⟨value, between, hvalue, h⟩ := finishes_eval_bind.1 h
    rcases finishes_require_bind.1 h with ⟨operator, hoperator, h⟩ | ⟨hnone, rfl, -⟩
    · rcases finishes_require_bind.1 h with ⟨right, hright, h⟩ | ⟨hnone, rfl, -⟩
      · obtain ⟨rightValue, after, -, h⟩ := finishes_eval_bind.1 h
        obtain ⟨rfl, -⟩ := finishes_finish_iff.1 h
        have hcomparison := (Option.filter_eq_some_iff.1 hoperator).2
        exact .inr ⟨by simp [hflaws, hleft, hoperator, hright], left, value, between, operator,
          rightValue, hleft, hvalue, hcomparison, rfl⟩
      · exact .inl ⟨_, by simp [hflaws, hnone], rfl⟩
    · exact .inl ⟨_, by simp [hflaws, hnone], rfl⟩
  · exact .inl ⟨_, by simp [hflaws, hnone], rfl⟩

theorem comparison_ownEnd (hkind : node.kind = .comparison)
    (h : (comparison node scope).Finishes evaluator state result state') : OwnEnd node result := by
  rcases comparison_finishes hkind h with
    ⟨error, hmem, rfl⟩ | ⟨hsound, left, value, between, operator, right, -, -, -, rfl⟩
  · exact .flaw hmem
  · exact .operation (by rw [hkind]; rfl) hsound (Value.operational_compare operator value right)

/-- A chain that goes on from a value meets an operator that it cannot use, or operands that do not
fit, or it has a value and has used all operators. -/
theorem foldChain_finishes {allowed : Operator → Bool} {value : Value N}
    {pairs : List (Node × Node)}
    (h : (foldChain node scope allowed value pairs).Finishes evaluator state result state') :
    (∃ pair ∈ pairs, pair.1.allowedOperator? allowed = none ∧
        result = .error (node.malformed .ops)) ∨
      (∃ error, result = .error error ∧ error.blamesOperands = true) ∨
      (∃ value, result = .ok value) ∧
        ∀ pair ∈ pairs, ∃ operator, pair.1.allowedOperator? allowed = some operator := by
  induction pairs generalizing value state with
  | nil =>
    obtain ⟨rfl, -⟩ := finishes_pure_iff.1 h
    exact .inr (.inr ⟨⟨value, rfl⟩, fun _ => nofun⟩)
  | cons pair rest ih =>
    rcases finishes_require_bind.1 h with ⟨operator, hoperator, h⟩ | ⟨hnone, heq, -⟩
    · obtain ⟨right, between, -, h⟩ := finishes_eval_bind.1 h
      rcases finishes_finish_bind.1 h with ⟨next, -, h⟩ | ⟨error, herror, heq, -⟩
      · rcases ih h with ⟨pair, hmem, hnone, heq⟩ | hblamed | ⟨hvalue, hrest⟩
        · exact .inl ⟨pair, List.mem_cons_of_mem _ hmem, hnone, heq⟩
        · exact .inr (.inl hblamed)
        · exact .inr (.inr ⟨hvalue, List.forall_mem_cons.2 ⟨⟨operator, hoperator⟩, hrest⟩⟩)
      · have hblamed := (Value.operational_binary ..).error error herror
        exact .inr (.inl ⟨error, heq, hblamed⟩)
    · exact .inl ⟨pair, List.mem_cons_self, hnone, heq⟩

/-- The operators of a chain are there, or they are absent and there is one operand. -/
theorem chainOperators_finishes {count : Nat} {result : Except EvalError (List Node)}
    (h : (chainOperators node count : Action T N _).Finishes evaluator state result state') :
    state' = state ∧
      ((result = .ok ((node.children? .ops).getD []) ∧
          (node.children? .ops = none → count = 1)) ∨
        node.children? .ops = none ∧ count ≠ 1 ∧ result = .error (node.malformed .ops)) := by
  unfold chainOperators at h
  cases hops : node.children? .ops with
  | some symbols =>
    simp only [hops] at h
    obtain ⟨rfl, rfl⟩ := finishes_pure_iff.1 h
    exact ⟨rfl, .inl ⟨rfl, nofun⟩⟩
  | none =>
    simp only [hops] at h
    by_cases hcount : count = 1
    · rw [if_pos hcount] at h
      obtain ⟨rfl, rfl⟩ := finishes_pure_iff.1 h
      exact ⟨rfl, .inl ⟨rfl, fun _ => hcount⟩⟩
    · rw [if_neg hcount] at h
      obtain ⟨rfl, rfl⟩ := finishes_fail_iff.1 h
      exact ⟨rfl, .inr ⟨rfl, hcount, rfl⟩⟩

/-- A chain ends with a flaw, or it begins with the value of its first operand and has one operator
for each of the operands after that. -/
theorem chain_finishes {allowed : Operator → Bool}
    (h : (chain allowed node scope).Finishes evaluator state result state') :
    (∃ error ∈ node.chainFlaws allowed, result = .error error) ∨
      ∃ first rest value between, node.children? .nodes = some (first :: rest) ∧
        ((node.children? .ops).getD []).length = rest.length ∧
        evaluator (.eval first scope) state = .done (.ok value) between ∧
        (foldChain node scope allowed value (((node.children? .ops).getD []).zip rest)).Finishes
          evaluator between result state' := by
  rcases finishes_require_bind.1 h with ⟨operands, hnodes, h⟩ | ⟨hnone, rfl, -⟩
  · rcases finishes_bind.1 h with ⟨symbols, after, hops, h⟩ | ⟨error, rfl, hops⟩
    · obtain ⟨rfl, ⟨⟨⟩, hcount⟩ | ⟨-, -, ⟨⟩⟩⟩ := chainOperators_finishes hops
      cases operands with
      | nil =>
        obtain ⟨rfl, -⟩ := finishes_fail_iff.1 h
        exact .inl ⟨_, by simp [Node.chainFlaws, hnodes], rfl⟩
      | cons first rest =>
        by_cases hlength : ((node.children? .ops).getD []).length = rest.length
        · simp only [hlength, ne_eq, not_true_eq_false, if_false] at h
          obtain ⟨value, between, hfirst, h⟩ := finishes_eval_bind.1 h
          exact .inr ⟨first, rest, value, between, hnodes, hlength, hfirst, h⟩
        · simp only [ne_eq, hlength, not_false_eq_true, if_true] at h
          obtain ⟨rfl, -⟩ := finishes_fail_iff.1 h
          exact .inl ⟨_, by simp [Node.chainFlaws, hnodes, hlength], rfl⟩
    · obtain ⟨-, ⟨⟨⟩, -⟩ | ⟨hnone, hcount, ⟨⟩⟩⟩ := chainOperators_finishes hops
      refine .inl ⟨_, ?_, rfl⟩
      match operands, hcount with
      | [], _ => simp [Node.chainFlaws, hnodes, hnone]
      | [_], hcount => exact absurd rfl hcount
      | _ :: _ :: _, _ => simp [Node.chainFlaws, hnodes, hnone]
  · exact .inl ⟨_, by simp [Node.chainFlaws, hnone], rfl⟩

theorem chain_ownEnd {allowed : Operator → Bool} (hkind : node.kind.isChain = true)
    (hflaws : node.flaws = node.chainFlaws allowed)
    (h : (chain allowed node scope).Finishes evaluator state result state') :
    OwnEnd node result := by
  rcases chain_finishes h with
    ⟨error, hmem, rfl⟩ | ⟨first, rest, value, between, hnodes, hlength, -, h⟩
  · exact .flaw (hflaws ▸ hmem)
  have hchain : node.flaws = ((node.children? .ops).getD []).flatMap fun symbol =>
      node.flaw .ops (symbol.allowedOperator? allowed) := by
    simp only [hflaws, Node.chainFlaws, hnodes, hlength, if_true]
  rcases foldChain_finishes h with
    ⟨pair, hmem, hnone, rfl⟩ | ⟨error, rfl, herror⟩ | ⟨⟨value, rfl⟩, hallowed⟩
  · refine .flaw ?_
    rw [hchain, List.mem_flatMap]
    exact ⟨pair.1, (List.of_mem_zip hmem).1, by simp [hnone]⟩
  · have hoperates : node.kind.operates = true := by
      cases hk : node.kind <;> rw [hk] at hkind <;> first | rfl | cases hkind
    exact .operands hoperates (.inl hkind) herror
  · refine .value ?_ value
    rw [hchain, List.flatMap_eq_nil_iff]
    intro symbol hsymbol
    -- Each symbol stands before an operand.
    rw [← List.map_fst_zip (Nat.le_of_eq hlength)] at hsymbol
    obtain ⟨pair, hmem, rfl⟩ := List.mem_map.1 hsymbol
    obtain ⟨operator, hoperator⟩ := hallowed pair hmem
    rw [hoperator, Node.flaw_some]

/-! ### Functions -/

/-- A parameter has no text, or all of them have names. -/
theorem paramNames_finishes [Naming N T] {params : List Node} {result : Except EvalError (List N)}
    (h : (paramNames node params).Finishes evaluator state result state') :
    (∃ param ∈ params, param.text? .text = none ∧ result = .error (node.malformed .args)) ∨
      (∃ names, result = .ok names) ∧ ∀ param ∈ params, ∃ text, param.text? .text = some text := by
  induction params generalizing state state' result with
  | nil =>
    obtain ⟨rfl, -⟩ := finishes_pure_iff.1 h
    exact .inr ⟨⟨[], rfl⟩, fun _ => nofun⟩
  | cons param rest ih =>
    rcases finishes_require_bind.1 h with ⟨text, htext, h⟩ | ⟨hnone, heq, -⟩
    · have h := finishes_intern_bind.1 h
      rcases finishes_bind.1 h with ⟨names, between, hnames, h⟩ | ⟨error, rfl, hnames⟩
      · obtain ⟨rfl, -⟩ := finishes_pure_iff.1 h
        rcases ih hnames with ⟨_, _, _, ⟨⟩⟩ | ⟨-, hrest⟩
        exact .inr ⟨⟨_, rfl⟩, List.forall_mem_cons.2 ⟨⟨text, htext⟩, hrest⟩⟩
      · rcases ih hnames with ⟨other, hmem, hnone, ⟨⟩⟩ | ⟨⟨_, ⟨⟩⟩, -⟩
        exact .inl ⟨other, List.mem_cons_of_mem _ hmem, hnone, rfl⟩
    · exact .inl ⟨param, List.mem_cons_self, hnone, heq⟩

theorem anonymousFunction_ownEnd [Naming N T] (hkind : node.kind = .anonymousFunction)
    (h : (anonymousFunction node scope).Finishes evaluator state result state') :
    OwnEnd node result := by
  have hflaws : node.flaws = (((node.children? .args).getD []).flatMap fun param =>
      node.flaw .args (param.text? .text)) ++ node.flaw .body (node.child? .body) := by
    simp only [Node.flaws, hkind]
  have hparams {param : Node} (hmem : param ∈ (node.children? .args).getD [])
      (hnone : param.text? .text = none) : node.malformed .args ∈ node.flaws := by
    rw [hflaws, List.mem_append, List.mem_flatMap]
    exact .inl ⟨param, hmem, by simp [hnone]⟩
  rcases finishes_bind.1 h with ⟨names, between, hnames, h⟩ | ⟨error, rfl, hnames⟩
  · rcases paramNames_finishes hnames with ⟨_, _, _, ⟨⟩⟩ | ⟨-, htexts⟩
    refine .require (fun hnone => by simp [hflaws, hnone]) h fun body hbody h => ?_
    obtain ⟨rfl, -⟩ := finishes_pure_iff.1 h
    refine .value ?_ _
    rw [hflaws, hbody, Node.flaw_some, List.append_nil, List.flatMap_eq_nil_iff]
    intro param hmem
    obtain ⟨text, htext⟩ := htexts param hmem
    rw [htext, Node.flaw_some]
  · rcases paramNames_finishes hnames with ⟨param, hmem, hnone, ⟨⟩⟩ | ⟨⟨_, ⟨⟩⟩, -⟩
    exact .flaw (hparams hmem hnone)

/-- Arguments give no error but those of the requests. -/
theorem exists_values {nodes : List Node} {result : Except EvalError (List (Value N))}
    (h : (Action.values scope nodes).Finishes evaluator state result state') :
    ∃ values, result = .ok values := by
  induction nodes generalizing state state' result with
  | nil =>
    obtain ⟨rfl, -⟩ := finishes_pure_iff.1 h
    exact ⟨[], rfl⟩
  | cons first rest ih =>
    obtain ⟨value, between, -, h⟩ := finishes_eval_bind.1 h
    rcases finishes_bind.1 h with ⟨values, after, -, h⟩ | ⟨error, rfl, hvalues⟩
    · obtain ⟨rfl, -⟩ := finishes_pure_iff.1 h
      exact ⟨value :: values, rfl⟩
    · obtain ⟨values, ⟨⟩⟩ := ih hvalues

theorem functionCall_ownEnd (hkind : node.kind = .functionCall)
    (h : (functionCall node scope).Finishes evaluator state result state') :
    OwnEnd node result := by
  have hflaws : node.flaws = node.flaw .callee (node.child? .callee) := by
    simp only [Node.flaws, hkind]
  refine .require (fun hnone => by simp [hflaws, hnone]) h fun callee hcallee h => ?_
  obtain ⟨function, between, -, h⟩ := finishes_eval_bind.1 h
  rcases finishes_bind.1 h with ⟨args, after, -, h⟩ | ⟨error, rfl, hargs⟩
  · obtain ⟨value, last, -, h⟩ := finishes_ask_iff.1 h
    obtain ⟨rfl, -⟩ := finishes_pure_iff.1 h
    exact .value (by simp [hflaws, hcallee]) value
  · obtain ⟨args, ⟨⟩⟩ := exists_values hargs

/-! ### All kinds -/

/-- What a rule ends with, if no request of it fails, is one of the ends that it may come to. -/
theorem handler_ownEnd [DecidableEq N] [Naming N T]
    (h : (handler node.kind node scope).Finishes evaluator state result state') :
    OwnEnd node result := by
  cases hkind : node.kind with
  | program | block =>
    rw [hkind] at h
    exact statements_ownEnd (by simp only [Node.flaws, hkind]) h
  | stringLiteral =>
    rw [hkind] at h
    exact literal_ownEnd scope (by simp only [Node.flaws, hkind]) h fun _ h => .value h _
  | numberLiteral =>
    rw [hkind] at h
    exact literal_ownEnd scope (by simp only [Node.flaws, hkind]) h fun _ h => .value h _
  | boolLiteral =>
    rw [hkind] at h
    exact literal_ownEnd scope (by simp only [Node.flaws, hkind]) h fun _ h => .value h _
  | nullLiteral =>
    rw [hkind] at h
    obtain ⟨rfl, -⟩ := finishes_pure_iff.1 h
    exact .value (by simp only [Node.flaws, hkind]) .null
  | regexLiteral =>
    rw [hkind] at h
    exact literal_ownEnd scope (by simp only [Node.flaws, hkind]) h fun _ h => pattern_ownEnd h _
  | identifier =>
    rw [hkind] at h
    exact identifier_ownEnd hkind h
  | assignment =>
    rw [hkind] at h
    exact assignment_ownEnd hkind h
  | addition =>
    rw [hkind] at h
    exact chain_ownEnd (by rw [hkind]; rfl) (by simp only [Node.flaws, hkind]) h
  | multiplication =>
    rw [hkind] at h
    exact chain_ownEnd (by rw [hkind]; rfl) (by simp only [Node.flaws, hkind]) h
  | comparison =>
    rw [hkind] at h
    exact comparison_ownEnd hkind h
  | dereference =>
    rw [hkind] at h
    exact dereference_ownEnd hkind h
  | anonymousFunction =>
    rw [hkind] at h
    exact anonymousFunction_ownEnd hkind h
  | functionCall =>
    rw [hkind] at h
    exact functionCall_ownEnd hkind h
  | foreach =>
    rw [hkind] at h
    exact foreach_ownEnd hkind h
  | operator =>
    rw [hkind] at h
    obtain ⟨rfl, -⟩ := finishes_fail_iff.1 h
    exact .flaw (by simp only [Node.flaws, hkind, List.mem_singleton])

end Rules

end TreeScript
