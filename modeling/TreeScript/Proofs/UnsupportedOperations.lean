import TreeScript.Proofs.Run.OwnEnds
import TreeScript.Proofs.Values.Capabilities
import TreeScript.Regex.Engine

/-!
Evaluations that end because a capability is lacking. The operation of a node works on one value:
that of the first operand of a chain, of the left side of a comparison, of what is indexed or
iterated over, or of the variable of an indexed assignment (`WorksOn`). Sums, differences and
products are numbers or strings, which have the capabilities of arithmetic; so a chain in which an
operator has been applied does not end in this way any more (`foldChain_lacks`). An evaluation that
reports a lacking capability has it from a request, or the value that its own operation works on
lacks this capability (`capabilities_respected`).
-/

namespace TreeScript

open TreeScript.Action (finishes_require_bind finishes_eval_bind finishes_finish_bind
  finishes_pure_iff)

/-- The capabilities that the operations of a kind of nodes need. -/
def NodeKind.needs : NodeKind → List Capability
  | addition => [.addition, .subtraction]
  | multiplication => [.multiplication]
  | comparison => [.comparison]
  | dereference | assignment => [.indexedAccess]
  | foreach => [.iteration]
  | _ => []

/-- The part of a node whose value the operation of the node works on. -/
def Node.subject? (node : Node) : Option Node :=
  match node.kind with
  | .addition | .multiplication => (node.children? .nodes).bind List.head?
  | .comparison | .foreach => node.child? .left
  | .dereference => node.child? .target
  | _ => none

/-! ### Rules that report a lacking capability -/

namespace Rules

theorem isComparison_of_isAdditive {operator : Operator} (h : isAdditive operator = true) :
    operator.isComparison = false := by
  cases operator <;> first | rfl | cases h

theorem isComparison_of_isMultiplicative {operator : Operator}
    (h : isMultiplicative operator = true) : operator.isComparison = false := by
  cases operator <;> first | rfl | cases h

variable [PatternEngine] {T N : Type} {evaluator : Evaluator T N} {node : Node} {scope : ScopeId}
  {state state' : State T N} {capability : Capability} {kind : String}

/-- The value of a part of a node lacks a capability. -/
def PartLacks (evaluator : Evaluator T N) (part : Node) (scope : ScopeId) (state : State T N)
    (capability : Capability) (kind : String) : Prop :=
  ∃ value between, evaluator (.eval part scope) state = .done (.ok value) between ∧
    value.kind.supports capability = false ∧ kind = value.kindName

/-- The value that a chain goes on from lacks the capability that is reported. -/
theorem foldChain_lacks {allowed : Operator → Bool}
    (harithmetic : ∀ operator, allowed operator = true → operator.isComparison = false)
    {value : Value N} {pairs : List (Node × Node)}
    (h : (foldChain node scope allowed value pairs).Finishes evaluator state
      (.error (.unsupported capability kind)) state') :
    (∃ operator, allowed operator = true ∧ capability = .ofOperator operator) ∧
      value.kind.supports capability = false ∧ kind = value.kindName := by
  induction pairs generalizing value state with
  | nil =>
    obtain ⟨⟨⟩, -⟩ := finishes_pure_iff.1 h
  | cons pair rest ih =>
    rcases finishes_require_bind.1 h with ⟨operator, hoperator, h⟩ | ⟨-, ⟨⟩, -⟩
    obtain ⟨right, between, -, h⟩ := finishes_eval_bind.1 h
    rcases finishes_finish_bind.1 h with ⟨next, hnext, h⟩ | ⟨error, herror, heq, -⟩
    · -- The result of an operator has the capabilities of all operators that may follow.
      obtain ⟨⟨operator', hallowed', rfl⟩, hlacks, -⟩ := ih h
      have hallowed := (Option.filter_eq_some_iff.1 hoperator).2
      have hkind := Value.kind_of_binary (harithmetic operator hallowed) hnext
      rw [Value.supports_arithmetic (harithmetic operator' hallowed') hkind] at hlacks
      cases hlacks
    · cases heq
      obtain ⟨hlacks, rfl, rfl⟩ :=
        (Value.follows_binary operator value right).of_eq_unsupported herror
      exact ⟨⟨operator, (Option.filter_eq_some_iff.1 hoperator).2, rfl⟩, hlacks, rfl⟩

theorem chain_lacks {allowed : Operator → Bool}
    (harithmetic : ∀ operator, allowed operator = true → operator.isComparison = false)
    (h : (chain allowed node scope).Finishes evaluator state
      (.error (.unsupported capability kind)) state') :
    (∃ operator, allowed operator = true ∧ capability = .ofOperator operator) ∧
      ∃ first, (node.children? .nodes).bind List.head? = some first ∧
        PartLacks evaluator first scope state capability kind := by
  rcases chain_finishes h with
    ⟨error, hmem, heq⟩ | ⟨first, rest, value, between, hnodes, -, hfirst, h⟩
  · cases heq
    cases Node.AllMalformed.chainFlaws allowed node _ hmem
  · obtain ⟨hoperator, hlacks, hkind⟩ := foldChain_lacks harithmetic h
    exact ⟨hoperator, first, by rw [hnodes]; rfl, value, between, hfirst, hlacks, hkind⟩

theorem comparison_lacks (hkind : node.kind = .comparison)
    (h : (comparison node scope).Finishes evaluator state
      (.error (.unsupported capability kind)) state') :
    capability = .comparison ∧ ∃ left, node.child? .left = some left ∧
      PartLacks evaluator left scope state capability kind := by
  rcases comparison_finishes hkind h with
    ⟨_, hmem, ⟨⟩⟩ | ⟨-, left, value, between, operator, right, hleft, hvalue, hcomparison, heq⟩
  · cases Node.AllMalformed.flaws node _ hmem
  · obtain ⟨hlacks, rfl, rfl⟩ :=
      (Value.follows_compare hcomparison value right).of_eq_unsupported heq.symm
    exact ⟨rfl, left, hleft, value, between, hvalue, hlacks, rfl⟩

theorem dereference_lacks (hkind : node.kind = .dereference)
    (h : (dereference node scope).Finishes evaluator state
      (.error (.unsupported capability kind)) state') :
    capability = .indexedAccess ∧ ∃ target, node.child? .target = some target ∧
      PartLacks evaluator target scope state capability kind := by
  rcases dereference_finishes hkind h with
    ⟨_, hmem, ⟨⟩⟩ | ⟨-, target, value, between, index, htarget, hvalue, heq⟩
  · cases Node.AllMalformed.flaws node _ hmem
  · obtain ⟨hlacks, rfl, rfl⟩ := (Value.follows_indexGet value index).of_eq_unsupported heq.symm
    exact ⟨rfl, target, htarget, value, between, hvalue, hlacks, rfl⟩

theorem foreach_lacks [DecidableEq N] [Naming N T] (hkind : node.kind = .foreach)
    (h : (foreach node scope).Finishes evaluator state
      (.error (.unsupported capability kind)) state') :
    capability = .iteration ∧ ∃ left, node.child? .left = some left ∧
      PartLacks evaluator left scope state capability kind := by
  rcases foreach_finishes hkind h with
    ⟨_, hmem, ⟨⟩⟩ | ⟨-, left, value, between, hleft, hvalue, ⟨_, ⟨⟩⟩ | ⟨error, herror, heq⟩⟩
  · cases Node.AllMalformed.flaws node _ hmem
  · cases heq
    obtain ⟨hlacks, rfl, rfl⟩ := (Value.follows_iterate value).of_eq_unsupported herror
    exact ⟨rfl, left, hleft, value, between, hvalue, hlacks, rfl⟩

/-- An indexed assignment whose write reports a lacking capability has changed nothing since its
right side was evaluated. -/
theorem assignment_lacks [DecidableEq N] [Naming N T] (h : (assignment node scope).Finishes
      evaluator state (.error (.unsupported capability kind)) state') :
    capability = .indexedAccess ∧ ∃ write : IndexedWrite evaluator node scope state,
      write.current.kind.supports capability = false ∧ kind = write.current.kindName ∧
        state' = write.before := by
  rcases assignment_finishes h with ⟨error, hmem, heq⟩ | ⟨left, text, hleft, htext⟩
  · cases heq
    cases Node.AllMalformed.assignedFlaws node _ hmem
  rcases Node.assignedText?_cases htext with ⟨hvariable, hname⟩ | ⟨hindexed, -⟩
  · rcases assignment_finishes_variable hleft hvariable hname h with ⟨-, ⟨⟩⟩ | ⟨_, _, -, ⟨⟩⟩
  · rcases assignment_finishes_indexed hleft hindexed htext h with
      ⟨⟨⟩⟩ | ⟨-, ⟨⟩⟩ | ⟨write, -, -, hend⟩
    rcases hend with ⟨error, herror, heq, hstate⟩ | ⟨changed, -, ⟨⟩, -⟩
    cases heq
    obtain ⟨hlacks, rfl, rfl⟩ := (Value.follows_indexSet ..).of_eq_unsupported herror
    exact ⟨rfl, write, hlacks, rfl, hstate⟩

/-- A rule that reports a lacking capability has it of the part that its operation works on, or of
the variable of an indexed assignment. -/
theorem handler_lacks [DecidableEq N] [Naming N T]
    (h : (handler node.kind node scope).Finishes evaluator state
      (.error (.unsupported capability kind)) state') :
    capability ∈ node.kind.needs ∧
      ((∃ part, node.subject? = some part ∧
        PartLacks evaluator part scope state capability kind) ∨
      node.kind = .assignment ∧ ∃ write : IndexedWrite evaluator node scope state,
        write.current.kind.supports capability = false ∧ kind = write.current.kindName ∧
          state' = write.before) := by
  cases handler_ownEnd h with
  | flaw hmem => cases Node.AllMalformed.flaws node _ hmem
  | operands hoperates _ _ =>
    simp only [Node.subject?]
    cases hkind : node.kind with
    | addition =>
      rw [hkind] at h
      obtain ⟨⟨operator, hallowed, rfl⟩, hpart⟩ :=
        chain_lacks (fun _ => isComparison_of_isAdditive) h
      refine ⟨?_, .inl hpart⟩
      cases operator <;> first | decide | cases hallowed
    | multiplication =>
      rw [hkind] at h
      obtain ⟨⟨operator, hallowed, rfl⟩, hpart⟩ :=
        chain_lacks (fun _ => isComparison_of_isMultiplicative) h
      refine ⟨?_, .inl hpart⟩
      cases operator <;> first | decide | cases hallowed
    | comparison =>
      rw [hkind] at h
      obtain ⟨rfl, hpart⟩ := comparison_lacks hkind h
      exact ⟨by decide, .inl hpart⟩
    | dereference =>
      rw [hkind] at h
      obtain ⟨rfl, hpart⟩ := dereference_lacks hkind h
      exact ⟨by decide, .inl hpart⟩
    | foreach =>
      rw [hkind] at h
      obtain ⟨rfl, hpart⟩ := foreach_lacks hkind h
      exact ⟨by decide, .inl hpart⟩
    | assignment =>
      rw [hkind] at h
      obtain ⟨rfl, hwrite⟩ := assignment_lacks h
      exact ⟨by decide, .inr ⟨rfl, hwrite⟩⟩
    | _ =>
      rw [hkind] at hoperates
      cases hoperates

end Rules

/-! ### Evaluations that report a lacking capability -/

namespace Interpreter

variable [PatternEngine] {T N : Type}

/-- When the evaluation of a node ends in a state because its own operation fails, this is the value
that the operation works on. The variable of an indexed assignment is resolved first; then the index
and the right side are evaluated, and nothing has changed since then when the write fails. -/
inductive WorksOn [DecidableEq N] [Naming N T] (interpreter : Interpreter T N) (node : Node)
    (scope : ScopeId) (state : State T N) : Value N → State T N → Prop where
  | part {part : Node} {value : Value N} {between state' : State T N}
      (hsubject : node.subject? = some part)
      (hvalue : interpreter.Ends (.eval part scope) state (.ok value) between) :
      WorksOn interpreter node scope state value state'
  | variable {left right : Node} {text : String} {value written : Value N}
      {index : Option (Value N)} {middle state' : State T N} (hkind : node.kind = .assignment)
      (hleft : node.child? .left = some left) (hindexed : left.kind = .dereference)
      (htext : left.assignedText? = some text)
      (hvalue : state.store.lookup scope (state.nameOf text) = some value)
      (hindex : interpreter.EndsOptional (left.child? .index) scope (state.named text) index
        middle)
      (hright : node.child? .right = some right)
      (hwritten : interpreter.Ends (.eval right scope) middle (.ok written) state') :
      WorksOn interpreter node scope state value state'

variable {mode : Mode} {node : Node} {scope : ScopeId} {state state' : State}
  {capability : Capability} {kind : String}

/-- The rule of a node that reports a lacking capability works on a value that lacks it. -/
theorem worksOn_of_finishes {nesting : Nat}
    (h : (Rules.handler node.kind node scope).Finishes ((standard mode).answer nesting) state
      (.error (.unsupported capability kind)) state') :
    ∃ value, (standard mode).WorksOn node scope state value state' ∧
      capability ∈ node.kind.needs ∧ value.kind.supports capability = false ∧
        kind = value.kindName := by
  obtain ⟨hneeds, ⟨part, hsubject, value, between, hvalue, hlacks, hname⟩ |
    ⟨hkind, write, hlacks, hname, rfl⟩⟩ := Rules.handler_lacks h
  · exact ⟨value, .part hsubject ⟨nesting, hvalue⟩, hneeds, hlacks, hname⟩
  · refine ⟨write.current, ?_, hneeds, hlacks, hname⟩
    exact .variable hkind write.hleft write.hkind write.htext write.hcurrent
      (.of_finishes write.hindex) write.hright ⟨nesting, write.hvalue⟩

end Interpreter

/-- **Capabilities and operations agree.** An operation on a value that has the capability of the
operation, by the table and by the bits of its kind, never reports that a capability is lacking; on
any other value it always does, with the capability and the kind of the value, and a write leaves
such a value as it was. An evaluation that ends with such a report has it from a request, or its own
operation works on a value that lacks the capability that is reported. -/
theorem capabilities_respected [PatternEngine] (mode : Mode) :
    (∀ (kind : Kind) (capability : Capability), capability ∈ kind.capabilities ↔
      kind.capabilityBits &&& capability.bit = capability.bit) ∧
    (∀ (value : Value) (operation : Operation),
      (operation.capability ∈ value.kind.capabilities →
        ∀ lacking kind, operation.failure? value ≠ some (.unsupported lacking kind)) ∧
      (operation.capability ∉ value.kind.capabilities →
        operation.failure? value = some (.unsupported operation.capability value.kindName))) ∧
    (∀ (value : Value) (index : Option Value) (written : Value),
      .indexedAccess ∉ value.kind.capabilities → value.afterWrite index written = value) ∧
    ∀ node scope state capability kind state',
      (Interpreter.standard mode).Ends (.eval node scope) state
        (.error (.unsupported capability kind)) state' →
      (Interpreter.standard mode).PassesOn (.eval node scope) state
          (.error (.unsupported capability kind)) state' ∨
        ∃ value, (Interpreter.standard mode).WorksOn node scope state value state' ∧
          capability ∈ node.kind.needs ∧ capability ∉ value.kind.capabilities ∧
            kind = value.kindName := by
  refine ⟨Kind.mem_capabilities_iff_bits, ?_, ?_, ?_⟩
  · intro value operation
    rw [Kind.mem_capabilities_iff]
    constructor
    · intro h
      exact operation.failure?_ne_of_supports h
    · intro h
      exact operation.failure?_of_not_supports (Bool.eq_false_iff.2 h)
  · intro value index written h
    rw [Kind.mem_capabilities_iff] at h
    exact Value.afterWrite_of_not_supports (Bool.eq_false_iff.2 h) index written
  · intro node scope state capability kind state' hends
    rcases hends.finishes_or_passesOn with ⟨nesting, h⟩ | hpasses
    · obtain ⟨value, hworks, hneeds, hlacks, hkind⟩ := Interpreter.worksOn_of_finishes h
      have hnot : capability ∉ value.kind.capabilities := by
        rw [Kind.mem_capabilities_iff, hlacks]
        exact Bool.false_ne_true
      exact .inr ⟨value, hworks, hneeds, hnot, hkind⟩
    · exact .inl hpasses

/-- The sum of null and null. -/
def Node.sumOfNulls : Node :=
  ((new 0 .addition).set .nodes (.list [new 1 .nullLiteral, new 2 .nullLiteral])).set .ops
    (.list [leaf 3 .operator "+"])

/-- Strings can be iterated over, and null can neither be added to nor written to; this is why the
sum of null and null has no value. -/
theorem capabilities_respected_null :
    (∀ lacking kind, (Operation.iterate : Operation).failure? (.string ⟨"a"⟩) ≠
      some (.unsupported lacking kind)) ∧
    (Operation.add .null).failure? (.null : Value) = some (.unsupported .addition "null") ∧
    (.null : Value).afterWrite none (.string ⟨"a"⟩) = .null ∧
    ((Interpreter.standard .unlimited).PassesOn (.eval .sumOfNulls .global) .initial
        (.error (.unsupported .addition "null")) .initial ∨
      ∃ value,
        (Interpreter.standard .unlimited).WorksOn .sumOfNulls .global .initial value .initial ∧
        .addition ∈ Node.sumOfNulls.kind.needs ∧ .addition ∉ value.kind.capabilities ∧
          "null" = value.kindName) := by
  have hends : (Interpreter.standard .unlimited).Ends (.eval .sumOfNulls .global) .initial
      (.error (.unsupported .addition "null")) .initial := ⟨2, by rfl⟩
  obtain ⟨-, hoperations, hwrites, hreports⟩ := capabilities_respected .unlimited
  refine ⟨?_, ?_, ?_, hreports _ _ _ _ _ _ hends⟩
  · exact (hoperations _ .iterate).1 (by decide)
  · exact (hoperations .null (.add .null)).2 (by decide)
  · exact hwrites .null none (.string ⟨"a"⟩) (by decide)

end TreeScript
