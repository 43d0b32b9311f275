import TreeScript.Proofs.Run.Finishes
import TreeScript.Proofs.Syntax.Flaws

/-!
How an assignment is carried out. Its left side names a variable, or it has a flaw
(`assignment_finishes`). If the variable is indexed, it is resolved first; then the index and the
right side are evaluated, and then the value that was resolved is written to. An assignment that has
come to its write (`IndexedWrite`) has all that the write takes, and the state it is made in. Before
that it may end because the variable is not defined or there is no right side
(`assignment_finishes_indexed`).
-/

namespace TreeScript

variable [PatternEngine]

open TreeScript.Action (finishes_require_bind finishes_require_bind_of_some finishes_eval_bind
  finishes_intern_bind finishes_bindName_bind finishes_finish_bind finishes_pure_iff finishes_bind
  finishes_access_iff finishes_fail_iff)

variable {T N : Type} [DecidableEq N] [Naming N T]

namespace State

/-- The name, or other key, that a text gets in a state. -/
def nameOf (state : State T N) (text : String) : N :=
  (Naming.intern state.names text).1

def named (state : State T N) (text : String) : State T N :=
  { state with names := (Naming.intern (N := N) state.names text).2 }

def bound (state : State T N) (scope : ScopeId) (name : N) (value : Value N) : State T N :=
  { state with store := state.store.bind scope name value }

end State

variable {evaluator : Evaluator T N} {node : Node} {scope : ScopeId} {state state' : State T N}
  {result : Except EvalError (Value N)}

/-- An assignment to an indexed variable, carried out from a state up to its write: the value that
the variable had at the beginning, the values of the index and of the right side, and the state
after the right side was evaluated. -/
structure IndexedWrite (evaluator : Evaluator T N) (node : Node) (scope : ScopeId)
    (state : State T N) where
  left : Node
  text : String
  current : Value N
  index : Option (Value N)
  /-- After the index was evaluated. -/
  middle : State T N
  right : Node
  value : Value N
  /-- After the right side was evaluated. -/
  before : State T N
  hleft : node.child? .left = some left
  hkind : left.kind = .dereference
  htext : left.assignedText? = some text
  hcurrent : state.store.lookup scope (state.nameOf text) = some current
  hindex : (Rules.optional scope (left.child? .index)).Finishes evaluator (state.named text)
    (.ok index) middle
  hright : node.child? .right = some right
  hvalue : evaluator (.eval right scope) middle = .done (.ok value) before

namespace Rules

section Steps

variable {α : Type} {last : Except EvalError α}

omit [Naming N T] in
/-- After a variable is resolved the action goes on with its value, or ends if it has none. -/
theorem finishes_resolve_bind {text : String} {name : N} {rest : Value N → Action T N α} :
    (resolve scope text name >>= rest).Finishes evaluator state last state' ↔
      (∃ value, state.store.lookup scope name = some value ∧
        (rest value).Finishes evaluator state last state') ∨
      state.store.lookup scope name = none ∧ last = .error (.undefinedName text) ∧
        state' = state :=
  finishes_access_iff.trans finishes_require_bind

omit [Naming N T] [DecidableEq N] in
/-- An index that may be absent has a value if it is there. -/
theorem finishes_optional_iff {node? : Option Node} {last : Except EvalError (Option (Value N))} :
    (optional scope node?).Finishes evaluator state last state' ↔
      (node? = none ∧ last = .ok none ∧ state' = state) ∨
      ∃ node value, node? = some node ∧ last = .ok (some value) ∧
        evaluator (.eval node scope) state = .done (.ok value) state' := by
  cases node? with
  | none =>
    refine finishes_pure_iff.trans ?_
    simp
  | some node =>
    refine finishes_eval_bind.trans ?_
    simp only [finishes_pure_iff]
    constructor
    · rintro ⟨value, between, hvalue, rfl, rfl⟩
      exact .inr ⟨node, value, rfl, rfl, hvalue⟩
    · rintro (⟨⟨⟩, -⟩ | ⟨_, value, ⟨⟩, rfl, hvalue⟩)
      exact ⟨value, state', hvalue, rfl, rfl⟩

omit [Naming N T] [DecidableEq N] in
/-- After an index that may be absent the action goes on. -/
theorem finishes_optional_bind {node? : Option Node} {rest : Option (Value N) → Action T N α} :
    (optional scope node? >>= rest).Finishes evaluator state last state' ↔
      ∃ index middle, (optional scope node?).Finishes evaluator state (.ok index) middle ∧
        (rest index).Finishes evaluator middle last state' := by
  refine finishes_bind.trans (or_iff_left ?_)
  rintro ⟨error, -, herror⟩
  rcases finishes_optional_iff.1 herror with ⟨-, heq, -⟩ | ⟨_, _, -, heq, -⟩
  · cases heq
  · cases heq

end Steps

/-- An assignment ends with a flaw of its left side, or this names a variable. -/
theorem assignment_finishes (h : (assignment node scope).Finishes evaluator state result state') :
    (∃ error ∈ node.assignedFlaws, result = .error error) ∨
      ∃ left text, node.child? .left = some left ∧ left.assignedText? = some text := by
  rcases finishes_require_bind.1 h with ⟨left, hleft, h⟩ | ⟨hnone, rfl, -⟩
  · cases hkind : left.kind with
    | identifier =>
      simp only [hkind] at h
      rcases finishes_require_bind.1 h with ⟨text, htext, -⟩ | ⟨hnone, rfl, -⟩
      · exact .inr ⟨left, text, hleft, by simp [Node.assignedText?, hkind, htext]⟩
      · exact .inl ⟨_, by simp [Node.assignedFlaws, hleft, hkind, hnone], rfl⟩
    | dereference =>
      simp only [hkind] at h
      rcases finishes_require_bind.1 h with ⟨target, htarget, h⟩ | ⟨hnone, rfl, -⟩
      · by_cases htargetKind : target.kind = .identifier
        · rw [if_neg (not_not_intro htargetKind)] at h
          rcases finishes_require_bind.1 h with ⟨text, htext, -⟩ | ⟨hnone, rfl, -⟩
          · refine .inr ⟨left, text, hleft, ?_⟩
            simp [Node.assignedText?, hkind, htarget, htargetKind, htext]
          · refine .inl ⟨_, ?_, rfl⟩
            simp [Node.assignedFlaws, hleft, hkind, htarget, htargetKind, hnone]
        · rw [if_pos htargetKind] at h
          obtain ⟨rfl, -⟩ := finishes_fail_iff.1 h
          exact .inl ⟨_, by simp [Node.assignedFlaws, hleft, hkind, htarget, htargetKind], rfl⟩
      · exact .inl ⟨_, by simp [Node.assignedFlaws, hleft, hkind, hnone], rfl⟩
    | _ =>
      simp only [hkind] at h
      obtain ⟨rfl, -⟩ := finishes_fail_iff.1 h
      exact .inl ⟨_, by simp [Node.assignedFlaws, hleft, hkind], rfl⟩
  · exact .inl ⟨_, by simp [Node.assignedFlaws, hnone], rfl⟩

/-- An assignment to a variable has the value of its right side, or there is no right side. -/
theorem assignment_finishes_variable {left : Node} {text : String}
    (hleft : node.child? .left = some left) (hkind : left.kind = .identifier)
    (htext : left.text? .text = some text)
    (h : (assignment node scope).Finishes evaluator state result state') :
    (node.child? .right = none ∧ result = .error (node.malformed .right)) ∨
      ∃ right value, node.child? .right = some right ∧ result = .ok value := by
  have h := (finishes_require_bind_of_some hleft).1 h
  simp only [hkind] at h
  have h := finishes_intern_bind.1 ((finishes_require_bind_of_some htext).1 h)
  rcases finishes_require_bind.1 h with ⟨right, hright, h⟩ | ⟨hnone, heq, -⟩
  · obtain ⟨value, before, -, h⟩ := finishes_eval_bind.1 h
    have h := finishes_bindName_bind.1 h
    obtain ⟨rfl, -⟩ := finishes_pure_iff.1 h
    exact .inr ⟨right, value, hright, rfl⟩
  · exact .inl ⟨hnone, heq⟩

/-- An assignment to an indexed variable ends because the variable is undefined or there is no right
side, or it comes to its write, and ends with the error of the write or after the value that was
written to is bound. -/
theorem assignment_finishes_indexed {left : Node} {text : String}
    (hleft : node.child? .left = some left) (hkind : left.kind = .dereference)
    (htext : left.assignedText? = some text)
    (h : (assignment node scope).Finishes evaluator state result state') :
    result = .error (.undefinedName text) ∨
      (node.child? .right = none ∧ result = .error (node.malformed .right)) ∨
      ∃ write : IndexedWrite evaluator node scope state, write.text = text ∧ write.left = left ∧
        ((∃ error, write.current.indexSet write.index write.value = .error error ∧
            result = .error error ∧ state' = write.before) ∨
          ∃ changed, write.current.indexSet write.index write.value = .ok changed ∧
            result = .ok write.value ∧
            state' = write.before.bound scope (state.nameOf text) changed) := by
  have h := (finishes_require_bind_of_some hleft).1 h
  simp only [hkind] at h
  obtain ⟨hidentifier, -⟩ | ⟨-, target, htarget, htargetKind, htargetText⟩ :=
    Node.assignedText?_cases htext
  · rw [hkind] at hidentifier
    cases hidentifier
  have h := (finishes_require_bind_of_some htarget).1 h
  rw [if_neg (not_not_intro htargetKind)] at h
  have h := finishes_intern_bind.1 ((finishes_require_bind_of_some htargetText).1 h)
  rcases finishes_resolve_bind.1 h with ⟨current, hcurrent, h⟩ | ⟨-, heq, -⟩
  · obtain ⟨index, middle, hindex, h⟩ := finishes_optional_bind.1 h
    rcases finishes_require_bind.1 h with ⟨right, hright, h⟩ | ⟨hnone, heq, -⟩
    · obtain ⟨value, before, hvalue, h⟩ := finishes_eval_bind.1 h
      let write : IndexedWrite evaluator node scope state :=
        { left, text, current, index, middle, right, value, before, hleft, hkind, htext, hcurrent,
          hindex, hright, hvalue }
      refine .inr (.inr ⟨write, rfl, rfl, ?_⟩)
      rcases finishes_finish_bind.1 h with ⟨changed, hchanged, h⟩ | ⟨error, herror, rfl, rfl⟩
      · have h := finishes_bindName_bind.1 h
        obtain ⟨rfl, rfl⟩ := finishes_pure_iff.1 h
        exact .inr ⟨changed, hchanged, rfl, rfl⟩
      · exact .inl ⟨error, herror, rfl, rfl⟩
    · exact .inr (.inl ⟨hnone, heq⟩)
  · exact .inl heq

end Rules

namespace Interpreter

variable {interpreter : Interpreter T N}

/-- The evaluation of a part that may be absent has ended: with its value, or at once if it is
absent. -/
def EndsOptional (interpreter : Interpreter T N) (node? : Option Node) (scope : ScopeId)
    (state : State T N) (value? : Option (Value N)) (state' : State T N) : Prop :=
  (node? = none ∧ value? = none ∧ state' = state) ∨
    ∃ node value, node? = some node ∧ value? = some value ∧
      interpreter.Ends (.eval node scope) state (.ok value) state'

theorem EndsOptional.of_finishes {node? : Option Node} {value? : Option (Value N)} {nesting : Nat}
    (h : (Rules.optional scope node?).Finishes (interpreter.answer nesting) state (.ok value?)
      state') : interpreter.EndsOptional node? scope state value? state' := by
  rcases Rules.finishes_optional_iff.1 h with
    ⟨hnone, heq, hstate⟩ | ⟨node, value, hnode, heq, hvalue⟩
  · exact .inl ⟨hnone, Except.ok.inj heq, hstate⟩
  · exact .inr ⟨node, value, hnode, Except.ok.inj heq, nesting, hvalue⟩

end Interpreter

end TreeScript
