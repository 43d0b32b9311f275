import TreeScript.Proofs.Run.OwnEnds
import TreeScript.Proofs.Spelling
import TreeScript.Proofs.Syntax.Chains
import TreeScript.Regex.Engine

/-!
Attributes that hold what the rule for their node cannot use. A node with a flaw has no value, and
unless its evaluation is over before the flaw is reached, it ends with the error of a flaw
(`Ends.of_flaws`). Three attributes are not needed: the index of an assignment to an indexed
variable, the arguments of a call or of a function literal, and the operators of a chain with one
operand. Where such an attribute holds what the rule cannot use, it is taken as absent
(`Node.TakenAsAbsent`), although it is not: the node is evaluated as if the attribute were taken
away (`handler_eq_of_takenAsAbsent`). So an assignment whose index is no node appends.
-/

namespace TreeScript

section Attributes

variable [PatternEngine] {T N : Type} {node node' : Node}

/-- Of two nodes the second one is the first one without an attribute that the rule cannot use, but
can do without. -/
inductive Node.TakenAsAbsent : Node → Node → Prop where
  | args {node : Node} (hkind : node.kind = .functionCall ∨ node.kind = .anonymousFunction)
      (h : node.children? .args = none) : TakenAsAbsent node (node.without .args)
  | ops {node operand : Node} (hkind : node.kind.isChain = true)
      (hnodes : node.children? .nodes = some [operand]) (h : node.children? .ops = none) :
      TakenAsAbsent node (node.without .ops)
  | index {node left : Node} (hkind : node.kind = .assignment)
      (hleft : node.child? .left = some left) (hindexed : left.kind = .dereference)
      (h : left.child? .index = none) :
      TakenAsAbsent node (node.set .left (.node (left.without .index)))

/-! ### Attributes that are taken as absent -/

namespace Rules

theorem functionCall_without (h : node.children? .args = none) :
    (functionCall (node.without .args) : ScopeId → Action T N (Value N)) = functionCall node := by
  funext scope
  have hcallee : (node.without .args).child? .callee = node.child? .callee :=
    Node.child?_without_of_ne (by decide)
  unfold functionCall Node.requireChild
  rw [hcallee, Node.children?_without_self, h]
  rfl

theorem anonymousFunction_without [Naming N T] (h : node.children? .args = none) :
    (anonymousFunction (node.without .args) : ScopeId → Action T N (Value N)) =
      anonymousFunction node := by
  funext scope
  have hbody : (node.without .args).child? .body = node.child? .body :=
    Node.child?_without_of_ne (by decide)
  unfold anonymousFunction Node.requireChild
  rw [hbody, Node.children?_without_self, h]
  rfl

theorem chain_without {allowed : Operator → Bool} (h : node.children? .ops = none) :
    (chain allowed (node.without .ops) : ScopeId → Action T N (Value N)) = chain allowed node := by
  funext scope
  have hnodes : (node.without .ops).children? .nodes = node.children? .nodes :=
    Node.children?_without_of_ne (by decide)
  have hops (count : Nat) :
      (chainOperators (node.without .ops) count : Action T N (List Node)) =
        chainOperators node count := by
    unfold chainOperators
    rw [Node.children?_without_self, h]
    rfl
  have hkind : (node.without .ops).kind = node.kind := rfl
  have hfold (value : Value N) (pairs : List (Node × Node)) :
      (foldChain (node.without .ops) scope allowed value pairs : Action T N (Value N)) =
        foldChain node scope allowed value pairs :=
    foldChain_congr hkind value pairs
  simp only [chain, Node.requireChildren, hnodes, hops, hfold, Node.malformed_without]

/-- What is required and is there is what the action goes on with. -/
theorem require_some_bind {α β : Type} (error : EvalError) (value : α) (rest : α → Action T N β) :
    Action.require error (some value) >>= rest = rest value := rfl

theorem assignment_without [DecidableEq N] [Naming N T] {left : Node}
    (hleft : node.child? .left = some left) (hindexed : left.kind = .dereference)
    (h : left.child? .index = none) :
    (assignment (node.set .left (.node (left.without .index))) :
      ScopeId → Action T N (Value N)) = assignment node := by
  funext scope
  have hkind : (left.without .index).kind = .dereference := hindexed
  have hright : (node.set .left (.node (left.without .index))).child? .right = node.child? .right :=
    Node.child?_set_of_ne (by decide)
  have htarget : (left.without .index).child? .target = left.child? .target :=
    Node.child?_without_of_ne (by decide)
  simp only [assignment, Node.requireChild, Node.child?_set_self, hleft, require_some_bind, hkind,
    hindexed, hright, htarget, Node.child?_without_self, h, Node.malformed_set,
    Node.malformed_without]

/-- A rule does the same whether an attribute that it can do without is absent or cannot be
used. -/
theorem handler_eq_of_takenAsAbsent [DecidableEq N] [Naming N T] (h : node.TakenAsAbsent node') :
    (handler node'.kind node' : ScopeId → Action T N (Value N)) = handler node.kind node := by
  cases h with
  | args hkind h =>
    change (handler node.kind (node.without .args) : ScopeId → Action T N (Value N)) = _
    rcases hkind with hkind | hkind
    · rw [hkind]
      exact functionCall_without h
    · rw [hkind]
      exact anonymousFunction_without h
  | ops hkind hnodes h =>
    change (handler node.kind (node.without .ops) : ScopeId → Action T N (Value N)) = _
    cases hchain : node.kind with
    | addition => exact chain_without h
    | multiplication => exact chain_without h
    | _ =>
      rw [hchain] at hkind
      cases hkind
  | @index left hkind hleft hindexed h =>
    change (handler node.kind (node.set .left (.node (left.without .index))) :
      ScopeId → Action T N (Value N)) = _
    rw [hkind]
    exact assignment_without hleft hindexed h

end Rules

/-! ### Evaluations -/

namespace Interpreter

variable [DecidableEq N] [Naming N T] {mode : Mode} {scope : ScopeId} {state state' : State T N}
  {result : Except EvalError (Value N)}

/-- A node with an attribute that is taken as absent is evaluated as if it were. -/
theorem evalWithin_eq_of_takenAsAbsent (h : node.TakenAsAbsent node') (nesting : Nat) :
    (standard mode T N).evalWithin nesting node' scope =
      (standard mode T N).evalWithin nesting node scope := by
  cases nesting with
  | zero => rfl
  | succ nesting =>
    funext state
    have hrule : (Rules.handler node'.kind node' scope : Action T N (Value N)) =
        Rules.handler node.kind node scope :=
      congrFun (Rules.handler_eq_of_takenAsAbsent h) scope
    rw [evalWithin_succ, evalWithin_succ]
    exact congrArg (Action.run _ · state) hrule

/-- A node with a flaw has no value. Unless its evaluation is over before, it ends with the error of
a flaw. -/
theorem Ends.of_flaws (h : (standard mode T N).Ends (.eval node scope) state result state')
    (hflaws : node.flaws ≠ []) :
    ∃ error, result = .error error ∧
      (error ∈ node.flaws ∨
        (standard mode T N).PassesOn (.eval node scope) state (.error error) state' ∨
        (node.kind = .assignment ∧ error.isUndefinedName = true) ∨
        (node.kind.isChain = true ∧ error.blamesOperands = true)) := by
  rcases h.finishes_or_passesOn with ⟨nesting, hrule⟩ | hpasses
  · cases Rules.handler_ownEnd hrule with
    | flaw hmem => exact ⟨_, rfl, .inl hmem⟩
    | value hsound _ => exact absurd hsound hflaws
    | undefinedName hearly text =>
      exact ⟨_, rfl, .inr (.inr (.inl ⟨hearly.resolve_right hflaws, rfl⟩))⟩
    | invalidPattern hsound _ _ => exact absurd hsound hflaws
    | operands _ hearly herror =>
      exact ⟨_, rfl, .inr (.inr (.inr ⟨hearly.resolve_right hflaws, herror⟩))⟩
  · obtain ⟨error, next, between, rfl, hprompts, hends⟩ := hpasses
    exact ⟨error, rfl, .inr (.inl ⟨error, next, between, rfl, hprompts, hends⟩)⟩

end Interpreter

/-- **Attributes that cannot be used.** Where a rule needs an attribute that is absent or holds what
the rule cannot use, the evaluation of the node never ends with a value. It ends with the error of
such an attribute, unless a request fails before, or the variable of an assignment is undefined, or
an operator of a chain was applied to operands that do not fit. Where a rule can do without an
attribute, and the attribute holds what the rule cannot use, the node is evaluated as if the
attribute were absent. -/
theorem unusable_attributes (mode : Mode) :
    (∀ node scope state error state', node.flaws ≠ [] →
      (Interpreter.standard mode).Ends (.eval node scope) state (.error error) state' →
      error ∈ node.flaws ∨
        (Interpreter.standard mode).PassesOn (.eval node scope) state (.error error) state' ∨
        (node.kind = .assignment ∧ error.isUndefinedName = true) ∨
        (node.kind.isChain = true ∧ error.blamesOperands = true)) ∧
    (∀ node scope state value state', node.flaws ≠ [] →
      ¬ (Interpreter.standard mode).Ends (.eval node scope) state (.ok value) state') ∧
    ∀ node node' scope state result state', node.TakenAsAbsent node' →
      ((Interpreter.standard mode).Ends (.eval node scope) state result state' ↔
        (Interpreter.standard mode).Ends (.eval node' scope) state result state') := by
  refine ⟨?_, ?_, ?_⟩
  · intro node scope state error state' hflaws hends
    obtain ⟨_, ⟨⟩, herror⟩ := hends.of_flaws hflaws
    exact herror
  · intro node scope state value state' hflaws hends
    obtain ⟨_, ⟨⟩, -⟩ := hends.of_flaws hflaws
  · intro node node' scope state result state' h
    unfold Interpreter.Ends
    simp only [Interpreter.answer_eval, Interpreter.evalWithin_eq_of_takenAsAbsent h]

/-- The assignment of a string to a variable `s` with an index that is a text and no node. -/
def Node.writeAtText : Node :=
  let left := ((new 1 .dereference).set .target (.node (leaf 2 .identifier "s"))).set .index
    (.text "0")
  ((new 0 .assignment).set .left (.node left)).set .right (.node (leaf 3 .stringLiteral "\"c\""))

end Attributes

/-- A variable without a text is reported; a write at an index that cannot be used appends. -/
theorem unusable_attributes_index :
    (EvalError.malformedNode .identifier .text ∈ (Node.new 0 .identifier).flaws ∨
      (Interpreter.standard .unlimited).PassesOn (.eval (.new 0 .identifier) .global) .initial
        (.error (.malformedNode .identifier .text)) .initial ∨
      ((Node.new 0 .identifier).kind = .assignment ∧
        (EvalError.malformedNode .identifier .text).isUndefinedName = true) ∨
      ((Node.new 0 .identifier).kind.isChain = true ∧
        (EvalError.malformedNode .identifier .text).blamesOperands = true)) ∧
    ¬ (Interpreter.standard .unlimited).Ends (.eval (.new 0 .identifier) .global) .initial
      (.ok .null) .initial ∧
    (Interpreter.standard .unlimited).Ends (.eval .writeAtText .global) (.spelled "ab")
      (.ok (.string ⟨"c"⟩)) ((State.spelled "ab").bound .global ⟨1⟩ (.string ⟨"abc"⟩)) := by
  obtain ⟨hreported, hvalue, habsent⟩ := unusable_attributes .unlimited
  refine ⟨hreported _ _ _ _ _ (by decide) ⟨1, by rfl⟩, hvalue _ _ _ _ _ (by decide), ?_⟩
  have htaken : Node.writeAtText.TakenAsAbsent _ := .index rfl rfl rfl rfl
  exact (habsent _ _ _ _ _ _ htaken).2 ⟨2, by rfl⟩

/-- A call whose arguments are a text and no nodes, of a function without parameters that returns
null. -/
def Node.callOnText : Node :=
  let callee := (new 1 .anonymousFunction).set .body (.node (new 2 .nullLiteral))
  ((new 0 .functionCall).set .args (.text "text")).set .callee (.node callee)

/-- The arguments of the call are present, are no list and no node, and are not reported: the call
has a value. -/
theorem callOnText_has_value :
    Node.callOnText.attr? .args = some (.text "text") ∧ Node.callOnText.children? .args = none ∧
      (Interpreter.standard .unlimited).Ends (.eval .callOnText .global) .initial (.ok .null)
        { State.initial with store := (State.initial.store.addChild .global).2 } :=
  ⟨by rfl, by rfl, 3, by rfl⟩

end TreeScript
