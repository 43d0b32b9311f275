import TreeScript.Proofs.Syntax.Chains
import TreeScript.Proofs.Syntax.WellFormed
import TreeScript.Regex.Engine

/-!
Runs of well-formed programs. The rule for a node complains if an attribute is missing or holds what
cannot be used; it does not complain of a well-formed node, whatever the values are that it gets
(`Rules.handler_uncomplaining`). Functions carry their bodies to other places of a run, so the state
has to be looked at as well: if the bodies of all functions that are bound are well-formed, then a
run comes to well-formed nodes only. An error that a run ends with has arisen at one of the requests
that the run came to, and calls do not look at attributes, so a well-formed program never ends with
the error of a malformed node (`wellFormed_run`).
-/

namespace TreeScript

/-! ### What literals hold -/

namespace Rules

variable {text : String}

theorem exists_inner? (h : 2 ≤ text.length) : ∃ body, inner? text = some body := by
  rw [← String.length_toList] at h
  unfold inner?
  match htext : text.toList with
  | [] | [_] =>
    rw [htext] at h
    simp at h
  | _ :: _ :: _ => exact ⟨_, rfl⟩

theorem exists_bool? (h : text = "true" ∨ text = "false") : ∃ value, bool? text = some value := by
  rcases h with rfl | rfl
  · exact ⟨true, rfl⟩
  · exact ⟨false, rfl⟩

theorem filter_ofSymbol? {symbol : Option String} {allowed : Operator → Bool} {operator : Operator}
    (hallowed : allowed operator = true) (h : symbol = some operator.symbol) :
    (symbol.bind Operator.ofSymbol?).filter allowed = some operator := by
  rw [h, Option.bind_some, Operator.ofSymbol?_symbol, Option.filter_some, if_pos hallowed]

end Rules

section Runs

variable [PatternEngine] {T N : Type}

/-! ### Actions that complain of no node -/

namespace Action

variable {α β : Type} {action : Action T N α} {error : EvalError}

/-- Two actions in a row fail where the first one does or what follows does. -/
theorem MayFail.of_bind {rest : α → Action T N β} (h : (action >>= rest).MayFail error) :
    action.MayFail error ∨ ∃ value, (rest value).MayFail error := by
  change (action.bind rest).MayFail error at h
  induction action with
  | finish result =>
    cases result with
    | ok value => exact .inr ⟨value, h⟩
    | error _ =>
      cases h
      exact .inl .finish
  | access change next _ ih =>
    cases h with
    | access state h => exact (ih state h).imp_left (.access state)
  | ask request next ih =>
    cases h with
    | ask value h => exact (ih value h).imp_left (.ask value)

/-- An action does not fail because a node is malformed, whatever answers it gets. -/
def Uncomplaining (action : Action T N α) : Prop :=
  ∀ kind attr, ¬ action.MayFail (.malformedNode kind attr)

namespace Uncomplaining

theorem bind {rest : α → Action T N β} (h : action.Uncomplaining)
    (hrest : ∀ value, (rest value).Uncomplaining) : (action >>= rest).Uncomplaining := by
  intro kind attr hfail
  rcases hfail.of_bind with hfail | ⟨value, hfail⟩
  · exact h kind attr hfail
  · exact hrest value kind attr hfail

theorem finish {result : Except EvalError α}
    (h : ∀ kind attr, result ≠ .error (.malformedNode kind attr)) :
    (Action.finish result : Action T N α).Uncomplaining := by
  intro kind attr hfail
  cases hfail
  exact h kind attr rfl

theorem ok (value : α) : (Action.finish (.ok value) : Action T N α).Uncomplaining :=
  finish fun _ _ => nofun

theorem access {change : State T N → State T N} {next : State T N → Action T N α}
    {keeps : ∀ state, (change state).callDepth = state.callDepth}
    (h : ∀ state, (next state).Uncomplaining) :
    (Action.access change next keeps).Uncomplaining := by
  intro kind attr hfail
  cases hfail with
  | access state hfail => exact h state kind attr hfail

theorem ask {request : Request N} {next : Value N → Action T N α}
    (h : ∀ value, (next value).Uncomplaining) : (Action.ask request next).Uncomplaining := by
  intro kind attr hfail
  cases hfail with
  | ask value hfail => exact h value kind attr hfail

theorem eval (node : Node) (scope : ScopeId) :
    (Action.eval node scope : Action T N (Value N)).Uncomplaining :=
  ask ok

theorem call (callee : Value N) (args : List (Value N)) :
    (Action.call callee args : Action T N (Value N)).Uncomplaining :=
  ask ok

theorem intern [Naming N T] (text : String) :
    (Action.intern text : Action T N N).Uncomplaining :=
  access fun _ => ok _

theorem lookup [DecidableEq N] (scope : ScopeId) (name : N) :
    (Action.lookup scope name : Action T N (Option (Value N))).Uncomplaining :=
  access fun _ => ok _

theorem bindName [DecidableEq N] (scope : ScopeId) (name : N) (value : Value N) :
    (Action.bindName scope name value : Action T N Unit).Uncomplaining :=
  access fun _ => ok _

/-- What is required and is there is no reason to complain. -/
theorem require {needed : Option α} {value : α} (h : needed = some value)
    {rest : α → Action T N β} (hrest : (rest value).Uncomplaining) :
    (Action.require error needed >>= rest).Uncomplaining := by
  subst h
  exact hrest

theorem requireOther (h : ∀ kind attr, error ≠ .malformedNode kind attr) (needed : Option α) :
    (Action.require error needed : Action T N α).Uncomplaining := by
  cases needed with
  | some value => exact ok value
  | none => exact finish fun kind attr heq => h kind attr (Except.error.inj heq)

/-- An operation on values complains of its operands only. -/
theorem operation {result : Except EvalError (Value N)} (h : Value.Operational result) :
    (Action.finish result : Action T N (Value N)).Uncomplaining :=
  finish fun kind attr heq => Bool.false_ne_true (h.error (.malformedNode kind attr) heq)

theorem sequence (scope : ScopeId) (last : Value N) (nodes : List Node) :
    (Action.sequence scope last nodes : Action T N (Value N)).Uncomplaining := by
  induction nodes generalizing last with
  | nil => exact ok last
  | cons node rest ih => exact (eval node scope).bind ih

theorem values (scope : ScopeId) (nodes : List Node) :
    (Action.values scope nodes : Action T N (List (Value N))).Uncomplaining := by
  induction nodes with
  | nil => exact ok []
  | cons node rest ih =>
    apply (eval node scope).bind
    intro value
    apply ih.bind
    intro values
    exact ok (value :: values)

end Uncomplaining

end Action

/-! ### Rules for well-formed nodes -/

namespace Rules

open TreeScript.Action (Uncomplaining)

variable {node : Node} (scope : ScopeId) {text : String}

theorem statements_uncomplaining {nodes : List Node} (h : node.children? .nodes = some nodes) :
    (statements node scope : Action T N (Value N)).Uncomplaining :=
  .require h (.sequence scope .null nodes)

theorem literal_uncomplaining {α : Type} {read : String → Option α} {content : α}
    {value : α → Value.Result N} (htext : node.text? .text = some text)
    (hcontent : read text = some content)
    (hvalue : (Action.finish (value content) : Action T N (Value N)).Uncomplaining) :
    (literal read value node scope : Action T N (Value N)).Uncomplaining :=
  .require htext (.require hcontent hvalue)

theorem pattern_uncomplaining (source : String) :
    (Action.finish (pattern source) : Action T N (Value N)).Uncomplaining := by
  refine .finish ?_
  intro kind attr heq
  unfold pattern at heq
  split at heq <;> cases heq

theorem optional_uncomplaining (node? : Option Node) :
    (optional scope node? : Action T N (Option (Value N))).Uncomplaining := by
  cases node? with
  | none => exact .ok none
  | some node =>
    apply (Uncomplaining.eval node scope).bind
    intro value
    exact .ok (some value)

section Names

variable [DecidableEq N]

theorem resolve_uncomplaining (text : String) (name : N) :
    (resolve scope text name : Action T N (Value N)).Uncomplaining := by
  apply (Uncomplaining.lookup scope name).bind
  intro found
  exact .requireOther (fun _ _ => EvalError.noConfusion) found

theorem loop_uncomplaining (item : N) (body : Node) (texts : List Text) :
    (loop scope item body texts : Action T N (Value N)).Uncomplaining := by
  induction texts with
  | nil => exact .ok Value.null
  | cons c rest ih =>
    apply (Uncomplaining.bindName scope item (.string c)).bind
    intro _
    apply (Uncomplaining.eval body scope).bind
    intro _
    exact ih

variable [Naming N T]

theorem identifier_uncomplaining (htext : node.text? .text = some text) :
    (identifier node scope : Action T N (Value N)).Uncomplaining := by
  refine .require htext ?_
  apply (Uncomplaining.intern text).bind
  intro name
  exact resolve_uncomplaining scope text name

theorem assignment_uncomplaining {left right : Node} (hleft : node.child? .left = some left)
    (htext : left.assignedText? = some text) (hright : node.child? .right = some right) :
    (assignment node scope : Action T N (Value N)).Uncomplaining := by
  refine .require hleft ?_
  rcases Node.assignedText?_cases htext with
    ⟨hkind, htext⟩ | ⟨hkind, target, htarget, htargetKind, htext⟩
  · simp only [hkind]
    refine .require htext ?_
    apply (Uncomplaining.intern text).bind
    intro name
    refine .require hright ?_
    apply (Uncomplaining.eval right scope).bind
    intro value
    apply (Uncomplaining.bindName scope name value).bind
    intro _
    exact .ok value
  · simp only [hkind]
    refine .require htarget ?_
    rw [if_neg (not_not_intro htargetKind)]
    refine .require htext ?_
    apply (Uncomplaining.intern text).bind
    intro name
    apply (resolve_uncomplaining scope text name).bind
    intro current
    apply (optional_uncomplaining scope _).bind
    intro index
    refine .require hright ?_
    apply (Uncomplaining.eval right scope).bind
    intro value
    apply (Uncomplaining.operation (Value.operational_indexSet ..)).bind
    intro changed
    apply (Uncomplaining.bindName scope name changed).bind
    intro _
    exact .ok value

theorem foreach_uncomplaining {left body : Node} (hleft : node.child? .left = some left)
    (hitem : node.slotText? .item = some text) (hbody : node.child? .body = some body) :
    (foreach node scope : Action T N (Value N)).Uncomplaining := by
  refine .require hleft ?_
  apply (Uncomplaining.eval left scope).bind
  intro iterated
  refine .require hitem ?_
  apply (Uncomplaining.intern text).bind
  intro item
  refine .require hbody (.bind (.finish ?_) ?_)
  · intro kind attr heq
    exact Bool.false_ne_true (Value.isTypeError_of_iterate heq)
  · intro pass
    exact loop_uncomplaining scope item body pass.remaining

end Names

theorem dereference_uncomplaining {target index : Node}
    (htarget : node.child? .target = some target) (hindex : node.child? .index = some index) :
    (dereference node scope : Action T N (Value N)).Uncomplaining := by
  refine .require htarget ?_
  apply (Uncomplaining.eval target scope).bind
  intro value
  refine .require hindex ?_
  apply (Uncomplaining.eval index scope).bind
  intro position
  exact .operation (Value.operational_indexGet ..)

theorem foldChain_uncomplaining {allowed : Operator → Bool} {pairs : List (Node × Node)}
    (h : ∀ pair ∈ pairs,
      ∃ operator, allowed operator = true ∧ pair.1.text? .text = some operator.symbol)
    (value : Value N) :
    (foldChain node scope allowed value pairs : Action T N (Value N)).Uncomplaining := by
  induction pairs generalizing value with
  | nil => exact .ok value
  | cons pair rest ih =>
    obtain ⟨⟨operator, hallowed, htext⟩, hrest⟩ := List.forall_mem_cons.1 h
    refine .require (filter_ofSymbol? hallowed htext) ?_
    apply (Uncomplaining.eval pair.2 scope).bind
    intro right
    apply (Uncomplaining.operation (Value.operational_binary ..)).bind
    exact ih hrest

theorem chain_uncomplaining {allowed : Operator → Bool} {operands : List Node}
    (h : node.Chained allowed operands) :
    (chain allowed node scope : Action T N (Value N)).Uncomplaining := by
  cases operands with
  | nil => cases h.count
  | cons first rest =>
    have hcount : ((node.children? .ops).getD []).length = rest.length :=
      Nat.add_right_cancel h.count
    rw [chain_eq h.nodes rfl hcount]
    apply (Uncomplaining.eval first scope).bind
    apply foldChain_uncomplaining
    intro pair hpair
    exact h.symbols pair.1 (List.of_mem_zip hpair).1

theorem comparison_uncomplaining {left right : Node} {operator : Operator}
    (hleft : node.child? .left = some left) (hright : node.child? .right = some right)
    (hop : node.slotText? .op = some operator.symbol) (h : operator.isComparison = true) :
    (comparison node scope : Action T N (Value N)).Uncomplaining := by
  refine .require hleft ?_
  apply (Uncomplaining.eval left scope).bind
  intro leftValue
  refine .require (filter_ofSymbol? h hop) (.require hright ?_)
  apply (Uncomplaining.eval right scope).bind
  intro rightValue
  exact .operation (Value.operational_compare ..)

theorem paramNames_uncomplaining [Naming N T] {params : List Node}
    (h : ∀ param ∈ params, ∃ text, param.text? .text = some text) :
    (paramNames node params : Action T N (List N)).Uncomplaining := by
  induction params with
  | nil => exact .ok []
  | cons param rest ih =>
    obtain ⟨⟨text, htext⟩, hrest⟩ := List.forall_mem_cons.1 h
    refine .require htext ?_
    apply (Uncomplaining.intern text).bind
    intro name
    apply (ih hrest).bind
    intro names
    exact .ok (name :: names)

theorem anonymousFunction_uncomplaining [Naming N T] {body : Node}
    (hparams : ∀ param ∈ (node.children? .args).getD [], ∃ text, param.text? .text = some text)
    (hbody : node.child? .body = some body) :
    (anonymousFunction node scope : Action T N (Value N)).Uncomplaining := by
  apply (paramNames_uncomplaining hparams).bind
  intro params
  exact .require hbody (.ok _)

theorem functionCall_uncomplaining {callee : Node} (h : node.child? .callee = some callee) :
    (functionCall node scope : Action T N (Value N)).Uncomplaining := by
  refine .require h ?_
  apply (Uncomplaining.eval callee scope).bind
  intro function
  apply (Uncomplaining.values scope _).bind
  intro args
  exact .call function args

/-- The rule for a well-formed node does not complain of it. -/
theorem handler_uncomplaining [DecidableEq N] [Naming N T] (h : node.WellFormed) :
    (handler node.kind node scope : Action T N (Value N)).Uncomplaining := by
  cases h with
  | statements hkind hnodes =>
    rcases hkind with hkind | hkind
    all_goals
      rw [hkind]
      exact statements_uncomplaining scope hnodes
  | quotedLiteral hkind htext hlength =>
    obtain ⟨content, hcontent⟩ := exists_inner? hlength
    rcases hkind with hkind | hkind
    · rw [hkind]
      exact literal_uncomplaining scope htext hcontent (.ok _)
    · rw [hkind]
      exact literal_uncomplaining scope htext hcontent (pattern_uncomplaining _)
  | numberLiteral hkind htext h =>
    obtain ⟨number, hnumber⟩ := h.exists_number?
    rw [hkind]
    exact literal_uncomplaining scope htext hnumber (.ok _)
  | boolLiteral hkind htext h =>
    obtain ⟨value, hvalue⟩ := exists_bool? h
    rw [hkind]
    exact literal_uncomplaining scope htext hvalue (.ok _)
  | nullLiteral hkind =>
    rw [hkind]
    exact .ok Value.null
  | identifier hkind htext =>
    rw [hkind]
    exact identifier_uncomplaining scope htext
  | assignment hkind hleft htext _ hright =>
    rw [hkind]
    exact assignment_uncomplaining scope hleft htext hright
  | addition hkind hchain | multiplication hkind hchain =>
    rw [hkind]
    exact chain_uncomplaining scope hchain
  | comparison hkind hleft hright hop hoperator =>
    rw [hkind]
    exact comparison_uncomplaining scope hleft hright hop hoperator
  | dereference hkind htarget hindex =>
    rw [hkind]
    exact dereference_uncomplaining scope htarget hindex
  | anonymousFunction hkind hparams hbody =>
    rw [hkind]
    exact anonymousFunction_uncomplaining scope hparams hbody
  | functionCall hkind hcallee =>
    rw [hkind]
    exact functionCall_uncomplaining scope hcallee
  | foreach hkind hleft hitem hbody =>
    rw [hkind]
    exact foreach_uncomplaining scope hleft hitem hbody

end Rules

/-! ### Runs -/

/-- A call that fails before a body is evaluated does not complain of a node. -/
theorem callWith_ne_malformed [DecidableEq N] {limit : Option Nat} {callee : Value N}
    {args : List (Value N)} {state state' : State T N} (kind : NodeKind) (attr : Attr) :
    callWith (fun _ _ _ => .exhausted) limit callee args state ≠
      .done (.error (.malformedNode kind attr)) state' := by
  unfold callWith
  split
  · split
    · split <;> nofun
    · nofun
  · nofun

/-- **Well-formed programs.** In a state where the bodies of all functions that are bound are
well-formed, the evaluation of a well-formed node never ends with the error of a malformed node,
with or without a limit on calls; the same is true of a call of a function with a well-formed body,
with arguments of this sort. However the run ends, the bodies of all functions that are bound are
well-formed again, and so is that of the result, if it is a function. -/
theorem wellFormed_run (mode : Mode) (request : Request) (state state' : State)
    (result : Except EvalError Value) (hrequest : request.Confined Node.WellFormed)
    (hstate : state.Confined Node.WellFormed)
    (h : (Interpreter.standard mode).Ends request state result state') :
    (∀ kind attr, result ≠ .error (.malformedNode kind attr)) ∧
      state'.Confined Node.WellFormed ∧
      ∀ value, result = .ok value → value.Confined Node.WellFormed := by
  refine ⟨?_, h.confined .wellFormed hrequest hstate⟩
  rintro kind attr rfl
  obtain ⟨origin, hreaches, hraises⟩ := h.reachesRaise
  have hconfined := hreaches.confined .wellFormed hrequest hstate
  cases hraises with
  | eval hfail =>
    cases hconfined.1 with
    | eval hnode => exact Rules.handler_uncomplaining _ hnode kind attr hfail
  | call hfail => exact callWith_ne_malformed kind attr (hfail _)

end Runs

def Node.twice (text : String) : Node :=
  ((new 0 .multiplication).set .nodes
    (.list [leaf 1 .identifier text, leaf 2 .numberLiteral "2"])).set .ops
      (.node (leaf 3 .operator "*"))

/-- A program that assigns a function that doubles its argument, and calls it with a truth value. -/
def Node.doubling : Node :=
  (new 4 .program).set .nodes <| .list
    [((new 5 .assignment).set .left (.node (leaf 6 .identifier "f"))).set .right
      (.node (((new 7 .anonymousFunction).set .args (.node (leaf 8 .identifier "x"))).set .body
        (.node (twice "x")))),
     ((new 9 .functionCall).set .callee (.node (leaf 10 .identifier "f"))).set .args
       (.node (leaf 11 .boolLiteral "true"))]

theorem Node.wellFormed_twice (text : String) : (twice text).WellFormed := by
  have hnumeral : Decimal.Numeral ['2'] :=
    .mk .absent (.whole (List.forall_mem_singleton.2 rfl) nofun) .absent
  refine .multiplication rfl ⟨rfl, rfl, ?_⟩ (List.forall_mem_cons.2 ⟨.identifier rfl rfl, ?_⟩)
  · exact List.forall_mem_singleton.2 ⟨.mul, rfl, rfl⟩
  · exact List.forall_mem_singleton.2 (.numberLiteral rfl rfl hnumeral)

theorem Node.wellFormed_doubling : doubling.WellFormed := by
  refine .statements (.inl rfl) rfl (List.forall_mem_cons.2 ⟨?_, List.forall_mem_singleton.2 ?_⟩)
  · refine .assignment rfl rfl rfl nofun rfl ?_
    exact .anonymousFunction rfl (List.forall_mem_singleton.2 ⟨"x", rfl⟩) rfl (wellFormed_twice "x")
  · refine .functionCall rfl rfl (.identifier rfl rfl) (List.forall_mem_singleton.2 ?_)
    exact .boolLiteral rfl rfl (.inl rfl)

/-- The program fails because of an operand, and not because of a node. The function that it has
bound has a well-formed body. -/
theorem wellFormed_run_doubling : ∃ state', (Interpreter.standard .unlimited).Ends
    (.eval .doubling .global) .initial (.error (.unsupported .multiplication "bool")) state' ∧
    state'.Confined Node.WellFormed := by
  have hends : ∃ state', (Interpreter.standard .unlimited).Ends (.eval .doubling .global) .initial
      (.error (.unsupported .multiplication "bool")) state' := ⟨_, 5, by rfl⟩
  obtain ⟨state', hends⟩ := hends
  have hrun := wellFormed_run .unlimited (.eval .doubling .global) .initial state' _
    (.eval Node.wellFormed_doubling) .initial hends
  exact ⟨state', hends, hrun.2.1⟩

end TreeScript
