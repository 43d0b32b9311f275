import TreeScript.Eval.Rules
import TreeScript.Proofs.Lockstep.Likeness

/-!
What the rules of the language do with a node, seen from outside: two actions go in lockstep
(`Lockstep`) if they take alike steps of the same sort, as long as the answers that they get are
alike. Such actions have only parts of the node evaluated, in the scope of the node; they bind only
the name that the node itself binds, there; and they never complain of the depth of calls. The
actions of the rules go in lockstep with themselves, in alike scopes (`Lockstep.handler`), and
whatever is to be shown of all rules follows by induction on that.
-/

namespace TreeScript

theorem Node.malformed_ne_callDepth {node : Node} {attr : Attr} (limit : Nat) :
    node.malformed attr ≠ .callDepth limit :=
  nofun

variable [PatternEngine] {N N' T T' : Type} [DecidableEq N] [Naming N T] [DecidableEq N']
  [Naming N' T'] {likeness : Likeness N N'} {node : Node} {a b : ScopeId} {w : likeness.World}
  {α β γ δ : Type}

/-- Requests of two actions for a node, one in each of two scopes: for the value of the same part of
the node there, or for alike calls. -/
inductive Likeness.Asks (likeness : Likeness N N') (node : Node) (a b : ScopeId)
    (w : likeness.World) : Request N → Request N' → Prop where
  | eval {part : Node} (hpart : part ∈ node.parts) :
      Asks likeness node a b w (.eval part a) (.eval part b)
  | call {callee : Value N} {callee' : Value N'} {args : List (Value N)} {args' : List (Value N')}
      (hcallee : likeness.value w callee callee')
      (hargs : List.Forall₂ (likeness.value w) args args') :
      Asks likeness node a b w (.call callee args) (.call callee' args')

/-- Two actions for a node, one in each of two scopes, take alike steps and end alike. -/
inductive Lockstep (likeness : Likeness N N') (node : Node) (a b : ScopeId) {α β : Type}
    (alike : likeness.World → α → β → Prop) :
    likeness.World → Action T N α → Action T' N' β → Prop where
  | ok {w : likeness.World} {left : α} {right : β} (h : alike w left right) :
      Lockstep likeness node a b alike w (.finish (.ok left)) (.finish (.ok right))
  | error {w : likeness.World} {error : EvalError} (h : ∀ limit, error ≠ .callDepth limit) :
      Lockstep likeness node a b alike w (.finish (.error error)) (.finish (.error error))
  | intern {w : likeness.World} {text : String} {next : N → Action T N α}
      {next' : N' → Action T' N' β}
      (h : ∀ w' m n, w ≤ w' → likeness.name w' text m n →
        Lockstep likeness node a b alike w' (next m) (next' n)) :
      Lockstep likeness node a b alike w (Action.intern text >>= next)
        (Action.intern text >>= next')
  | lookup {w : likeness.World} {text : String} {m : N} {n : N'}
      {next : Option (Value N) → Action T N α} {next' : Option (Value N') → Action T' N' β}
      (hname : likeness.name w text m n)
      (h : ∀ left right, Option.Rel (likeness.value w) left right →
        Lockstep likeness node a b alike w (next left) (next' right)) :
      Lockstep likeness node a b alike w (Action.lookup a m >>= next) (Action.lookup b n >>= next')
  | bindName {w : likeness.World} {text : String} {m : N} {n : N'} {left : Value N}
      {right : Value N'} {next : Unit → Action T N α} {next' : Unit → Action T' N' β}
      (hbound : node.boundText? = some text)
      (hname : likeness.name w text m n) (hvalue : likeness.value w left right)
      (h : ∀ done, Lockstep likeness node a b alike w (next done) (next' done)) :
      Lockstep likeness node a b alike w (Action.bindName a m left >>= next)
        (Action.bindName b n right >>= next')
  | ask {w : likeness.World} {request : Request N} {request' : Request N'}
      {next : Value N → Action T N α} {next' : Value N' → Action T' N' β}
      (hasks : likeness.Asks node a b w request request')
      (h : ∀ w' left right, w ≤ w' → likeness.value w' left right →
        Lockstep likeness node a b alike w' (next left) (next' right)) :
      Lockstep likeness node a b alike w (.ask request next) (.ask request' next')

namespace Lockstep

variable {alike : likeness.World → α → β → Prop} {alike' : likeness.World → γ → δ → Prop}

/-! ### Steps -/

/-- Actions in lockstep may be followed by actions in lockstep. -/
theorem bind {first : Action T N α} {first' : Action T' N' β} {next : α → Action T N γ}
    {next' : β → Action T' N' δ}
    (h : Lockstep likeness node a b alike w first first')
    (hnext : ∀ w' left right, w ≤ w' → alike w' left right →
      Lockstep likeness node a b alike' w' (next left) (next' right)) :
    Lockstep likeness node a b alike' w (first >>= next) (first' >>= next') := by
  induction h with
  | ok h => exact hnext _ _ _ le_rfl h
  | error h => exact .error h
  | intern _ ih =>
    exact .intern fun w' m n hle hname => ih w' m n hle hname fun _ _ _ hle' =>
      hnext _ _ _ (hle.trans hle')
  | lookup hname _ ih => exact .lookup hname fun left right hv => ih left right hv hnext
  | bindName hbound hname hvalue _ ih =>
    exact .bindName hbound hname hvalue fun done => ih done hnext
  | ask hasks _ ih =>
    exact .ask hasks fun w' left right hle hv => ih w' left right hle hv fun _ _ _ hle' =>
      hnext _ _ _ (hle.trans hle')

/-- What is required is the same for both actions. -/
theorem require {error : EvalError} (h : ∀ limit, error ≠ .callDepth limit) (needed : Option γ) :
    Lockstep likeness node a b (fun _ left right => left = right ∧ needed = some left) w
      (Action.require error needed) (Action.require error needed) := by
  cases needed with
  | some value => exact .ok ⟨rfl, rfl⟩
  | none => exact .error h

/-- Operations on values with alike results. -/
theorem finish {alike : likeness.World → Value N → Value N' → Prop}
    {left : Except EvalError (Value N)} {right : Except EvalError (Value N')}
    (h : SameResult (alike w) left right) (plain : Value.Plain left) :
    Lockstep likeness node a b alike w (.finish left) (.finish right) := by
  cases h with
  | ok h => exact .ok h
  | error error => exact .error fun limit he => plain.error limit (congrArg _ he)

theorem evalPart {part : Node} (h : part ∈ node.parts) :
    Lockstep likeness node a b likeness.value w (Action.eval part a) (Action.eval part b) :=
  .ask (.eval h) fun _ _ _ _ hv => .ok hv

theorem internText (text : String) :
    Lockstep likeness node a b (fun w => likeness.name w text) w (Action.intern text)
      (Action.intern text) :=
  .intern fun _ _ _ _ hname => .ok hname

theorem bindResult {text : String} {m : N} {n : N'} {left : Value N} {right : Value N'}
    (hbound : node.boundText? = some text) (hname : likeness.name w text m n)
    (hvalue : likeness.value w left right) :
    Lockstep likeness node a b (fun _ _ _ => True) w (Action.bindName a m left)
      (Action.bindName b n right) :=
  .bindName hbound hname hvalue fun _ => .ok trivial

/-! ### What handlers share -/

section Requirements

variable {other : Node} {attr : Attr}

theorem malformed : Lockstep likeness node a b alike w (Action.fail (other.malformed attr))
    (Action.fail (other.malformed attr)) :=
  .error Node.malformed_ne_callDepth

theorem requireText :
    Lockstep likeness node a b (fun _ left right => left = right ∧ other.text? attr = some left) w
      (other.requireText attr) (other.requireText attr) :=
  require Node.malformed_ne_callDepth _

theorem requireChild :
    Lockstep likeness node a b (fun _ left right => left = right ∧ other.child? attr = some left) w
      (other.requireChild attr) (other.requireChild attr) :=
  require Node.malformed_ne_callDepth _

theorem requireChildren :
    Lockstep likeness node a b
      (fun _ left right => left = right ∧ other.children? attr = some left) w
      (other.requireChildren attr) (other.requireChildren attr) :=
  require Node.malformed_ne_callDepth _

theorem requireSlotText :
    Lockstep likeness node a b
      (fun _ left right => left = right ∧ other.slotText? attr = some left) w
      (other.requireSlotText attr) (other.requireSlotText attr) :=
  require Node.malformed_ne_callDepth _

theorem requireOperator {allowed : Operator → Bool} {symbol : Option String} :
    Lockstep likeness node a b (fun _ left right => left = right ∧ allowed left = true) w
      (other.requireOperator attr allowed symbol) (other.requireOperator attr allowed symbol) := by
  unfold Node.requireOperator Action.require
  split
  · rename_i operator h
    exact .ok ⟨rfl, (Option.mem_filter_iff.1 h).2⟩
  · exact malformed

end Requirements

theorem sequence {last : Value N} {last' : Value N'} {nodes : List Node}
    (hparts : ∀ part ∈ nodes, part ∈ node.parts) (hlast : likeness.value w last last') :
    Lockstep likeness node a b likeness.value w (Action.sequence a last nodes)
      (Action.sequence b last' nodes) := by
  induction nodes generalizing w last last' with
  | nil => exact .ok hlast
  | cons part rest ih =>
    refine (evalPart (hparts part List.mem_cons_self)).bind ?_
    intro w' left right _ hv
    exact ih (fun other h => hparts other (List.mem_cons_of_mem part h)) hv

theorem values {nodes : List Node} (hparts : ∀ part ∈ nodes, part ∈ node.parts) :
    Lockstep likeness node a b (fun w => List.Forall₂ (likeness.value w)) w
      (Action.values a nodes) (Action.values b nodes) := by
  induction nodes generalizing w with
  | nil => exact .ok .nil
  | cons part rest ih =>
    have hrest := fun other h => hparts other (List.mem_cons_of_mem part h)
    refine (evalPart (hparts part List.mem_cons_self)).bind ?_
    intro w₁ left right _ hv
    refine (ih hrest).bind ?_
    intro w₂ lefts rights hle hvs
    exact .ok (.cons (likeness.value_mono hle hv) hvs)

/-! ### Statements -/

theorem statements (hk : node.kind = .program ∨ node.kind = .block) :
    Lockstep likeness node a b likeness.value w (Rules.statements node a)
      (Rules.statements node b) := by
  refine requireChildren.bind ?_
  rintro w' nodes _ - ⟨rfl, hnodes⟩
  refine sequence (fun part hpart => ?_) (likeness.data .null)
  rcases hk with hk | hk <;> simpa [Node.parts, hk, hnodes] using hpart

theorem loop {text : String} {item : N} {item' : N'} {body : Node}
    (hbound : node.boundText? = some text) (hname : likeness.name w text item item')
    (hbody : body ∈ node.parts) (texts : List Text) :
    Lockstep likeness node a b likeness.value w (Rules.loop a item body texts)
      (Rules.loop b item' body texts) := by
  induction texts generalizing w with
  | nil => exact .ok (likeness.data .null)
  | cons c rest ih =>
    have hc : likeness.value w (.string c) (.string c) := likeness.data (.string rfl)
    refine (bindResult hbound hname hc).bind ?_
    intro w₁ _ _ hle₁ _
    refine (evalPart hbody).bind ?_
    intro w₂ _ _ hle₂ _
    exact ih (likeness.name_mono (hle₁.trans hle₂) hname)

theorem foreach (hk : node.kind = .foreach) :
    Lockstep likeness node a b likeness.value w (Rules.foreach node a) (Rules.foreach node b) := by
  refine requireChild.bind ?_
  rintro w₁ left _ - ⟨rfl, hleft⟩
  have hpart : left ∈ node.parts := by simp [Node.parts, hk, hleft]
  refine (evalPart hpart).bind ?_
  intro w₂ iterated iterated' _ hv
  refine requireSlotText.bind ?_
  rintro w₃ text _ - ⟨rfl, htext⟩
  have hbound : node.boundText? = some text := by simp [Node.boundText?, hk, htext]
  refine (internText text).bind ?_
  intro w₄ item item' _ hname
  refine requireChild.bind ?_
  rintro w₅ body _ hle ⟨rfl, hbody⟩
  have hpart : body ∈ node.parts := by simp [Node.parts, hk, hbody]
  rw [(likeness.indistinct hv).iterate_eq]
  cases hpass : iterated'.iterate with
  | error error => exact .error fun limit he => Value.iterate_ne_callDepth _ limit (he ▸ hpass)
  | ok pass => exact loop hbound (likeness.name_mono hle hname) hpart pass.remaining

/-! ### Literals -/

theorem literal {α : Type} {read : String → Option α} {left : α → Value.Result N}
    {right : α → Value.Result N'}
    (h : ∀ content, SameResult Value.SameData (left content) (right content))
    (plain : ∀ content, Value.Plain (left content)) :
    Lockstep likeness node a b likeness.value w (Rules.literal read left node a)
      (Rules.literal read right node b) := by
  refine requireText.bind ?_
  rintro w₁ text _ - ⟨rfl, -⟩
  refine (require Node.malformed_ne_callDepth _).bind ?_
  rintro w₂ content _ - ⟨rfl, -⟩
  exact finish (likeness.of_sameData (h content)) (plain content)

theorem plain_pattern {N : Type} (source : String) :
    Value.Plain (Rules.pattern source : Except EvalError (Value N)) := by
  unfold Rules.pattern
  split
  · exact Value.plain_ok nofun
  · exact Value.plain_error fun _ => nofun

theorem pattern_sameData {N N' : Type} (source : String) :
    SameResult Value.SameData (Rules.pattern source : Except EvalError (Value N))
      (Rules.pattern source : Except EvalError (Value N')) := by
  unfold Rules.pattern
  split
  · exact .ok (.regex _)
  · exact .error _

/-! ### Variables -/

theorem resolve {text : String} {m : N} {n : N'} (hname : likeness.name w text m n) :
    Lockstep likeness node a b likeness.value w (Rules.resolve a text m)
      (Rules.resolve b text n) := by
  refine .lookup hname fun left right hv => ?_
  cases hv with
  | none => exact .error fun _ => nofun
  | some hv => exact .ok hv

theorem identifier :
    Lockstep likeness node a b likeness.value w (Rules.identifier node a)
      (Rules.identifier node b) := by
  refine requireText.bind ?_
  rintro w₁ text _ - ⟨rfl, -⟩
  exact (internText text).bind fun w₂ m n _ hname => resolve hname

theorem optional {part? : Option Node} (hpart : ∀ part ∈ part?, part ∈ node.parts) :
    Lockstep likeness node a b (fun w => Option.Rel (likeness.value w)) w
      (Rules.optional a part?) (Rules.optional b part?) := by
  cases part? with
  | none => exact .ok .none
  | some part => exact (evalPart (hpart part rfl)).bind fun w' left right _ hv => .ok (.some hv)

theorem assignment (hk : node.kind = .assignment) :
    Lockstep likeness node a b likeness.value w (Rules.assignment node a)
      (Rules.assignment node b) := by
  refine requireChild.bind ?_
  rintro w₁ left _ - ⟨rfl, hleft⟩
  have hright (right : Node) (h : node.child? .right = some right) : right ∈ node.parts := by
    simp [Node.parts, hk, h]
  cases hkind : left.kind with
  | identifier =>
    dsimp only
    refine requireText.bind ?_
    rintro w₂ text _ - ⟨rfl, htext⟩
    have hbound : node.boundText? = some text := by
      simp [Node.boundText?, Node.assignedText?, hk, hleft, hkind, htext]
    refine (internText text).bind ?_
    intro w₃ m n _ hname
    refine requireChild.bind ?_
    rintro w₄ right _ hle₄ ⟨rfl, h⟩
    refine (evalPart (hright right h)).bind ?_
    intro w₅ value value' hle₅ hv
    refine (bindResult hbound (likeness.name_mono (hle₄.trans hle₅) hname) hv).bind ?_
    intro w₆ _ _ hle₆ _
    exact .ok (likeness.value_mono hle₆ hv)
  | dereference =>
    dsimp only
    refine requireChild.bind ?_
    rintro w₂ target _ - ⟨rfl, htarget⟩
    split
    · exact malformed
    rename_i hvariable
    rw [not_not] at hvariable
    refine requireText.bind ?_
    rintro w₃ text _ - ⟨rfl, htext⟩
    have hbound : node.boundText? = some text := by
      simp [Node.boundText?, Node.assignedText?, hk, hleft, hkind, htarget, hvariable, htext]
    refine (internText text).bind ?_
    intro w₄ m n _ hname
    refine (resolve hname).bind ?_
    intro w₅ current current' hle₅ hcurrent
    have hindex (part : Node) (h : part ∈ left.child? .index) : part ∈ node.parts := by
      simp [Node.parts, Node.assignedIndex?, hk, hleft, hkind, Option.mem_def.1 h]
    refine (optional hindex).bind ?_
    intro w₆ index index' hle₆ hi
    refine requireChild.bind ?_
    rintro w₇ right _ hle₇ ⟨rfl, h⟩
    refine (evalPart (hright right h)).bind ?_
    intro w₈ value value' hle₈ hv
    have hle := hle₆.trans (hle₇.trans hle₈)
    have hi := likeness.option_mono (hle₇.trans hle₈) hi
    have hset := likeness.indexSet (likeness.value_mono hle hcurrent) hi hv
    refine (finish hset (Value.plain_indexSet ..)).bind ?_
    intro w₉ changed changed' hle₉ hchanged
    have hname := likeness.name_mono (hle₅.trans (hle.trans hle₉)) hname
    refine (bindResult hbound hname hchanged).bind ?_
    intro w₁₀ _ _ hle₁₀ _
    exact .ok (likeness.value_mono (hle₉.trans hle₁₀) hv)
  | _ =>
    dsimp only
    exact malformed

theorem dereference (hk : node.kind = .dereference) :
    Lockstep likeness node a b likeness.value w (Rules.dereference node a)
      (Rules.dereference node b) := by
  refine requireChild.bind ?_
  rintro w₁ target _ - ⟨rfl, htarget⟩
  have hpart : target ∈ node.parts := by simp [Node.parts, hk, htarget]
  refine (evalPart hpart).bind ?_
  intro w₂ value value' _ hv
  refine requireChild.bind ?_
  rintro w₃ index _ hle₃ ⟨rfl, hindex⟩
  have hpart : index ∈ node.parts := by simp [Node.parts, hk, hindex]
  refine (evalPart hpart).bind ?_
  intro w₄ i i' hle₄ hi
  have hv := likeness.value_mono (hle₃.trans hle₄) hv
  exact finish (likeness.indexGet hv hi) (Value.plain_indexGet ..)

/-! ### Operators -/

theorem foldChain {allowed : Operator → Bool} {value : Value N} {value' : Value N'}
    {pairs : List (Node × Node)}
    (hparts : ∀ pair ∈ pairs, pair.2 ∈ node.parts) (hv : likeness.value w value value') :
    Lockstep likeness node a b likeness.value w (Rules.foldChain node a allowed value pairs)
      (Rules.foldChain node b allowed value' pairs) := by
  induction pairs generalizing w value value' with
  | nil => exact .ok hv
  | cons pair rest ih =>
    obtain ⟨symbol, operand⟩ := pair
    refine requireOperator.bind ?_
    rintro w₁ operator _ hle₁ ⟨rfl, -⟩
    refine (evalPart (hparts _ List.mem_cons_self)).bind ?_
    intro w₂ right right' hle₂ hr
    have hv := likeness.value_mono (hle₁.trans hle₂) hv
    refine (finish (likeness.binary operator hv hr) (Value.plain_binary ..)).bind ?_
    intro w₃ combined combined' _ hc
    exact ih (fun other h => hparts other (List.mem_cons_of_mem _ h)) hc

theorem chainOperators (operands : Nat) :
    Lockstep likeness node a b (fun _ left right => left = right) w
      (Rules.chainOperators node operands) (Rules.chainOperators node operands) := by
  unfold Rules.chainOperators
  split
  · exact .ok rfl
  · split
    · exact .ok rfl
    · exact malformed

theorem chain (allowed : Operator → Bool)
    (hk : node.kind = .addition ∨ node.kind = .multiplication) :
    Lockstep likeness node a b likeness.value w (Rules.chain allowed node a)
      (Rules.chain allowed node b) := by
  refine requireChildren.bind ?_
  rintro w₁ operands _ - ⟨rfl, hnodes⟩
  have hparts (part : Node) (h : part ∈ operands) : part ∈ node.parts := by
    rcases hk with hk | hk <;> simpa [Node.parts, hk, hnodes] using h
  refine (chainOperators _).bind ?_
  intro w₂ symbols symbols' _ heq
  subst heq
  cases operands with
  | nil => exact malformed
  | cons first rest =>
    dsimp only
    split
    · exact malformed
    · refine (evalPart (hparts first List.mem_cons_self)).bind ?_
      intro w₃ value value' _ hv
      refine foldChain (fun pair h => hparts _ (List.mem_cons_of_mem first ?_)) hv
      exact (List.of_mem_zip h).2

theorem comparison (hk : node.kind = .comparison) :
    Lockstep likeness node a b likeness.value w (Rules.comparison node a)
      (Rules.comparison node b) := by
  refine requireChild.bind ?_
  rintro w₁ left _ - ⟨rfl, hleft⟩
  have hpart : left ∈ node.parts := by simp [Node.parts, hk, hleft]
  refine (evalPart hpart).bind ?_
  intro w₂ value value' _ hv
  refine requireOperator.bind ?_
  rintro w₃ operator _ hle₃ ⟨rfl, hcompares⟩
  refine requireChild.bind ?_
  rintro w₄ right _ hle₄ ⟨rfl, hright⟩
  have hpart : right ∈ node.parts := by simp [Node.parts, hk, hright]
  refine (evalPart hpart).bind ?_
  intro w₅ other other' hle₅ ho
  have hv := likeness.value_mono (hle₃.trans (hle₄.trans hle₅)) hv
  rw [Value.compare_eq_binary hcompares, Value.compare_eq_binary hcompares]
  exact finish (likeness.binary operator hv ho) (Value.plain_binary ..)

/-! ### Functions -/

theorem paramNames (params : List Node) :
    Lockstep likeness node a b likeness.Params w (Rules.paramNames node params)
      (Rules.paramNames node params) := by
  induction params generalizing w with
  | nil => exact .ok .nil
  | cons param rest ih =>
    refine (require Node.malformed_ne_callDepth _).bind ?_
    rintro w₁ text _ - ⟨rfl, -⟩
    refine (internText text).bind ?_
    intro w₂ m n _ hname
    refine ih.bind ?_
    intro w₃ names names' hle hnames
    exact .ok (.cons ⟨text, likeness.name_mono hle hname⟩ hnames)

theorem anonymousFunction (hk : node.kind = .anonymousFunction) (hnode : likeness.node node)
    (hscope : likeness.scope w a b) :
    Lockstep likeness node a b likeness.value w (Rules.anonymousFunction node a)
      (Rules.anonymousFunction node b) := by
  refine (paramNames _).bind ?_
  intro w₁ params params' hle₁ hparams
  refine requireChild.bind ?_
  rintro w₂ body _ hle₂ ⟨rfl, hbody⟩
  exact .ok (likeness.function (likeness.params_mono hle₂ hparams)
    (likeness.node_body hnode hk hbody) (likeness.scope_mono (hle₁.trans hle₂) hscope))

theorem functionCall (hk : node.kind = .functionCall) :
    Lockstep likeness node a b likeness.value w (Rules.functionCall node a)
      (Rules.functionCall node b) := by
  refine requireChild.bind ?_
  rintro w₁ callee _ - ⟨rfl, hcallee⟩
  have hpart : callee ∈ node.parts := by simp [Node.parts, hk, hcallee]
  refine (evalPart hpart).bind ?_
  intro w₂ value value' _ hv
  have hargs (part : Node) (h : part ∈ (node.children? .args).getD []) : part ∈ node.parts := by
    simp [Node.parts, hk, h]
  refine (values hargs).bind ?_
  intro w₃ args args' hle hvs
  exact .ask (.call (likeness.value_mono hle hv) hvs) fun _ _ _ _ hv => .ok hv

/-! ### All kinds -/

/-- The action of the rule for a node goes in lockstep with itself, in alike scopes. -/
theorem handler (hnode : likeness.node node) (hscope : likeness.scope w a b) :
    Lockstep likeness node a b likeness.value w (Rules.handler node.kind node a)
      (Rules.handler node.kind node b) := by
  cases hk : node.kind with
  | program => exact statements (.inl hk)
  | block => exact statements (.inr hk)
  | stringLiteral => exact literal (fun _ => .ok (.string rfl)) fun _ => Value.plain_ok nofun
  | numberLiteral =>
    exact literal (fun number => .ok (.number number)) fun _ => Value.plain_ok nofun
  | boolLiteral => exact literal (fun value => .ok (.bool value)) fun _ => Value.plain_ok nofun
  | nullLiteral => exact .ok (likeness.data .null)
  | regexLiteral => exact literal (fun _ => pattern_sameData _) fun _ => plain_pattern _
  | identifier => exact identifier
  | assignment => exact assignment hk
  | addition => exact chain Rules.isAdditive (.inl hk)
  | multiplication => exact chain Rules.isMultiplicative (.inr hk)
  | comparison => exact comparison hk
  | dereference => exact dereference hk
  | anonymousFunction => exact anonymousFunction hk hnode hscope
  | functionCall => exact functionCall hk
  | foreach => exact foreach hk
  | operator => exact malformed

end Lockstep

end TreeScript
