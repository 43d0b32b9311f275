import TreeScript.Proofs.Lockstep.Rules
import TreeScript.Proofs.Names
import TreeScript.Proofs.Run.Ends
import TreeScript.Proofs.Scopes
import TreeScript.Regex.Engine

/-!
What an evaluation leaves as it was. A frame (`Frame`) says which names may be bound in which scopes
on the way from one state to another; all other bindings stay, no scope changes its parent, no name
is unbound, and the depth of calls is the same again. Every step of a rule stays in the frame of its
node: the names that the node writes, in the scope of the node (`Lockstep.frame`). A call stays in
the empty frame, since the scope of its body is new (`callWith_frame`). So the same holds of whole
runs (`evaluation_frame`), however they end and whatever functions they call.
-/

namespace TreeScript

section Framing

variable [PatternEngine]

/-- From one state to another, only the given names have been bound in the scopes that were there
before, and the rest of these scopes is as it was. -/
structure Frame (may : ScopeId → String → Prop) (before after : State) : Prop where
  names : before.names ≤ after.names
  callDepth : after.callDepth = before.callDepth
  size : before.store.scopes.size ≤ after.store.scopes.size
  parent : ∀ id, before.store.Has id → after.store.parent? id = before.store.parent? id
  scope : ∀ id, before.store.Has id → (∀ text, ¬ may id text) →
    after.store.scope? id = before.store.scope? id
  bound : ∀ id name, before.store.Has id → before.store.isLocal id name = true →
    after.store.isLocal id name = true
  value : ∀ id name, before.store.Has id →
    after.store.localValue? id name ≠ before.store.localValue? id name →
    ∃ text, may id text ∧ after.names.find? text = some name

namespace Frame

variable {may wider : ScopeId → String → Prop} {before between after : State} {id : ScopeId}
  {name : Name}

theorem has (h : Frame may before after) (hid : before.store.Has id) : after.store.Has id :=
  Nat.lt_of_lt_of_le hid h.size

theorem refl (may : ScopeId → String → Prop) (state : State) : Frame may state state where
  names := le_rfl
  callDepth := rfl
  size := Nat.le_refl _
  parent _ _ := rfl
  scope _ _ _ := rfl
  bound _ _ _ h := h
  value _ _ _ h := absurd rfl h

theorem trans (h : Frame may before between) (h' : Frame may between after) :
    Frame may before after where
  names := h.names.trans h'.names
  callDepth := h'.callDepth.trans h.callDepth
  size := Nat.le_trans h.size h'.size
  parent id hid := (h'.parent id (h.has hid)).trans (h.parent id hid)
  scope id hid hmay := (h'.scope id (h.has hid) hmay).trans (h.scope id hid hmay)
  bound id name hid hb := h'.bound id name (h.has hid) (h.bound id name hid hb)
  value id name hid hne := by
    by_cases hlast : after.store.localValue? id name = between.store.localValue? id name
    · obtain ⟨text, hmay, hname⟩ := h.value id name hid (hlast ▸ hne)
      exact ⟨text, hmay, NameTable.find?_of_le h'.names hname⟩
    · exact h'.value id name (h.has hid) hlast

theorem mono (h : Frame may before after) (sub : ∀ id text, may id text → wider id text) :
    Frame wider before after where
  names := h.names
  callDepth := h.callDepth
  size := h.size
  parent := h.parent
  scope id hid hmay := h.scope id hid fun text ht => hmay text (sub id text ht)
  bound := h.bound
  value id name hid hne :=
    let ⟨text, hmay, hname⟩ := h.value id name hid hne
    ⟨text, sub id text hmay, hname⟩

/-- Where the scopes that were there stay the same, nothing has been bound in them. -/
theorem of_scope? (names : before.names ≤ after.names)
    (callDepth : after.callDepth = before.callDepth)
    (size : before.store.scopes.size ≤ after.store.scopes.size)
    (scope : ∀ id, before.store.Has id → after.store.scope? id = before.store.scope? id) :
    Frame may before after where
  names := names
  callDepth := callDepth
  size := size
  parent id hid := by rw [Store.parent?, scope id hid, Store.parent?]
  scope id hid _ := scope id hid
  bound id name hid h := by
    rw [Store.isLocal, Store.localValue?] at h ⊢
    rwa [scope id hid]
  value id name hid hne := by
    rw [Store.localValue?, Store.localValue?, scope id hid] at hne
    exact absurd rfl hne

/-- To give out a name leaves all scopes as they are. -/
theorem intern (state : State) (text : String) :
    Frame may state { state with names := (state.names.intern text).2 } :=
  of_scope? (NameTable.le_intern _ _) rfl (Nat.le_refl _) fun _ _ => rfl

/-- To bind a name that may be bound stays in the frame. -/
theorem bind {state : State} {scope : ScopeId} {text : String} (value : Value)
    (hname : state.names.find? text = some name) (hmay : may scope text) :
    Frame may state { state with store := state.store.bind scope name value } where
  names := le_rfl
  callDepth := rfl
  size := Nat.le_of_eq Store.size_bind.symm
  parent id _ := state.store.parent?_bind scope id name value
  scope id _ hnot := by
    refine Store.scope?_bind_of_ne ?_
    rintro rfl
    exact hnot text hmay
  bound _ _ _ h := Store.isLocal_bind_iff.2 (.inr h)
  value id other _ hne := by
    rw [Store.localValue?_bind] at hne
    split at hne
    · rename_i h
      obtain ⟨rfl, -, rfl⟩ := h
      exact ⟨text, hmay, hname⟩
    · exact absurd rfl hne

end Frame

/-! ### Actions of rules -/

/-- A likeness of a run with itself that keeps account of the names given out. -/
def Likeness.naming : Likeness := ClosureLikeness.toLikeness {
  World := NameTable
  node _ := True
  name table text m n := m = n ∧ table.find? text = some m
  scope _ a b := a = b
  closure _ left right := left = right
  node_part _ _ := trivial
  node_body _ _ _ := trivial
  name_mono hle h := ⟨h.1, NameTable.find?_of_le hle h.2⟩
  scope_mono _ h := h
  closure_mono _ h := h
  function hparams _ hscope := by
    have hparams := hparams.imp fun _ _ ⟨_, heq, _⟩ => heq
    rw [List.forall₂_eq_eq_eq] at hparams
    rw [hparams, hscope] }

/-- Every value is like itself, whatever names there are. -/
theorem Likeness.naming_value (table : NameTable) (value : Value) :
    naming.value table value value :=
  .refl (fun _ => rfl) value

/-- The rule of a node goes in lockstep with itself. -/
theorem Lockstep.naming (node : Node) (scope : ScopeId) (table : NameTable) :
    Lockstep Likeness.naming node scope scope Likeness.naming.value table
      (Rules.handler node.kind node scope) (Rules.handler node.kind node scope) :=
  .handler trivial rfl

/-- Names of texts and bindings, as `Frame` reads them: what the action of a rule does to the state
stays in any frame that has room for what the node itself binds and for what is asked for. -/
theorem Lockstep.frame {may : ScopeId → String → Prop} {evaluator : Evaluator} {node : Node}
    {a b : ScopeId} {α β : Type} {alike : Likeness.naming.World → α → β → Prop}
    {table : Likeness.naming.World} {action : Action NameTable Name α}
    {action' : Action NameTable Name β}
    (h : Lockstep Likeness.naming node a b alike table action action')
    (hmay : ∀ text, node.boundText? = some text → may a text)
    (heval : ∀ part ∈ node.parts, ∀ state result state',
      evaluator (.eval part a) state = .done result state' → Frame may state state')
    (hcall : ∀ callee args state result state',
      evaluator (.call callee args) state = .done result state' → Frame may state state')
    {state state' : State} {result : Except EvalError α} (hle : table ≤ state.names)
    (hrun : action.run evaluator state = .done result state') : Frame may state state' := by
  induction h generalizing state with
  | ok _ | error _ =>
    cases hrun
    exact .refl may _
  | @intern table text next next' _ ih =>
    have hstep : Frame may state { state with names := (state.names.intern text).2 } :=
      .intern state text
    have hname := NameTable.find?_intern state.names text
    exact hstep.trans (ih _ _ _ (hle.trans hstep.names) ⟨rfl, hname⟩ le_rfl hrun)
  | @lookup table text m n next next' hname _ ih =>
    have hvalue := optionRel_refl (Likeness.naming_value table) (state.store.lookup a m)
    exact ih _ _ hvalue hle hrun
  | @bindName table text m n left right next next' hbound hname _ _ ih =>
    have hstep := Frame.bind left (NameTable.find?_of_le hle hname.2) (hmay text hbound)
    exact hstep.trans (ih () hle hrun)
  | @ask table request request' next next' hasks _ ih =>
    have hasked (result : Except EvalError Value) (state' : State)
        (h : evaluator request state = .done result state') : Frame may state state' := by
      cases hasks with
      | eval hpart => exact heval _ hpart _ _ _ h
      | call _ _ => exact hcall _ _ _ _ _ h
    rcases Outcome.andThen_eq_done hrun with ⟨value, between, hfirst, hrest⟩ | ⟨error, hfirst, -⟩
    · have hstep := hasked _ _ hfirst
      exact hstep.trans
        (ih _ _ _ (hle.trans hstep.names) (Likeness.naming_value _ value) le_rfl hrest)
    · exact hasked _ _ hfirst

/-! ### Runs -/

/-- The frame of a node in a scope: what the node writes, there. -/
def Node.frame (node : Node) (scope : ScopeId) (id : ScopeId) (text : String) : Prop :=
  id = scope ∧ node.Writes text

/-- A call binds nothing in the scopes that were there, if evaluations keep to their frames. -/
theorem callWith_frame {eval : Node → ScopeId → Eval Value} {limit : Option Nat}
    (heval : ∀ node scope state result state', eval node scope state = .done result state' →
      Frame (node.frame scope) state state')
    {callee : Value} {args : List Value} {state state' : State} {result : Except EvalError Value}
    (hrun : callWith eval limit callee args state = .done result state') :
    Frame (fun _ _ => False) state state' := by
  rcases callWith_cases limit callee args state with
    ⟨error, -, heq⟩ | ⟨closure, depth, -, -, heq⟩ | ⟨closure, -, -, heq⟩
  · rw [heq] at hrun
    cases hrun
    exact .refl _ _
  · rw [heq] at hrun
    cases hrun
    exact .refl _ _
  · rw [heq] at hrun
    obtain ⟨inside, hbody, rfl⟩ := Outcome.mapState_eq_done hrun
    have hframe := heval _ _ _ _ _ hbody
    have hsize : (state.enter closure args).2.store.scopes.size = state.store.scopes.size + 1 :=
      Store.size_enter
    have hdepth : inside.callDepth = state.callDepth + 1 := hframe.callDepth
    refine .of_scope? hframe.names ?_ ?_ fun id hid => ?_
    · change inside.callDepth - 1 = state.callDepth
      omega
    · have hle := hframe.size
      change state.store.scopes.size ≤ inside.store.scopes.size
      omega
    -- The body writes to its own scope, which is not among those that were there.
    · have hnew (text : String) :
          ¬ closure.body.frame (state.enter closure args).1 id text := by
        rintro ⟨hnew, -⟩
        exact hid.ne_next hnew
      have hin : (state.enter closure args).2.store.Has id := by
        have hid : id.index < state.store.scopes.size := hid
        rw [Store.Has]
        omega
      exact (hframe.scope id hin hnew).trans (Store.scope?_enter_of_has hid)

/-- An evaluation under the rules of the language keeps to the frame of its node. -/
theorem evalWithin_frame {mode : Mode} {nesting : Nat} {node : Node} {scope : ScopeId}
    {state state' : State} {result : Except EvalError Value}
    (hrun : (Interpreter.standard mode).evalWithin nesting node scope state = .done result state') :
    Frame (node.frame scope) state state' := by
  induction nesting generalizing node scope state result state' with
  | zero => cases hrun
  | succ nesting ih =>
    have hlockstep := Lockstep.naming node scope state.names
    refine hlockstep.frame (fun text h => ⟨rfl, .self h⟩) ?_ ?_ le_rfl hrun
    · intro part hpart state result state' h
      exact (ih h).mono fun id text hmay => ⟨hmay.1, .part hpart hmay.2⟩
    · intro callee args state result state' h
      exact (callWith_frame (fun _ _ _ _ _ h => ih h) h).mono fun _ _ => False.elim

/-- A call under the rules of the language changes no scope that was there. -/
theorem answer_call_frame {mode : Mode} {nesting : Nat} {callee : Value} {args : List Value}
    {state state' : State} {result : Except EvalError Value}
    (hrun : (Interpreter.standard mode).answer nesting (.call callee args) state =
      .done result state') : Frame (fun _ _ => False) state state' :=
  callWith_frame (fun _ _ _ _ _ h => evalWithin_frame h) hrun

/-- **What a run leaves as it was.** An evaluation in a scope, whether it ends with a value or with
an error, leaves every other scope that was there before as it was: its bindings and its parent. In
its own scope it binds no names but those that the node writes, and what was bound there stays
bound. A call changes no scope that was there before. -/
theorem evaluation_frame (mode : Mode) :
    (∀ node scope state result state',
      (Interpreter.standard mode).Ends (.eval node scope) state result state' →
      (∀ id, state.store.Has id → id ≠ scope →
        state'.store.scope? id = state.store.scope? id) ∧
      (state.store.Has scope →
        state'.store.parent? scope = state.store.parent? scope ∧
        (∀ name, state'.store.localValue? scope name ≠ state.store.localValue? scope name →
          ∃ text, node.Writes text ∧ state'.names.find? text = some name) ∧
        ∀ name, state.store.isLocal scope name = true →
          state'.store.isLocal scope name = true)) ∧
    ∀ callee args state result state',
      (Interpreter.standard mode).Ends (.call callee args) state result state' →
      ∀ id, state.store.Has id → state'.store.scope? id = state.store.scope? id := by
  constructor
  · rintro node scope state result state' ⟨nesting, hrun⟩
    have hframe := evalWithin_frame hrun
    refine ⟨fun id hid hne => hframe.scope id hid fun text hmay => hne hmay.1, fun hscope => ?_⟩
    refine ⟨hframe.parent scope hscope, fun name hne => ?_,
      fun name => hframe.bound scope name hscope⟩
    obtain ⟨text, hmay, hname⟩ := hframe.value scope name hscope hne
    exact ⟨text, hmay.2, hname⟩
  · rintro callee args state result state' ⟨nesting, hrun⟩ id hid
    have hframe := answer_call_frame hrun
    exact hframe.scope id hid fun _ => False.elim

def Node.assignNull (text : String) : Node :=
  ((new 0 .assignment).set .left (.node (leaf 1 .identifier text))).set .right
    (.node (new 2 .nullLiteral))

/-- A state with an outermost scope and one nested in it. -/
def State.nested : State :=
  { State.initial with store := (State.initial.store.addChild .global).2 }

end Framing

/-- An assignment in the inner scope, and a call of a function that consists of it, both leave the
outer scope as it was. -/
theorem evaluation_frame_assignNull :
    (∃ state', (Interpreter.standard .unlimited).Ends (.eval (.assignNull "x") ⟨1⟩) .nested
        (.ok .null) state' ∧ state'.store.isLocal ⟨1⟩ ⟨1⟩ = true ∧
        state'.store.scope? .global = State.nested.store.scope? .global) ∧
      ∃ state', (Interpreter.standard .unlimited).Ends
          (.call (.function ⟨[], .assignNull "x", ⟨1⟩⟩) []) .nested (.ok .null) state' ∧
        state'.store.isLocal ⟨2⟩ ⟨1⟩ = true ∧
        state'.store.scope? ⟨1⟩ = State.nested.store.scope? ⟨1⟩ := by
  have hassign : (Interpreter.standard .unlimited).Ends (.eval (.assignNull "x") ⟨1⟩) .nested
      (.ok .null) ⟨.ofTexts ["x"], State.nested.store.bind ⟨1⟩ ⟨1⟩ .null, 0⟩ := ⟨2, by rfl⟩
  have hcall : (Interpreter.standard .unlimited).Ends
      (.call (.function ⟨[], .assignNull "x", ⟨1⟩⟩) []) .nested (.ok .null)
      ⟨.ofTexts ["x"], (State.nested.store.addChild ⟨1⟩).2.bind ⟨2⟩ ⟨1⟩ .null, 0⟩ := ⟨2, by rfl⟩
  refine ⟨⟨_, hassign, by rfl, ?_⟩, ⟨_, hcall, by rfl, ?_⟩⟩
  · exact ((evaluation_frame .unlimited).1 _ _ _ _ _ hassign).1 .global (by decide) (by decide)
  · exact (evaluation_frame .unlimited).2 _ _ _ _ _ hcall ⟨1⟩ (by decide)

end TreeScript
