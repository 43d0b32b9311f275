import TreeScript.Proofs.Lockstep.Correspondence
import TreeScript.Proofs.Scopes

/-!
Which bodies functions may have. If all functions that are bound anywhere have bodies of some sort,
and so has every function literal of the program, then all functions that turn up in a run have
bodies of that sort (`Correspondence.confined`). Any state has a bound on the sizes of such bodies
(`State.confined_sizeOf`).
-/

namespace TreeScript

/-! ### Nodes that are admitted -/

/-- A set of nodes that has the parts and the function bodies of all its nodes. -/
structure NodesClosed (admits : Node → Prop) : Prop where
  part : ∀ {whole part}, admits whole → part ∈ whole.parts → admits part
  body : ∀ {literal body}, admits literal → literal.kind = .anonymousFunction →
    literal.child? .body = some body → admits body

/-- All nodes. -/
theorem NodesClosed.all : NodesClosed fun _ => True where
  part _ _ := trivial
  body _ _ _ := trivial

/-- Nodes up to a size. -/
theorem NodesClosed.sizeOf_le (bound : Nat) : NodesClosed (sizeOf · ≤ bound) where
  part h hpart := Nat.le_trans (Nat.le_of_lt (Node.sizeOf_of_mem_parts hpart)) h
  body h _ hbody := Nat.le_trans (Nat.le_of_lt (Node.sizeOf_of_child? hbody)) h

variable [PatternEngine] {admits : Node → Prop}

/-! ### Bodies that are admitted -/

/-- If a value is a function, then its body is admitted. -/
def Value.Confined (admits : Node → Prop) (value : Value) : Prop :=
  ∀ closure, value = .function closure → admits closure.body

/-- Every function that is bound in a scope has a body that is admitted. -/
def State.Confined (admits : Node → Prop) (state : State) : Prop :=
  ∀ id name value, state.store.localValue? id name = some value → value.Confined admits

/-- A request for the value of a node that is admitted, or for a call with values whose bodies
are. -/
inductive Request.Confined (admits : Node → Prop) : Request → Prop where
  | eval {node : Node} {scope : ScopeId} (hnode : admits node) : Confined admits (.eval node scope)
  | call {callee : Value} {args : List Value} (hcallee : callee.Confined admits)
      (hargs : ∀ arg ∈ args, arg.Confined admits) : Confined admits (.call callee args)

theorem Value.Confined.lift {value : Value} (h : value.Confined admits) :
    value.Lift (fun left right => left = right ∧ admits left.body) value := by
  cases value with
  | function closure => exact .function ⟨rfl, h closure rfl⟩
  | _ => exact .data nofun

theorem Value.Lift.confined {left right : Value}
    (h : left.Lift (fun left right => left = right ∧ admits left.body) right) :
    left = right ∧ left.Confined admits := by
  cases h with
  | data h =>
    refine ⟨rfl, ?_⟩
    rintro closure rfl
    exact absurd rfl h
  | function h =>
    obtain ⟨rfl, hbody⟩ := h
    refine ⟨rfl, ?_⟩
    rintro closure hclosure
    cases hclosure
    exact hbody

theorem Value.Lift.confined_of_forall₂ {lefts rights : List Value}
    (h : List.Forall₂ (Value.Lift fun left right => left = right ∧ admits left.body) lefts rights) :
    ∀ value ∈ lefts, value.Confined admits := by
  induction h with
  | nil => exact fun _ hmem => absurd hmem List.not_mem_nil
  | cons hv _ ih => exact List.forall_mem_cons.2 ⟨hv.confined.2, ih⟩

theorem Value.Confined.mono {wider : Node → Prop} {value : Value} (h : value.Confined admits)
    (sub : ∀ node, admits node → wider node) : value.Confined wider :=
  fun closure hc => sub _ (h closure hc)

theorem Request.Confined.mono {wider : Node → Prop} {request : Request}
    (h : request.Confined admits) (sub : ∀ node, admits node → wider node) :
    request.Confined wider := by
  cases h with
  | eval hnode => exact .eval (sub _ hnode)
  | call hcallee hargs => exact .call (hcallee.mono sub) fun arg harg => (hargs arg harg).mono sub

namespace State.Confined

variable {state : State}

theorem mono {wider : Node → Prop} (h : state.Confined admits)
    (sub : ∀ node, admits node → wider node) : state.Confined wider :=
  fun id name value hbound => (h id name value hbound).mono sub

/-- At the beginning nothing is bound. -/
theorem initial : State.Confined admits .initial := by
  intro id name value hbound
  rw [State.initial, Store.addGlobal, Store.localValue?_add] at hbound
  cases hbound

theorem bind {id : ScopeId} {name : Name} {value : Value} (h : state.Confined admits)
    (hvalue : value.Confined admits) :
    State.Confined admits { state with store := state.store.bind id name value } := by
  intro other key bound hbound
  rw [Store.localValue?_bind] at hbound
  split at hbound
  · cases hbound
    exact hvalue
  · exact h other key bound hbound

theorem addChild {id : ScopeId} (h : state.Confined admits) :
    State.Confined admits { state with store := (state.store.addChild id).2 } := by
  intro other key bound hbound
  rw [Store.localValue?_addChild] at hbound
  exact h other key bound hbound

/-- To enter a function binds only its arguments. -/
theorem enter {closure : Closure} {args : List Value} (h : state.Confined admits)
    (hargs : ∀ arg ∈ args, arg.Confined admits) : (state.enter closure args).2.Confined admits :=
  Store.foldl_bind_induction (motive := fun store => State.Confined admits { state with store }) _ _
    h.addChild fun _ _ hpair hstore => hstore.bind (hargs _ (List.of_mem_zip hpair).2)

end State.Confined

/-! ### Sizes of bodies -/

/-- The body of a function is smaller than the function. -/
theorem Value.confined_sizeOf (value : Value) : value.Confined (sizeOf · ≤ sizeOf value) := by
  rintro ⟨params, body, scope⟩ rfl
  simp only [Value.function.sizeOf_spec, Closure.mk.sizeOf_spec]
  omega

/-- What is bound in a store is smaller than the store. -/
theorem Store.sizeOf_lt_of_localValue? {store : Store} {id : ScopeId} {name : Name} {value : Value}
    (h : store.localValue? id name = some value) : sizeOf value < sizeOf store := by
  obtain ⟨⟨bindings, parent⟩, hscope, hvalue⟩ := Option.bind_eq_some_iff.1 h
  obtain ⟨before, after, rfl, -⟩ := List.lookup_eq_some_iff.1 hvalue
  have hbinding : sizeOf (name, value) < sizeOf (before ++ (name, value) :: after) :=
    List.sizeOf_lt_of_mem (by simp)
  have hscope := Array.sizeOf_lt_of_mem (Array.mem_of_getElem? hscope)
  obtain ⟨scopes⟩ := store
  simp only [Scope.mk.sizeOf_spec, Prod.mk.sizeOf_spec, Store.mk.sizeOf_spec] at *
  omega

/-- The bodies of the functions that are bound in a state are smaller than its store. -/
theorem State.confined_sizeOf (state : State) :
    state.Confined (sizeOf · ≤ sizeOf state.store) := by
  intro id name value hbound
  have hlt := Store.sizeOf_lt_of_localValue? hbound
  exact value.confined_sizeOf.mono fun node hle => Nat.le_trans hle (Nat.le_of_lt hlt)

/-! ### Runs -/

/-- The bodies of functions in a run, as a correspondence of the run with itself. -/
def Correspondence.confined (closed : NodesClosed admits) : Correspondence where
  toLikeness := ClosureLikeness.toLikeness {
    World := Unit
    order := PUnit.instLinearOrder.toPreorder
    node := admits
    name _ _ m n := m = n
    scope _ a b := a = b
    closure _ left right := left = right ∧ admits left.body
    node_part := closed.part
    node_body := closed.body
    name_mono _ h := h
    scope_mono _ h := h
    closure_mono _ h := h
    function hparams hbody hscope := by
      have hparams := hparams.imp fun _ _ ⟨_, heq⟩ => heq
      rw [List.forall₂_eq_eq_eq] at hparams
      rw [hparams, hscope]
      exact ⟨rfl, hbody⟩ }
  state _ left right := left = right ∧ left.Confined admits
  closure {_ left right} h := by
    cases h with
    | data h => exact absurd rfl h
    | function h =>
      obtain ⟨rfl, hbody⟩ := h
      exact ⟨List.forall₂_same.2 fun _ _ => ⟨"", rfl⟩, rfl, hbody, rfl⟩
  callDepth := by
    rintro _ left right change ⟨rfl, hstate⟩ -
    exact ⟨rfl, hstate⟩
  intern := by
    rintro _ left right text ⟨rfl, hstate⟩
    exact ⟨(), le_rfl, rfl, rfl, hstate⟩
  lookup := by
    rintro _ left right a b text m n ⟨rfl, hstate⟩ rfl rfl
    cases hlookup : left.store.lookup a m with
    | none => exact .none
    | some value =>
      obtain ⟨holder, hvalue⟩ := Store.exists_localValue?_of_lookup hlookup
      exact .some (hstate holder m value hvalue).lift
  bind := by
    rintro _ left right a b text m n v v' ⟨rfl, hstate⟩ rfl rfl hv
    obtain ⟨rfl, hvalue⟩ := hv.confined
    exact ⟨rfl, hstate.bind hvalue⟩
  addChild := by
    rintro _ left right a b ⟨rfl, hstate⟩ rfl
    exact ⟨(), le_rfl, rfl, rfl, hstate.addChild⟩

theorem Request.Confined.alike {request : Request} (closed : NodesClosed admits)
    (h : request.Confined admits) :
    (Correspondence.confined closed).Alike () request request := by
  cases h with
  | eval hnode => exact .eval hnode rfl
  | call hcallee hargs =>
    exact .call hcallee.lift (List.forall₂_same.2 fun arg harg => (hargs arg harg).lift)

theorem State.Confined.at {state : State} (closed : NodesClosed admits)
    (h : state.Confined admits) :
    (Correspondence.confined closed).At () state.callDepth state state :=
  ⟨⟨rfl, h⟩, rfl, rfl⟩

/-- Outcomes that match under this correspondence are equal. -/
theorem Correspondence.Matches.eq_of_confined {closed : NodesClosed admits} {depth : Nat}
    {left right : Outcome Value}
    (h : (Correspondence.confined closed).Matches () depth (Correspondence.confined closed).value
      left right) : left = right := by
  cases h with
  | ok _ hvalue hstate =>
    obtain ⟨rfl, -⟩ := Value.Lift.confined hvalue
    obtain ⟨⟨rfl, -⟩, -, -⟩ := hstate
    rfl
  | error _ hstate =>
    obtain ⟨⟨rfl, -⟩, -, -⟩ := hstate
    rfl
  | exhausted => rfl

/-- Interpreters that follow the rules at all nodes that are admitted give the same answers. -/
theorem Interpreter.answer_eq_of_follows {interpreter interpreter' : Interpreter}
    {request : Request} {state : State} (closed : NodesClosed admits)
    (h : interpreter.Follows admits) (h' : interpreter'.Follows admits)
    (hlimit : interpreter.mode.callLimit = interpreter'.mode.callLimit)
    (hrequest : request.Confined admits) (hstate : state.Confined admits) (nesting : Nat) :
    interpreter.answer nesting request state = interpreter'.answer nesting request state :=
  have halike := hrequest.alike closed
  Correspondence.Matches.eq_of_confined <|
    Correspondence.answer_matches_of_follows h h' hlimit nesting halike (hstate.at closed)

/-- When a run ends, the bodies of all functions are still admitted. -/
theorem Interpreter.Ends.confined {mode : Mode} {request : Request} {state state' : State}
    {result : Except EvalError Value} (closed : NodesClosed admits)
    (h : (Interpreter.standard mode).Ends request state result state')
    (hrequest : request.Confined admits) (hstate : state.Confined admits) :
    state'.Confined admits ∧ ∀ value, result = .ok value → value.Confined admits := by
  obtain ⟨result', after', -, _, -, hresult, ⟨⟨rfl, hstate'⟩, -, -⟩⟩ :=
    (Correspondence.endTogether (hrequest.alike closed) (hstate.at closed)).forth _ _ h
  refine ⟨hstate', ?_⟩
  rintro value rfl
  cases hresult with
  | ok hvalue => exact (Value.Lift.confined hvalue).2

/-- What the rules ask for while they treat a node, and the state in which they do: it is a part of
the node in its scope, or a call, at the depth of calls at which the node is evaluated. -/
theorem Action.Makes.confined {mode : Mode} {nesting : Nat} {node : Node} {scope : ScopeId}
    {state state' : State} {request : Request} (closed : NodesClosed admits)
    (h : (Rules.handler node.kind node scope).Makes ((Interpreter.standard mode).answer nesting)
      state request state') (hnode : admits node) (hstate : state.Confined admits) :
    state'.Confined admits ∧ state'.callDepth = state.callDepth ∧
      ((∃ part ∈ node.parts, request = .eval part scope) ∨
        ∃ callee args, request = .call callee args ∧ callee.Confined admits ∧
          ∀ arg ∈ args, arg.Confined admits) := by
  obtain ⟨_, _, _, hasks, -, ⟨⟨rfl, hstate'⟩, hdepth, -⟩⟩ :=
    Correspondence.asks_of_handler hnode rfl (hstate.at closed) h
  refine ⟨hstate', hdepth, ?_⟩
  cases hasks with
  | eval hpart => exact .inl ⟨_, hpart, rfl⟩
  | call hcallee hargs =>
    exact .inr ⟨_, _, rfl, (Value.Lift.confined hcallee).2, Value.Lift.confined_of_forall₂ hargs⟩

/-- A run only comes to requests whose bodies are admitted. -/
theorem Interpreter.Prompts.confined {mode : Mode} {request request' : Request}
    {state state' : State} (closed : NodesClosed admits)
    (h : (Interpreter.standard mode).Prompts (request, state) (request', state'))
    (hrequest : request.Confined admits) (hstate : state.Confined admits) :
    request'.Confined admits ∧ state'.Confined admits := by
  cases h with
  | eval nesting hmakes =>
    cases hrequest with
    | eval hnode =>
      obtain ⟨hstate', -, hasked⟩ := Action.Makes.confined closed hmakes hnode hstate
      rcases hasked with ⟨part, hpart, rfl⟩ | ⟨callee, args, rfl, hcallee, hargs⟩
      · exact ⟨.eval (closed.part hnode hpart), hstate'⟩
      · exact ⟨.call hcallee hargs, hstate'⟩
  | call hc _ =>
    cases hrequest with
    | call hcallee hargs => exact ⟨.eval (hcallee _ hc.1), hstate.enter hargs⟩

theorem Interpreter.Reaches.confined {mode : Mode} {start last : Request × State}
    (closed : NodesClosed admits) (h : (Interpreter.standard mode).Reaches start last)
    (hrequest : start.1.Confined admits) (hstate : start.2.Confined admits) :
    last.1.Confined admits ∧ last.2.Confined admits := by
  induction h with
  | refl => exact ⟨hrequest, hstate⟩
  | tail _ hprompts ih => exact Interpreter.Prompts.confined closed hprompts ih.1 ih.2

end TreeScript
