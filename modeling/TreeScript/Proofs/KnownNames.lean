import TreeScript.Proofs.Frame

/-!
Runs that know their names. A run goes the same way when the names that it is going to give out are
known from the start (`answer_of_known`): a text that is interned has the name then that it would
have got. What was bound under these names before does not matter, since the run sees it in both
cases.
-/

namespace TreeScript

/-- A text has the name that it would have got, where it is known. -/
theorem NameTable.intern_of_le {known table : NameTable} {text : String}
    (h : (table.intern text).2 ≤ known) : known.intern text = ((table.intern text).1, known) := by
  have hname := find?_of_le h (table.find?_intern text)
  simp only [intern, hname]

variable [PatternEngine] {known : NameTable} {state state' : State}

/-- The state with another table of names. -/
def State.knowing (state : State) (known : NameTable) : State :=
  { state with names := known }

/-- The action of a rule goes the same way if the answers that it gets do. -/
theorem Lockstep.run_of_known {evaluator : Evaluator} {node : Node} {a b : ScopeId} {α β : Type}
    {alike : Likeness.naming.World → α → β → Prop} {table : Likeness.naming.World}
    {action : Action NameTable Name α} {action' : Action NameTable Name β}
    (h : Lockstep Likeness.naming node a b alike table action action')
    (hframe : ∀ request state result state', evaluator request state = .done result state' →
      Frame (fun _ _ => True) state state')
    (hanswer : ∀ request state result state', evaluator request state = .done result state' →
      state'.names ≤ known →
      evaluator request (state.knowing known) = .done result (state'.knowing known))
    {result : Except EvalError α} (hle : table ≤ state.names)
    (hrun : action.run evaluator state = .done result state') (hknown : state'.names ≤ known) :
    action.run evaluator (state.knowing known) = .done result (state'.knowing known) := by
  -- Names are only added, so what the rest of the action gives out is known, too.
  have grows {w : Likeness.naming.World} {rest : Action NameTable Name α}
      {rest' : Action NameTable Name β} {before : State}
      (hrest : Lockstep Likeness.naming node a b alike w rest rest') (hle : w ≤ before.names)
      (hrun : rest.run evaluator before = .done result state') : before.names ≤ state'.names :=
    (hrest.frame (fun _ _ => trivial) (fun _ _ _ _ _ => hframe _ _ _ _)
      (fun _ _ _ _ _ => hframe _ _ _ _) hle hrun).names
  induction h generalizing state with
  | ok _ | error _ =>
    cases hrun
    rfl
  | @intern table text next next' hnext ih =>
    let interned : State := { state with names := (state.names.intern text).2 }
    have hrun : (next (state.names.intern text).1).run evaluator interned =
      .done result state' := hrun
    have hle : table ≤ interned.names := hle.trans (NameTable.le_intern _ _)
    have hname := NameTable.find?_intern state.names text
    have hgrows := grows (hnext _ _ _ hle ⟨rfl, hname⟩) le_rfl hrun
    have hintern := NameTable.intern_of_le (hgrows.trans hknown)
    have hrest := ih _ _ _ hle ⟨rfl, hname⟩ le_rfl hrun
    change (next (known.intern text).1).run evaluator
      { state with names := (known.intern text).2 } = _
    rw [hintern]
    exact hrest
  | @lookup table text m n next next' hname _ ih =>
    have hrun : (next (state.store.lookup a m)).run evaluator state = .done result state' := hrun
    have hvalue := optionRel_refl (Likeness.naming_value table) (state.store.lookup a m)
    exact ih _ _ hvalue hle hrun
  | @bindName table text m n left right next next' _ _ _ _ ih =>
    let bound : State := { state with store := state.store.bind a m left }
    have hrun : (next ()).run evaluator bound = .done result state' := hrun
    have hle : table ≤ bound.names := hle
    exact ih () hle hrun
  | @ask table request request' next next' _ hnext ih =>
    rcases Outcome.andThen_eq_done hrun with ⟨value, between, hfirst, hrest⟩ | ⟨error, hfirst, rfl⟩
    · have hle := hle.trans (hframe _ _ _ _ hfirst).names
      have hgrows := grows (hnext _ _ _ hle (Likeness.naming_value _ value)) le_rfl hrest
      have hfirst := hanswer _ _ _ _ hfirst (hgrows.trans hknown)
      simp only [Action.run, hfirst]
      exact ih _ _ _ hle (Likeness.naming_value _ value) le_rfl hrest
    · have hfirst := hanswer _ _ _ _ hfirst hknown
      simp only [Action.run, hfirst]
      rfl

/-- A call goes the same way if evaluations do. -/
theorem callWith_of_known {eval : Node → ScopeId → Eval Value} {limit : Option Nat}
    (heval : ∀ node scope state result state', eval node scope state = .done result state' →
      state'.names ≤ known →
      eval node scope (state.knowing known) = .done result (state'.knowing known))
    {callee : Value} {args : List Value} {result : Except EvalError Value}
    (hrun : callWith eval limit callee args state = .done result state')
    (hknown : state'.names ≤ known) :
    callWith eval limit callee args (state.knowing known) =
      .done result (state'.knowing known) := by
  rcases callWith_eq_or_accepts callee args with ⟨error, -, herror⟩ | ⟨closure, hc⟩
  · rw [herror] at hrun ⊢
    cases hrun
    rfl
  cases hlimit : limit.filter (· ≤ state.callDepth) with
  | some depth =>
    rw [callWith_of_limit hc hlimit] at hrun
    cases hrun
    exact callWith_of_limit hc hlimit
  | none =>
    rw [callWith_of_accepts hc hlimit] at hrun
    obtain ⟨inside, hbody, rfl⟩ := Outcome.mapState_eq_done hrun
    have hbody := heval _ _ _ _ _ hbody hknown
    have hcall : callWith eval limit callee args (state.knowing known) =
        (eval closure.body (state.enter closure args).1
          ((state.enter closure args).2.knowing known)).mapState State.leave :=
      callWith_of_accepts hc hlimit
    rw [hcall, hbody]
    rfl

theorem evalWithin_of_known {mode : Mode} {nesting : Nat} {node : Node} {scope : ScopeId}
    {result : Except EvalError Value}
    (hrun : (Interpreter.standard mode).evalWithin nesting node scope state = .done result state')
    (hknown : state'.names ≤ known) :
    (Interpreter.standard mode).evalWithin nesting node scope (state.knowing known) =
      .done result (state'.knowing known) := by
  induction nesting generalizing node scope state result state' with
  | zero => cases hrun
  | succ nesting ih =>
    have hlockstep := Lockstep.naming node scope state.names
    refine hlockstep.run_of_known ?_ ?_ le_rfl hrun hknown
    · intro request state result state' h
      cases request with
      | eval node scope => exact (evalWithin_frame h).mono fun _ _ _ => trivial
      | call callee args => exact (answer_call_frame h).mono fun _ _ _ => trivial
    · intro request state result state' h hknown
      cases request with
      | eval node scope => exact ih h hknown
      | call callee args =>
        refine callWith_of_known ?_ h hknown
        intro node scope state result state' h hknown
        exact ih h hknown

/-- **Known names.** A request is answered in the same way if all names that the run gives out are
known from the start. -/
theorem answer_of_known {mode : Mode} {nesting : Nat} {request : Request}
    {result : Except EvalError Value}
    (hrun : (Interpreter.standard mode).answer nesting request state = .done result state')
    (hknown : state'.names ≤ known) :
    (Interpreter.standard mode).answer nesting request (state.knowing known) =
      .done result (state'.knowing known) := by
  cases request with
  | eval node scope => exact evalWithin_of_known hrun hknown
  | call callee args =>
    refine callWith_of_known ?_ hrun hknown
    intro node scope state result state' h hknown
    exact evalWithin_of_known h hknown

end TreeScript
