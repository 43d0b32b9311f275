import TreeScript.Proofs.Frame
import TreeScript.Proofs.Lockstep.Renaming

/-!
The states that an interpreter comes to. From the initial state, names may be given out, scopes made
and names bound, and nodes evaluated and functions called, in any order; a state in the middle of a
run counts, too (`State.Reachable`). In all these states parents were made before their children,
and the functions that are bound belong to scopes that are there (`State.Reachable.sound`).
-/

namespace TreeScript

variable [PatternEngine]

namespace State

/-- A value that can be had in a state: the scope of a function is there. -/
def Owns (state : State) (value : Value) : Prop :=
  ∀ closure, value = .function closure → state.store.Has closure.scope

/-- What holds of a state that was not tampered with. -/
structure Sound (state : State) : Prop where
  wellFormed : state.store.WellFormed
  owned : ∀ id name value, state.store.localValue? id name = some value → state.Owns value

/-- A request that can be made in a state. -/
inductive Admits (state : State) : Request → Prop where
  | eval {node : Node} {scope : ScopeId} (hscope : state.store.Has scope) :
      Admits state (.eval node scope)
  | call {callee : Value} {args : List Value} (hcallee : state.Owns callee)
      (hargs : ∀ arg ∈ args, state.Owns arg) : Admits state (.call callee args)

/-- What may be done with a state from outside; a run may also be looked at before it ends. -/
inductive Step : State → State → Prop where
  | intern {state : State} (text : String) :
      Step state { state with names := (state.names.intern text).2 }
  | addGlobal {state : State} : Step state { state with store := state.store.addGlobal.2 }
  | addChild {state : State} {parent : ScopeId} (hparent : state.store.Has parent) :
      Step state { state with store := (state.store.addChild parent).2 }
  | bind {state : State} {scope : ScopeId} {name : Name} {value : Value}
      (hscope : state.store.Has scope) (hvalue : state.Owns value) :
      Step state { state with store := state.store.bind scope name value }
  | run {mode : Mode} {request : Request} {state state' : State} {result : Except EvalError Value}
      (hrequest : state.Admits request)
      (hends : (Interpreter.standard mode).Ends request state result state') : Step state state'
  | reach {mode : Mode} {request request' : Request} {state state' : State}
      (hrequest : state.Admits request)
      (hreaches : (Interpreter.standard mode).Reaches (request, state) (request', state')) :
      Step state state'

/-- The states that are reached from the initial one. -/
inductive Reachable : State → Prop where
  | initial : Reachable .initial
  | next {state state' : State} (h : Reachable state) (hstep : Step state state') :
      Reachable state'

end State

/-! ### A state beside itself -/

/-- How a state is matched with a later one that has more scopes. -/
def Renaming.between (state later : State) : Renaming where
  base := state.store.scopes.size
  shift := later.store.scopes.size - state.store.scopes.size
  size := state.store.scopes.size

section Between

variable {state later : State} {a b : ScopeId} {value : Value}

theorem sameScope_between_iff :
    (Renaming.between state later).SameScope a b ↔ state.store.Has a ∧ b = a := by
  refine and_congr_right fun h => ?_
  rw [Renaming.image, if_pos]
  exact h

theorem sameScope_self (h : state.store.Has a) : (Renaming.between state later).SameScope a a :=
  sameScope_between_iff.2 ⟨h, rfl⟩

theorem State.Owns.between (h : state.Owns value) :
    (Renaming.between state later).SameValue value value := by
  cases value with
  | function closure => exact .function ⟨rfl, rfl, sameScope_self (h closure rfl)⟩
  | _ => exact .data nofun

/-- A state looks like a later one with the same names, in which all its scopes are as they were. -/
theorem State.Sound.between (h : state.Sound) (hnames : state.names = later.names)
    (hsize : state.store.scopes.size ≤ later.store.scopes.size)
    (hscopes : ∀ id, state.store.Has id → later.store.scope? id = state.store.scope? id)
    (hlater : later.store.WellFormed) : (Renaming.between state later).Related state later where
  names := hnames
  left_size := rfl
  right_size := (Nat.add_sub_of_le hsize).symm
  base_le := Nat.le_refl _
  left_wellFormed := h.wellFormed
  right_wellFormed := hlater
  parent a b hscope := by
    obtain ⟨hid, rfl⟩ := sameScope_between_iff.1 hscope
    rw [Store.parent?, Store.parent?, hscopes b hid]
    change Option.Rel _ (state.store.parent? b) (state.store.parent? b)
    cases hp : state.store.parent? b with
    | none => exact .none
    | some outer =>
      have hlt := h.wellFormed b outer hp
      exact .some (sameScope_self (Nat.lt_trans hlt hid))
  value a b name hscope := by
    obtain ⟨hid, rfl⟩ := sameScope_between_iff.1 hscope
    rw [Store.localValue?, Store.localValue?, hscopes b hid]
    change Option.Rel _ (state.store.localValue? b name) (state.store.localValue? b name)
    cases hv : state.store.localValue? b name with
    | none => exact .none
    | some value => exact .some (h.owned b name value hv).between

end Between

/-! ### What runs keep -/

namespace Renaming

variable {w : Renaming} {left right : State} {v v' : Value}

theorem Related.owns (h : w.Related left right) (hv : w.SameValue v v') : left.Owns v := by
  intro closure hclosure
  subst hclosure
  cases hv with
  | data hkind => exact absurd rfl hkind
  | function hsame => exact h.left_has hsame.scope

theorem Related.owns_all (h : w.Related left right) {args args' : List Value}
    (hargs : List.Forall₂ w.SameValue args args') : ∀ arg ∈ args, left.Owns arg := by
  induction hargs with
  | nil => exact fun _ hmem => absurd hmem List.not_mem_nil
  | cons hv _ ih => exact List.forall_mem_cons.2 ⟨h.owns hv, ih⟩

/-- A state that looks like another one is sound. -/
theorem Related.sound (h : w.Related left right) : left.Sound where
  wellFormed := h.left_wellFormed
  owned id name value hvalue := by
    by_cases hid : left.store.Has id
    · have hrel := h.value id (w.image id) name ⟨h.left_size ▸ hid, rfl⟩
      rw [hvalue] at hrel
      generalize right.store.localValue? (w.image id) name = other at hrel
      cases hrel with
      | some hv => exact h.owns hv
    · rw [Store.localValue?_of_not_has hid] at hvalue
      cases hvalue

end Renaming

namespace State

variable {mode : Mode} {request request' : Request} {state state' later : State}

theorem Admits.between (h : state.Admits request) :
    Correspondence.renaming.Alike (Renaming.between state later) request request := by
  cases h with
  | eval hscope => exact .eval trivial (sameScope_self hscope)
  | call hcallee hargs =>
    refine .call hcallee.between ?_
    exact List.forall₂_same.2 fun arg harg => (hargs arg harg).between

theorem Sound.beside_itself (h : state.Sound) :
    Correspondence.renaming.At (Renaming.between state state) state.callDepth state state :=
  ⟨h.between rfl (Nat.le_refl _) (fun _ _ => rfl) h.wellFormed, rfl, rfl⟩

/-- A run that ends leaves a sound state, and the value that it ends with can be had there. -/
theorem Sound.ends {result : Except EvalError Value} (h : state.Sound)
    (hrequest : state.Admits request)
    (hends : (Interpreter.standard mode).Ends request state result state') :
    state'.Sound ∧ ∀ value, result = .ok value → state'.Owns value := by
  obtain ⟨nesting, hrun⟩ := hends
  have hm : Correspondence.renaming.Matches (Renaming.between state state) state.callDepth _
      ((Interpreter.standard mode).answer nesting request state)
      ((Interpreter.standard mode).answer nesting request state) :=
    Correspondence.answer_matches nesting hrequest.between h.beside_itself
  rw [hrun] at hm
  cases hm with
  | ok _ hv hat =>
    refine ⟨Renaming.Related.sound hat.state, fun value heq => ?_⟩
    cases heq
    exact Renaming.Related.owns hat.state hv
  | error _ hat => exact ⟨Renaming.Related.sound hat.state, nofun⟩

/-- What a run comes to on its way is a sound state and a request that can be made there. -/
theorem Sound.prompts (h : state.Sound) (hrequest : state.Admits request)
    (hprompts : (Interpreter.standard mode).Prompts (request, state) (request', state')) :
    state'.Sound ∧ state'.Admits request' := by
  have hat := h.beside_itself
  have halike : Correspondence.renaming.Alike (Renaming.between state state) request request :=
    hrequest.between
  cases hprompts with
  | eval nesting hmakes =>
    cases halike with
    | eval hnode hscope =>
      obtain ⟨w, _, _, hasks, hscope, hat⟩ :=
        Correspondence.asks_of_handler hnode hscope hat hmakes
      have hrelated : Renaming.Related w _ _ := hat.state
      refine ⟨hrelated.sound, ?_⟩
      cases hasks with
      | eval _ => exact .eval (hrelated.left_has hscope)
      | call hcallee hargs => exact .call (hrelated.owns hcallee) (hrelated.owns_all hargs)
  | call hc _ =>
    cases halike with
    | call hcallee hargs =>
      obtain ⟨rfl, -⟩ := hc
      cases hcallee with
      | data hkind => exact absurd rfl hkind
      | function hsame =>
        have hparams := Correspondence.renaming_params (Renaming.between state state)
        obtain ⟨w, -, hinner, hat⟩ := Correspondence.enter hat hsame.scope (hparams _) hargs
        have hrelated : Renaming.Related w _ _ := hat.state
        exact ⟨hrelated.sound, .eval (hrelated.left_has hinner)⟩

theorem Sound.reaches {start last : Request × State}
    (hreaches : (Interpreter.standard mode).Reaches start last) (h : start.2.Sound)
    (hrequest : start.2.Admits start.1) : last.2.Sound ∧ last.2.Admits last.1 := by
  induction hreaches with
  | refl => exact ⟨h, hrequest⟩
  | tail _ hprompts ih => exact ih.1.prompts ih.2 hprompts

/-! ### Reachable states -/

theorem Sound.addGlobal (h : state.Sound) :
    Sound { state with store := state.store.addGlobal.2 } where
  wellFormed := h.wellFormed.add nofun
  owned id name value hvalue := by
    rw [Store.addGlobal, Store.localValue?_add] at hvalue
    intro closure hclosure
    have hscope := h.owned id name value hvalue closure hclosure
    rw [Store.Has, Store.addGlobal, Store.size_add]
    exact Nat.lt_succ_of_lt hscope

/-- Without scopes there is nothing that could be wrong. -/
theorem sound_empty (names : NameTable) (callDepth : Nat) : Sound ⟨names, .empty, callDepth⟩ where
  wellFormed := Store.wellFormed_empty
  owned _ _ _ hvalue := by cases hvalue

theorem Step.sound (hstep : Step state state') (h : state.Sound) : state'.Sound := by
  cases hstep with
  | intern text => exact ⟨h.wellFormed, h.owned⟩
  | addGlobal => exact h.addGlobal
  | addChild hparent => exact (h.beside_itself.state.addChild (sameScope_self hparent)).sound
  | bind hscope hvalue =>
    exact (h.beside_itself.state.bind (sameScope_self hscope) hvalue.between).sound
  | run hrequest hends => exact (h.ends hrequest hends).1
  | reach hrequest hreaches => exact (Sound.reaches hreaches h hrequest).1

/-- Every reachable state is sound. -/
theorem Reachable.sound (h : state.Reachable) : state.Sound := by
  induction h with
  | initial => exact (sound_empty .new 0).addGlobal
  | next _ hstep ih => exact hstep.sound ih

end State

end TreeScript
