import TreeScript.Proofs.Run.Performs
import TreeScript.Proofs.ScopeChain
import TreeScript.Regex.Engine

/-!
The environment of a call. A call fails at once if what is called is no function, if the number of
arguments is wrong, or if the limit of nested calls is reached, checked in this order. Otherwise the
body is evaluated in a new scope around which is the scope that the function was made in
(`State.OpensCall`). The parameters are bound there one after the other, so of several with one name
the last counts (`localValue?_enter_param`); any other name is found as from the scope of the
function when it is called, whenever that was bound (`WellFormed.lookup_enter_free`).
-/

namespace TreeScript

section Calls

variable [PatternEngine] {T N : Type} [DecidableEq N]

namespace Store

variable {store later : Store N} {id scope : ScopeId} {name : N} {value arg : Value N}
  {closure : Closure N} {args : List (Value N)}

/-! ### Scopes that were there -/

/-- From a scope that was there, everything is found as before if all scopes that were there are as
they were. -/
theorem WellFormed.lookup_eq_of_scopes (h : store.WellFormed) (hlater : later.WellFormed)
    (hscopes : ∀ id, store.Has id → later.scope? id = store.scope? id) (hid : store.Has id) :
    later.lookup id name = store.lookup id name := by
  induction hi : id.index using Nat.strongRecOn generalizing id with
  | ind i ih =>
    subst hi
    rw [hlater.lookup_eq, h.lookup_eq, localValue?, localValue?, parent?, parent?, hscopes id hid]
    cases hp : (store.scope? id).bind Scope.parent with
    | none => rfl
    | some parent =>
      have hlt : parent.index < id.index := h id parent hp
      rw [Option.bind_some, Option.bind_some, ih parent.index hlt (Nat.lt_trans hlt hid) rfl]

/-! ### Binding pairs in a row -/

/-- Names that are not among those bound in a row keep their values. -/
theorem localValue?_foldl_of_not_mem {pairs : List (N × Value N)}
    (h : name ∉ pairs.map Prod.fst) :
    (pairs.foldl (fun store (param, arg) => store.bind scope param arg) store).localValue? id name =
      store.localValue? id name := by
  refine foldl_bind_induction (motive := fun inner =>
    inner.localValue? id name = store.localValue? id name) scope pairs rfl ?_
  intro inner pair hpair hinner
  have hne : ¬ (id = scope ∧ inner.Has scope ∧ name = pair.1) := by
    rintro ⟨-, -, rfl⟩
    exact h (List.mem_map_of_mem hpair)
  rw [localValue?_bind, if_neg hne, hinner]

/-- Of names that are bound in a row, each has the last value that it is bound to. -/
theorem localValue?_foldl_of_last {pairs : List (N × Value N)} {j : Nat} (hscope : store.Has scope)
    (hj : pairs[j]? = some (name, value))
    (hlast : ∀ i, j < i → (pairs.map Prod.fst)[i]? ≠ some name) :
    (pairs.foldl (fun store (param, arg) => store.bind scope param arg) store).localValue? scope
      name = some value := by
  induction pairs generalizing store j with
  | nil => cases hj
  | cons pair rest ih =>
    rw [List.foldl_cons]
    cases j with
    | zero =>
      cases hj
      have hrest : name ∉ rest.map Prod.fst := by
        intro hmem
        obtain ⟨i, hi⟩ := List.getElem?_of_mem hmem
        exact hlast (i + 1) (Nat.succ_pos i) hi
      rw [localValue?_foldl_of_not_mem hrest, localValue?_bind, if_pos ⟨rfl, hscope, rfl⟩]
    | succ j =>
      refine ih (has_bind.2 hscope) hj ?_
      intro i hi
      exact hlast (i + 1) (Nat.succ_lt_succ hi)

/-! ### Entering a function -/

theorem enter_fst : (store.enter closure args).1 = ⟨store.scopes.size⟩ :=
  rfl

theorem has_enter : (store.enter closure args).2.Has (store.enter closure args).1 := by
  rw [Has, size_enter]
  exact Nat.lt_succ_self _

theorem parent?_enter : (store.enter closure args).2.parent? id =
    (store.addChild closure.scope).2.parent? id :=
  foldl_bind_induction (motive := fun inner =>
      inner.parent? id = (store.addChild closure.scope).2.parent? id) _ _ rfl
    fun _ _ _ h => (parent?_bind ..).trans h

theorem parent?_enter_self :
    (store.enter closure args).2.parent? (store.enter closure args).1 = some closure.scope := by
  rw [parent?_enter, parent?_addChild, enter_fst, if_pos rfl]

theorem WellFormed.enter (h : store.WellFormed) (hscope : store.Has closure.scope) :
    (store.enter closure args).2.WellFormed := by
  intro id parent hp
  rw [parent?_enter] at hp
  exact h.addChild hscope id parent hp

/-- The scope of a call is one deeper than the scope of the function. -/
theorem WellFormed.depth_enter (h : store.WellFormed) (hscope : store.Has closure.scope) :
    (store.enter closure args).2.depth (store.enter closure args).1 =
      store.depth closure.scope + 1 := by
  have hdepth (id : ScopeId) : (store.enter closure args).2.depth id =
      (store.addChild closure.scope).2.depth id :=
    foldl_bind_induction (motive := fun inner =>
        inner.depth id = (store.addChild closure.scope).2.depth id) _ _ rfl
      fun _ _ _ hinner => depth_bind.trans hinner
  rw [hdepth]
  exact h.depth_child hscope

/-- A parameter is bound to the argument at the last place where its name stands. -/
theorem localValue?_enter_param {j : Nat} (hj : closure.params[j]? = some name)
    (hlast : ∀ i, j < i → closure.params[i]? ≠ some name) (harg : args[j]? = some arg)
    (harity : closure.params.length = args.length) :
    (store.enter closure args).2.localValue? (store.enter closure args).1 name = some arg := by
  have hnew : (store.addChild closure.scope).2.Has (store.enter closure args).1 := by
    rw [Has, size_addChild]
    exact Nat.lt_succ_self _
  have hpair : (closure.params.zip args)[j]? = some (name, arg) :=
    List.getElem?_zip_eq_some.2 ⟨hj, harg⟩
  refine localValue?_foldl_of_last hnew hpair ?_
  rw [List.map_fst_zip (Nat.le_of_eq harity)]
  exact hlast

/-- The scope of a call binds no other names. -/
theorem localValue?_enter_free (h : name ∉ closure.params) :
    (store.enter closure args).2.localValue? (store.enter closure args).1 name = none := by
  have hpairs : name ∉ (closure.params.zip args).map Prod.fst := by
    intro hmem
    obtain ⟨pair, hpair, rfl⟩ := List.mem_map.1 hmem
    exact h (List.of_mem_zip hpair).1
  exact (localValue?_foldl_of_not_mem hpairs).trans
    (localValue?_addChild.trans (localValue?_next store name))

/-- A name that is no parameter is found as from the scope of the function. -/
theorem WellFormed.lookup_enter_free (h : store.WellFormed) (hscope : store.Has closure.scope)
    (hname : name ∉ closure.params) :
    (store.enter closure args).2.lookup (store.enter closure args).1 name =
      store.lookup closure.scope name := by
  rw [(h.enter hscope).lookup_eq, localValue?_enter_free hname, parent?_enter_self, Option.none_or,
    Option.bind_some]
  exact h.lookup_eq_of_scopes (h.enter hscope) (fun _ hid => scope?_enter_of_has hid) hscope

end Store

/-! ### The scope of a call -/

namespace State

variable {state inner : State T N} {closure : Closure N} {args : List (Value N)} {scope : ScopeId}

/-- The scope and the state in which the body of a function is evaluated when it is called. -/
structure OpensCall (state : State T N) (closure : Closure N) (args : List (Value N))
    (scope : ScopeId) (inner : State T N) : Prop where
  fresh : ¬ state.store.Has scope
  has : inner.store.Has scope
  size : inner.store.scopes.size = state.store.scopes.size + 1
  kept : ∀ id, state.store.Has id → inner.store.scope? id = state.store.scope? id
  names : inner.names = state.names
  callDepth : inner.callDepth = state.callDepth + 1
  parent : inner.store.parent? scope = some closure.scope
  depth : inner.store.depth scope = state.store.depth closure.scope + 1
  /-- A parameter has the argument at the last place where its name stands. -/
  param : ∀ (j : Nat) (name : N), closure.params[j]? = some name →
    (∀ i, j < i → closure.params[i]? ≠ some name) →
    ∃ arg, args[j]? = some arg ∧ inner.store.lookup scope name = some arg
  /-- Any other name is found as from the scope of the function, in the state of the call. -/
  free : ∀ name, name ∉ closure.params →
    inner.store.lookup scope name = state.store.lookup closure.scope name

theorem opensCall_enter (hstore : state.store.WellFormed) (hscope : state.store.Has closure.scope)
    (harity : closure.arity = args.length) :
    state.OpensCall closure args (state.enter closure args).1 (state.enter closure args).2 where
  fresh := Nat.lt_irrefl _
  has := Store.has_enter
  size := Store.size_enter
  kept _ hid := Store.scope?_enter_of_has hid
  names := rfl
  callDepth := rfl
  parent := Store.parent?_enter_self
  depth := hstore.depth_enter hscope
  param j name hj hlast := by
    obtain ⟨hlt, -⟩ := List.getElem?_eq_some_iff.1 hj
    have harg := List.getElem?_eq_getElem (Nat.lt_of_lt_of_eq hlt harity)
    refine ⟨_, harg, ?_⟩
    change (state.store.enter closure args).2.lookup _ name = _
    rw [(hstore.enter hscope).lookup_eq]
    change ((state.store.enter closure args).2.localValue? (state.store.enter closure args).1
      name).or _ = _
    rw [Store.localValue?_enter_param hj hlast harg harity, Option.some_or]
  free _ hname := hstore.lookup_enter_free hscope hname

/-- A name that was bound last of all before the call has that value, if the scope of the function
sees the binding and no parameter has the name. -/
theorem OpensCall.lookup_bound (h : state.OpensCall closure args scope inner) {earlier : Store N}
    {holder : ScopeId} {key : N} {value : Value N} (hstore : earlier.WellFormed)
    (hbound : state.store = earlier.bind holder key value) (hholder : earlier.Has holder)
    (hsees : earlier.Sees closure.scope holder key) (hkey : key ∉ closure.params) :
    inner.store.lookup scope key = some value := by
  rw [h.free key hkey, hbound]
  exact hstore.lookup_bind_of_sees hholder hsees

end State

/-! ### Calls -/

namespace Interpreter

variable [Naming N T] {interpreter : Interpreter T N} {callee : Value N} {args : List (Value N)}
  {closure : Closure N} {state : State T N}

theorem failsAtOnce_call_of_not_function (h : ∀ closure, callee ≠ .function closure) :
    interpreter.FailsAtOnce (.call callee args) state (.notCallable callee.kindName) := by
  refine failsAtOnce_call fun eval => ?_
  cases callee with
  | function closure => exact absurd rfl (h closure)
  | _ => rfl

theorem failsAtOnce_call_of_arity (h : closure.arity ≠ args.length) :
    interpreter.FailsAtOnce (.call (.function closure) args) state
      (.arityMismatch closure.arity args.length) := by
  refine failsAtOnce_call fun eval => ?_
  rw [callWith, if_neg h]

theorem failsAtOnce_call_of_limit {limit : Nat} (h : closure.arity = args.length)
    (hlimit : interpreter.mode.callLimit = some limit) (hle : limit ≤ state.callDepth) :
    interpreter.FailsAtOnce (.call (.function closure) args) state (.callDepth limit) := by
  refine failsAtOnce_call fun eval => callWith_of_limit ⟨rfl, h⟩ ?_
  rw [hlimit, Option.filter_some, if_pos (decide_eq_true hle)]

/-- **The environment of a call.** To call what is no function, to call a function with a wrong
number of arguments, and to call it when the limit of nested calls is reached fails at once, with
the first of these errors that applies. Any other call evaluates the body of the function, and is
over when that is. This happens in a new scope whose parent is the scope of the function. The name
of a parameter has the argument at the last place where the name stands among the parameters. Any
other name is found as from the scope of the function in the state of the call; so if it was bound
meanwhile where the scope of the function sees it, it has this value. -/
theorem call_environment (interpreter : Interpreter T N) (callee : Value N)
    (args : List (Value N)) (state : State T N) (hstore : state.store.WellFormed)
    (hscope : ∀ closure, callee = .function closure → state.store.Has closure.scope) :
    ((∀ closure, callee ≠ .function closure) →
      interpreter.FailsAtOnce (.call callee args) state (.notCallable callee.kindName)) ∧
    ∀ closure, callee = .function closure →
      (closure.arity ≠ args.length →
        interpreter.FailsAtOnce (.call callee args) state
          (.arityMismatch closure.arity args.length)) ∧
      (closure.arity = args.length →
        (∀ limit, interpreter.mode.callLimit = some limit → limit ≤ state.callDepth →
          interpreter.FailsAtOnce (.call callee args) state (.callDepth limit)) ∧
        ((∀ limit, interpreter.mode.callLimit = some limit → state.callDepth < limit) →
          ∃ scope inner, state.OpensCall closure args scope inner ∧
            interpreter.Prompts (.call callee args, state) (.eval closure.body scope, inner) ∧
            (∀ result state', interpreter.Ends (.call callee args) state result state' ↔
              ∃ last, interpreter.Ends (.eval closure.body scope) inner result last ∧
                state' = last.leave) ∧
            ∀ earlier holder key value, earlier.WellFormed →
              state.store = Store.bind earlier holder key value → earlier.Has holder →
              earlier.Sees closure.scope holder key → key ∉ closure.params →
              inner.store.lookup scope key = some value)) := by
  refine ⟨failsAtOnce_call_of_not_function, ?_⟩
  rintro closure rfl
  refine ⟨failsAtOnce_call_of_arity, fun harity => ⟨?_, fun hbelow => ?_⟩⟩
  · intro limit hlimit hle
    exact failsAtOnce_call_of_limit harity hlimit hle
  · have haccepts : (Value.function closure).Accepts args closure := ⟨rfl, harity⟩
    have hlimit : interpreter.mode.callLimit.filter (· ≤ state.callDepth) = none := by
      rw [Option.filter_eq_none_iff]
      intro limit heq
      simpa using hbelow limit heq
    have hopens := State.opensCall_enter hstore (hscope closure rfl) harity
    refine ⟨_, _, hopens, .call haccepts hlimit, fun _ _ => ends_call_iff haccepts hlimit, ?_⟩
    intro earlier holder key value hearlier hbound hholder hsees hkey
    exact hopens.lookup_bound hearlier hbound hholder hsees hkey

end Interpreter

/-- A function with two parameters of one name, made in the outermost scope. -/
def Closure.sameParams : Closure :=
  ⟨[⟨1⟩, ⟨1⟩], .new 0 .nullLiteral, .global⟩

/-- The state after a variable was assigned null. -/
def State.assigned : State :=
  ⟨.ofTexts ["p", "x"], State.initial.store.bind .global ⟨2⟩ .null, 0⟩

end Calls

/-- Null cannot be called, and a function with two parameters takes two arguments and is not called
where no calls are allowed. Where one is allowed, the second argument counts for both parameters,
and the variable is found that was assigned before the call. -/
theorem call_environment_sameParams :
    (Interpreter.standard (.bounded 1)).FailsAtOnce (.call .null []) .assigned
      (.notCallable "null") ∧
    (Interpreter.standard (.bounded 1)).FailsAtOnce (.call (.function .sameParams) [.null])
      .assigned (.arityMismatch 2 1) ∧
    (Interpreter.standard (.bounded 0)).FailsAtOnce
      (.call (.function .sameParams) [.null, .bool true]) .assigned (.callDepth 0) ∧
    ∃ scope inner, State.assigned.OpensCall .sameParams [.null, .bool true] scope inner ∧
      inner.store.depth scope = 1 ∧ inner.store.lookup scope ⟨1⟩ = some (.bool true) ∧
      inner.store.lookup scope ⟨2⟩ = some .null := by
  have hinitial : State.initial.store.WellFormed := Store.wellFormed_empty.add nofun
  have hstore : State.assigned.store.WellFormed := hinitial.bind _ _ _
  have hscope : ∀ closure, (Value.function .sameParams : Value) = .function closure →
      State.assigned.store.Has closure.scope := by
    rintro closure heq
    cases heq
    decide
  have henvironment (mode : Mode) (args : List Value) := (Interpreter.call_environment
    (Interpreter.standard mode) (.function .sameParams) args .assigned hstore hscope).2 _ rfl
  have hnull := (Interpreter.call_environment (Interpreter.standard (.bounded 1)) .null []
    .assigned hstore nofun).1 nofun
  have hrefused := ((henvironment (.bounded 0) [.null, .bool true]).2 rfl).1 0 rfl (by decide)
  obtain ⟨scope, inner, hopens, -, -, hbound⟩ :=
    ((henvironment (.bounded 1) [.null, .bool true]).2 rfl).2 fun limit hlimit => by
      cases hlimit
      decide
  refine ⟨hnull, (henvironment (.bounded 1) [.null]).1 (by decide), hrefused, scope, inner, hopens,
    hopens.depth.trans (congrArg (· + 1) (Store.depth_of_outermost rfl)), ?_, ?_⟩
  · have hlast : ∀ i, 1 < i → Closure.sameParams.params[i]? ≠ some ⟨1⟩ := by
      intro i hi
      have hlength : Closure.sameParams.params.length ≤ i := hi
      rw [List.getElem?_eq_none hlength]
      nofun
    obtain ⟨arg, harg, hlookup⟩ := hopens.param 1 ⟨1⟩ rfl hlast
    cases harg
    exact hlookup
  · refine hbound State.initial.store .global ⟨2⟩ .null hinitial rfl (by decide) ?_ (by decide)
    exact Store.sees_iff.2 (.inl rfl)

end TreeScript
