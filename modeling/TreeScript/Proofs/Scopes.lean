import TreeScript.Interpreter

/-!
The store of scopes under its operations: what binding a name and adding a scope change, and that
they change nothing else.
-/

namespace TreeScript.Store

variable [PatternEngine] {N : Type} {store : Store N} {id other parent : ScopeId} {name key : N}
  {value : Value N}

def Has (store : Store N) (id : ScopeId) : Prop :=
  id.index < store.scopes.size

instance : Decidable (store.Has id) :=
  inferInstanceAs (Decidable (_ < _))

theorem scope?_eq_none_iff : store.scope? id = none ↔ ¬ store.Has id := by
  simp [scope?, Has]

theorem has_of_scope? {scope : Scope N} (h : store.scope? id = some scope) : store.Has id :=
  Decidable.byContradiction fun hnot => by
    rw [scope?_eq_none_iff.2 hnot] at h
    cases h

section Binding

variable [DecidableEq N]

theorem localValue?_of_not_has (h : ¬ store.Has id) (name : N) :
    store.localValue? id name = none := by
  rw [localValue?, scope?_eq_none_iff.2 h, Option.bind_none]

/-- A scope from which a name is found is there. -/
theorem has_of_lookup (h : store.lookup id name = some value) : store.Has id := by
  refine Decidable.byContradiction fun hnot => ?_
  have hnone := scope?_eq_none_iff.2 hnot
  simp [lookup, chain, walk, parent?, localValue?, hnone] at h

/-- What a scope itself binds is found from it. -/
theorem lookup_of_localValue? (h : store.localValue? id name = some value) :
    store.lookup id name = some value := by
  rw [lookup, chain, walk, List.findSome?_cons, h]

/-- What a name has as seen from a scope, it has in some scope itself. -/
theorem exists_localValue?_of_lookup (h : store.lookup id name = some value) :
    ∃ holder, store.localValue? holder name = some value := by
  obtain ⟨holder, -, hvalue⟩ := List.exists_of_findSome?_eq_some h
  exact ⟨holder, hvalue⟩

/-- A name is looked up in a scope itself first, and then from its parent. -/
theorem WellFormed.lookup_eq (h : store.WellFormed) : store.lookup id name =
    (store.localValue? id name).or ((store.parent? id).bind (store.lookup · name)) := by
  cases hp : store.parent? id with
  | none =>
    rw [lookup, chain, walk, hp]
    cases hv : store.localValue? id name <;> simp [hv]
  | some parent =>
    rw [lookup, h.chain_of_parent hp, List.findSome?_cons]
    cases store.localValue? id name <;> rfl

/-! ### Binding -/

@[simp]
theorem size_bind : (store.bind id name value).scopes.size = store.scopes.size :=
  Array.size_modify

@[simp]
theorem has_bind : (store.bind id name value).Has other ↔ store.Has other := by
  rw [Has, Has, size_bind]

theorem scope?_bind_of_ne (h : other ≠ id) :
    (store.bind id name value).scope? other = store.scope? other := by
  have hne : id.index ≠ other.index := fun heq => h (by cases id; cases other; simp_all)
  simp [scope?, bind, Array.getElem?_modify, hne]

theorem scope?_bind_self :
    (store.bind id name value).scope? id = (store.scope? id).map (·.define name value) := by
  simp [scope?, bind, Array.getElem?_modify]

/-- A name that is bound has its new value there; everything else is as before. -/
theorem localValue?_bind : (store.bind id key value).localValue? other name =
    if other = id ∧ store.Has id ∧ name = key then some value
    else store.localValue? other name := by
  by_cases hid : other = id
  · subst hid
    cases hs : store.scope? other with
    | none =>
      have hnot := scope?_eq_none_iff.1 hs
      rw [localValue?_of_not_has (mt has_bind.1 hnot), localValue?_of_not_has hnot]
      simp [hnot]
    | some scope =>
      have hhas : store.Has other := has_of_scope? hs
      simp [localValue?, scope?_bind_self, hs, hhas, Scope.get?, Scope.define, Bindings.get?_set]
  · simp [localValue?, scope?_bind_of_ne hid, hid]

/-- A name that is bound is local then, and what was local stays so. -/
theorem isLocal_bind_iff : (store.bind id key value).isLocal other name = true ↔
    (other = id ∧ store.Has id ∧ name = key) ∨ store.isLocal other name = true := by
  rw [isLocal, isLocal, localValue?_bind]
  split
  · rename_i h
    simp [h]
  · rename_i h
    simp [h]

end Binding

/-! ### Adding a scope -/

/-- A scope that is there is not the one that is added next. -/
theorem Has.ne_next (h : store.Has id) : id ≠ ⟨store.scopes.size⟩ := by
  rintro rfl
  exact Nat.lt_irrefl _ h

section Add

variable {outer : Option ScopeId}

@[simp]
theorem size_add : (store.add (.empty outer)).2.scopes.size = store.scopes.size + 1 :=
  Array.size_push ..

theorem scope?_add_of_has (h : store.Has id) :
    (store.add (.empty outer)).2.scope? id = store.scope? id := by
  have hne : id.index ≠ store.scopes.size := Nat.ne_of_lt h
  simp [scope?, add, Array.getElem?_push, hne]

theorem scope?_add_self :
    (store.add (.empty outer)).2.scope? ⟨store.scopes.size⟩ = some (.empty outer) := by
  simp [scope?, add]

/-- The scope that is added next binds nothing yet. -/
@[simp]
theorem localValue?_next [DecidableEq N] (store : Store N) (name : N) :
    store.localValue? ⟨store.scopes.size⟩ name = none :=
  localValue?_of_not_has (fun h => h.ne_next rfl) name

/-- The only new scope is the one that is added. -/
theorem has_add_of_ne (hid : id ≠ ⟨store.scopes.size⟩)
    (h : (store.add (.empty outer)).2.Has id) : store.Has id := by
  rw [Has, size_add] at h
  have hne : id.index ≠ store.scopes.size := fun heq => hid (heq ▸ rfl)
  rw [Has]
  omega

theorem scope?_add_of_ne (hid : id ≠ ⟨store.scopes.size⟩) :
    (store.add (.empty outer)).2.scope? id = store.scope? id := by
  by_cases h : store.Has id
  · exact scope?_add_of_has h
  · rw [scope?_eq_none_iff.2 h, scope?_eq_none_iff.2 (mt (has_add_of_ne hid) h)]

/-- A scope that is added binds nothing. -/
@[simp]
theorem localValue?_add [DecidableEq N] :
    (store.add (.empty outer)).2.localValue? id name = store.localValue? id name := by
  by_cases hid : id = ⟨store.scopes.size⟩
  · rw [hid, localValue?_next, localValue?, scope?_add_self]
    rfl
  · rw [localValue?, localValue?, scope?_add_of_ne hid]

theorem parent?_add : (store.add (.empty outer)).2.parent? id =
    if id = ⟨store.scopes.size⟩ then outer else store.parent? id := by
  by_cases hid : id = ⟨store.scopes.size⟩
  · rw [if_pos hid, hid, parent?, scope?_add_self]
    rfl
  · rw [if_neg hid, parent?, parent?, scope?_add_of_ne hid]

/-- A scope that is made after its parent keeps a store well-formed. -/
theorem WellFormed.add (h : store.WellFormed) (houter : ∀ parent, outer = some parent →
    store.Has parent) : (store.add (.empty outer)).2.WellFormed := by
  intro id parent hp
  rw [parent?_add] at hp
  split at hp
  · rename_i hid
    rw [hid]
    exact houter parent hp
  · exact h id parent hp

end Add

@[simp]
theorem size_addChild : (store.addChild parent).2.scopes.size = store.scopes.size + 1 :=
  size_add

theorem scope?_addChild_of_has (h : store.Has id) :
    (store.addChild parent).2.scope? id = store.scope? id :=
  scope?_add_of_has h

@[simp]
theorem localValue?_addChild [DecidableEq N] :
    (store.addChild parent).2.localValue? id name = store.localValue? id name :=
  localValue?_add

theorem parent?_addChild : (store.addChild parent).2.parent? id =
    if id = ⟨store.scopes.size⟩ then some parent else store.parent? id :=
  parent?_add

theorem WellFormed.addChild (h : store.WellFormed) (hparent : store.Has parent) :
    (store.addChild parent).2.WellFormed := by
  refine h.add ?_
  intro outer heq
  cases heq
  exact hparent

/-! ### Entering a function -/

section Enter

variable [DecidableEq N]

theorem foldl_bind_induction {motive : Store N → Prop} (id : ScopeId) (pairs : List (N × Value N))
    (hstart : motive store)
    (hstep : ∀ store pair, pair ∈ pairs → motive store → motive (store.bind id pair.1 pair.2)) :
    motive (pairs.foldl (fun store (param, arg) => store.bind id param arg) store) := by
  induction pairs generalizing store with
  | nil => exact hstart
  | cons pair rest ih =>
    exact ih (hstep store pair List.mem_cons_self hstart) fun store other h =>
      hstep store other (List.mem_cons_of_mem pair h)

variable {closure : Closure N} {args : List (Value N)}

@[simp]
theorem size_enter : (store.enter closure args).2.scopes.size = store.scopes.size + 1 :=
  foldl_bind_induction (motive := fun inner => inner.scopes.size = store.scopes.size + 1) _ _
    size_addChild fun _ _ _ h => size_bind.trans h

/-- Entering a function leaves all scopes as they are. -/
theorem scope?_enter_of_has (h : store.Has id) :
    (store.enter closure args).2.scope? id = store.scope? id :=
  foldl_bind_induction (motive := fun inner => inner.scope? id = store.scope? id) _ _
    (scope?_addChild_of_has h) fun _ _ _ hscope => (scope?_bind_of_ne h.ne_next).trans hscope

end Enter

end TreeScript.Store
