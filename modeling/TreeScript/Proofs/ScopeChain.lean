import TreeScript.Proofs.Scopes
import TreeScript.Regex.Engine

/-!
Chains of scopes. The links to parents lead from a scope outward, one step at a time
(`Store.outward?`), and in a store that came about by making scopes and binding names (`Store.Made`)
they come to an outermost scope after as many steps as the depth of the scope says
(`WellFormed.outward?_depth`). What a name is bound to further out is seen from a scope if no scope
in between binds the name (`Store.Sees`); that is what looking up finds (`lookup_eq_some_iff`), and
so binding a name changes what is found from exactly those scopes that see the new binding
(`lookup_bind_of_sees`, `lookup_bind_of_not_sees`).
-/

namespace TreeScript.Store

section Laws

variable [PatternEngine] {N : Type} {store : Store N} {id other parent holder scope : ScopeId}
  {steps : Nat}

/-! ### Outward steps -/

/-- The scope that is so many links to parents away. -/
def outward? (store : Store N) : Nat → ScopeId → Option ScopeId
  | 0, id => some id
  | steps + 1, id => (store.parent? id).bind (store.outward? steps)

theorem outward?_succ_of_parent (h : store.parent? id = some parent) :
    store.outward? (steps + 1) id = store.outward? steps parent := by
  rw [outward?, h, Option.bind_some]

/-- Further out the numbers of scopes are smaller. -/
theorem WellFormed.index_lt_of_outward (h : store.WellFormed)
    (hout : store.outward? (steps + 1) id = some other) : other.index < id.index := by
  induction steps generalizing id with
  | zero =>
    obtain ⟨parent, hp, heq⟩ := Option.bind_eq_some_iff.1 hout
    cases heq
    exact h id other hp
  | succ steps ih =>
    obtain ⟨parent, hp, hrest⟩ := Option.bind_eq_some_iff.1 hout
    exact Nat.lt_trans (ih hrest) (h id parent hp)

/-- No scope is further out than itself. -/
theorem WellFormed.eq_zero_of_outward_self (h : store.WellFormed)
    (hout : store.outward? steps id = some id) : steps = 0 := by
  cases steps with
  | zero => rfl
  | succ steps => exact absurd (h.index_lt_of_outward hout) (Nat.lt_irrefl _)

/-! ### Depth -/

theorem depth_of_outermost (h : store.parent? id = none) : store.depth id = 0 := by
  rw [depth, chain, walk, h]
  rfl

theorem WellFormed.depth_of_parent (h : store.WellFormed) (hp : store.parent? id = some parent) :
    store.depth id = store.depth parent + 1 := by
  have hpos : 0 < (store.chain parent).length := by
    rw [chain, walk]
    exact Nat.succ_pos _
  rw [depth, depth, h.chain_of_parent hp, List.length_cons]
  omega

/-- From every scope an outermost one is reached after as many steps as the depth says. -/
theorem WellFormed.outward?_depth (h : store.WellFormed) (id : ScopeId) :
    ∃ outermost, store.outward? (store.depth id) id = some outermost ∧
      store.parent? outermost = none := by
  induction hi : id.index using Nat.strongRecOn generalizing id with
  | ind i ih =>
    subst hi
    cases hp : store.parent? id with
    | none => exact ⟨id, by rw [depth_of_outermost hp, outward?], hp⟩
    | some parent =>
      obtain ⟨outermost, hout, hend⟩ := ih parent.index (h id parent hp) parent rfl
      refine ⟨outermost, ?_, hend⟩
      rw [h.depth_of_parent hp, outward?_succ_of_parent hp, hout]

/-- Making a scope changes the depth of no other one. -/
theorem WellFormed.depth_addChild (h : store.WellFormed) (hparent : store.Has parent)
    (hid : store.Has id) : (store.addChild parent).2.depth id = store.depth id := by
  induction hi : id.index using Nat.strongRecOn generalizing id with
  | ind i ih =>
    subst hi
    have hsame : (store.addChild parent).2.parent? id = store.parent? id := by
      rw [parent?_addChild, if_neg hid.ne_next]
    cases hp : store.parent? id with
    | none => rw [depth_of_outermost hp, depth_of_outermost (hsame.trans hp)]
    | some outer =>
      have hlt := h id outer hp
      have houter := ih outer.index hlt (Nat.lt_trans hlt hid) rfl
      rw [h.depth_of_parent hp, (h.addChild hparent).depth_of_parent (hsame.trans hp), houter]

/-- A child is one deeper than the scope that it is made in. -/
theorem WellFormed.depth_child (h : store.WellFormed) (hparent : store.Has parent) :
    (store.addChild parent).2.depth (store.addChild parent).1 = store.depth parent + 1 := by
  have hp : (store.addChild parent).2.parent? (store.addChild parent).1 = some parent := by
    rw [parent?_addChild, Store.addChild, Store.add, if_pos rfl]
  rw [(h.addChild hparent).depth_of_parent hp, h.depth_addChild hparent hparent]

/-- Walks are equal in stores with the same links to parents. -/
theorem walk_congr {later : Store N} (h : ∀ id, later.parent? id = store.parent? id) (steps : Nat)
    (id : ScopeId) : later.walk steps id = store.walk steps id := by
  induction steps generalizing id with
  | zero => rfl
  | succ steps ih =>
    rw [walk, walk, h]
    cases store.parent? id with
    | none => rfl
    | some parent => exact congrArg (id :: ·) (ih parent)

/-! ### What is seen from a scope -/

section Binding

variable [DecidableEq N] {name key : N} {value new : Value N}

/-- Binding a name changes the depth of no scope. -/
theorem depth_bind : (store.bind scope key new).depth id = store.depth id := by
  rw [depth, chain, walk_congr fun id => store.parent?_bind scope id key new]
  rfl

/-- Binding a name changes nothing about other names. -/
theorem lookup_bind_of_ne (h : name ≠ key) :
    (store.bind scope key new).lookup id name = store.lookup id name := by
  rw [lookup, chain, walk_congr fun id => store.parent?_bind scope id key new]
  have hlocal (other : ScopeId) :
      (store.bind scope key new).localValue? other name = store.localValue? other name := by
    rw [localValue?_bind, if_neg fun hnew => h hnew.2.2]
  simp only [hlocal]
  rfl

/-- From a scope, a binding of the name in another one is seen: the other one is on the chain of the
scope, and none before it on the chain binds the name. -/
def Sees (store : Store N) (id holder : ScopeId) (name : N) : Prop :=
  ∃ steps, store.outward? steps id = some holder ∧
    ∀ before < steps, ∀ between, store.outward? before id = some between →
      store.localValue? between name = none

/-- A scope sees its own bindings, and what its parent sees of the names that it does not bind. -/
theorem sees_iff : store.Sees id holder name ↔ id = holder ∨
    store.localValue? id name = none ∧
      ∃ parent, store.parent? id = some parent ∧ store.Sees parent holder name := by
  constructor
  · rintro ⟨steps, hout, hfree⟩
    cases steps with
    | zero => exact .inl (Option.some.inj hout)
    | succ steps =>
      obtain ⟨parent, hp, hrest⟩ := Option.bind_eq_some_iff.1 hout
      refine .inr ⟨hfree 0 (Nat.succ_pos _) id rfl, parent, hp, steps, hrest, ?_⟩
      intro before hlt between hbetween
      refine hfree (before + 1) (Nat.succ_lt_succ hlt) between ?_
      rw [outward?_succ_of_parent hp, hbetween]
  · rintro (rfl | ⟨hlocal, parent, hp, steps, hrest, hfree⟩)
    · exact ⟨0, rfl, fun before hlt => absurd hlt (Nat.not_lt_zero _)⟩
    · refine ⟨steps + 1, (outward?_succ_of_parent hp).trans hrest, ?_⟩
      intro before hlt between hbetween
      cases before with
      | zero =>
        cases hbetween
        exact hlocal
      | succ before =>
        rw [outward?_succ_of_parent hp] at hbetween
        exact hfree before (Nat.lt_of_succ_lt_succ hlt) between hbetween

/-- Where a name is bound in a scope itself, nothing further out is seen of it. -/
theorem sees_iff_of_local (h : store.localValue? id name = some value) :
    store.Sees id holder name ↔ id = holder := by
  rw [sees_iff, h]
  simp

/-- Where a name is not bound, its parent decides what is seen of it. -/
theorem sees_iff_of_not_local (h : store.localValue? id name = none) (hne : id ≠ holder) :
    store.Sees id holder name ↔
      ∃ parent, store.parent? id = some parent ∧ store.Sees parent holder name := by
  rw [sees_iff]
  simp [h, hne]

/-- The value of a name as seen from a scope is the one in the scope whose binding is seen. -/
theorem WellFormed.lookup_eq_some_iff (h : store.WellFormed) : store.lookup id name = some value ↔
    ∃ holder, store.Sees id holder name ∧ store.localValue? holder name = some value := by
  induction hi : id.index using Nat.strongRecOn generalizing id with
  | ind i ih =>
    subst hi
    rw [h.lookup_eq]
    cases hlocal : store.localValue? id name with
    | some bound => simp [sees_iff_of_local hlocal, hlocal]
    | none =>
      have hself (holder : ScopeId) (hvalue : store.localValue? holder name = some value) :
          id ≠ holder := by
        rintro rfl
        rw [hlocal] at hvalue
        cases hvalue
      rw [Option.none_or, Option.bind_eq_some_iff]
      constructor
      · rintro ⟨parent, hp, hfound⟩
        obtain ⟨holder, hsees, hvalue⟩ := (ih _ (h id parent hp) rfl).1 hfound
        exact ⟨holder, sees_iff.2 (.inr ⟨hlocal, parent, hp, hsees⟩), hvalue⟩
      · rintro ⟨holder, hsees, hvalue⟩
        obtain ⟨parent, hp, hsees⟩ := (sees_iff_of_not_local hlocal (hself holder hvalue)).1 hsees
        exact ⟨parent, hp, (ih _ (h id parent hp) rfl).2 ⟨holder, hsees, hvalue⟩⟩

/-! ### Looking up after binding -/

/-- From a scope that sees the new binding, the new value is found. -/
theorem WellFormed.lookup_bind_of_sees (h : store.WellFormed) (hscope : store.Has scope)
    (hsees : store.Sees id scope name) :
    (store.bind scope name new).lookup id name = some new := by
  induction hi : id.index using Nat.strongRecOn generalizing id with
  | ind i ih =>
    subst hi
    rw [(h.bind scope name new).lookup_eq, localValue?_bind, parent?_bind]
    rcases sees_iff.1 hsees with rfl | ⟨hlocal, parent, hp, hparent⟩
    · simp [hscope]
    · have hfound := ih _ (h id parent hp) hparent rfl
      split
      · rfl
      · rw [hlocal, hp, Option.none_or, Option.bind_some, hfound]

/-- From all other scopes, and for all other names, what is found is as before. -/
theorem WellFormed.lookup_bind_of_not_sees (h : store.WellFormed)
    (hsees : ¬ (name = key ∧ store.Sees id scope key)) :
    (store.bind scope key new).lookup id name = store.lookup id name := by
  induction hi : id.index using Nat.strongRecOn generalizing id with
  | ind i ih =>
    subst hi
    have hnew : ¬ (id = scope ∧ store.Has scope ∧ name = key) := by
      rintro ⟨rfl, -, hname⟩
      exact hsees ⟨hname, sees_iff.2 (.inl rfl)⟩
    rw [(h.bind scope key new).lookup_eq, h.lookup_eq, localValue?_bind, parent?_bind, if_neg hnew]
    cases hlocal : store.localValue? id name with
    | some bound => rfl
    | none =>
      cases hp : store.parent? id with
      | none => rfl
      | some parent =>
        refine ih _ (h id parent hp) ?_ rfl
        rintro ⟨rfl, hparent⟩
        exact hsees ⟨rfl, sees_iff.2 (.inr ⟨hlocal, parent, hp, hparent⟩)⟩

/-! ### Stores that come about -/

/-- The stores that come about when scopes are made and names are bound, in any order. -/
inductive Made : Store N → Prop where
  | empty : Made .empty
  | addGlobal {store : Store N} (h : Made store) : Made store.addGlobal.2
  | addChild {store : Store N} {parent : ScopeId} (h : Made store) (hparent : store.Has parent) :
      Made (store.addChild parent).2
  | bind {store : Store N} {scope : ScopeId} {key : N} {new : Value N} (h : Made store)
      (hscope : store.Has scope) : Made (store.bind scope key new)

theorem Made.wellFormed (h : store.Made) : store.WellFormed := by
  induction h with
  | empty => exact wellFormed_empty
  | addGlobal _ ih => exact ih.add nofun
  | addChild _ hparent ih => exact ih.addChild hparent
  | bind _ _ ih => exact ih.bind _ _ _

/-- **Chains of scopes.** In a store that came about by making scopes and binding names, the links
to parents lead from every scope to an outermost one, after as many steps as its depth says, and
never back to the scope; a scope is one deeper than its parent, and so is a child that is made in
it. What is looked up is the binding that is seen first on the way outward. Binding a name changes
no parent and no depth; the new value is found for this name from those scopes that see the new
binding, and all else is found as before. -/
theorem scope_chain_laws (h : store.Made) :
    (∀ id, ∃ outermost, store.outward? (store.depth id) id = some outermost ∧
      store.parent? outermost = none) ∧
    (∀ id steps, store.outward? steps id = some id → steps = 0) ∧
    (∀ id parent, store.parent? id = some parent → store.depth id = store.depth parent + 1) ∧
    (∀ parent, store.Has parent →
      (store.addChild parent).2.depth (store.addChild parent).1 = store.depth parent + 1) ∧
    (∀ id name value, store.lookup id name = some value ↔
      ∃ holder, store.Sees id holder name ∧ store.localValue? holder name = some value) ∧
    (∀ scope key new id, (store.bind scope key new).parent? id = store.parent? id ∧
      (store.bind scope key new).depth id = store.depth id) ∧
    ∀ scope key new id name, store.Has scope →
      (name = key ∧ store.Sees id scope key →
        (store.bind scope key new).lookup id name = some new) ∧
      (¬ (name = key ∧ store.Sees id scope key) →
        (store.bind scope key new).lookup id name = store.lookup id name) := by
  have hwf := h.wellFormed
  refine ⟨hwf.outward?_depth, fun _ _ => hwf.eq_zero_of_outward_self,
    fun _ _ => hwf.depth_of_parent, fun _ => hwf.depth_child,
    fun _ _ _ => hwf.lookup_eq_some_iff, ?_, ?_⟩
  · intro scope key new id
    exact ⟨store.parent?_bind scope id key new, depth_bind⟩
  · intro scope key new id name hscope
    constructor
    · rintro ⟨rfl, hsees⟩
      exact hwf.lookup_bind_of_sees hscope hsees
    · intro hsees
      exact hwf.lookup_bind_of_not_sees hsees

end Binding

/-- Three scopes, each nested in the one before; the middle one binds the empty name. -/
def shadowing : Store :=
  ((empty.addGlobal.2.addChild ⟨0⟩).2.addChild ⟨1⟩).2.bind ⟨1⟩ .empty .null

end Laws

/-- Seen from the innermost of three scopes, a name that is bound in the middle can be bound anew
there, but not in the outermost one. -/
theorem scope_chain_laws_shadowing :
    shadowing.Made ∧ shadowing.depth ⟨2⟩ = 2 ∧ shadowing.outward? 2 ⟨2⟩ = some ⟨0⟩ ∧
      (shadowing.bind ⟨1⟩ .empty (.bool true)).lookup ⟨2⟩ .empty = some (.bool true) ∧
      (shadowing.bind ⟨0⟩ .empty (.bool true)).lookup ⟨2⟩ .empty = some .null := by
  have hmade : shadowing.Made :=
    .bind (.addChild (.addChild (.addGlobal .empty) (by decide)) (by decide)) (by decide)
  obtain ⟨-, -, hdepth, -, -, -, hbind⟩ := scope_chain_laws hmade
  refine ⟨hmade, ?_, rfl, ?_, ?_⟩
  · rw [hdepth ⟨2⟩ ⟨1⟩ rfl, hdepth ⟨1⟩ ⟨0⟩ rfl, depth_of_outermost rfl]
  · refine (hbind ⟨1⟩ .empty _ ⟨2⟩ .empty (by decide)).1 ⟨rfl, 1, rfl, ?_⟩
    intro before hlt between hbetween
    obtain rfl := Nat.lt_one_iff.1 hlt
    cases hbetween
    rfl
  · refine ((hbind ⟨0⟩ .empty _ ⟨2⟩ .empty (by decide)).2 ?_).trans rfl
    rintro ⟨-, hsees⟩
    obtain ⟨parent, hp, hsees⟩ := (sees_iff_of_not_local rfl (by decide)).1 hsees
    cases hp
    exact absurd ((sees_iff_of_local rfl).1 hsees) (by decide)

end TreeScript.Store
