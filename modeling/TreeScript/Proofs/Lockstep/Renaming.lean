import TreeScript.Proofs.Lockstep.Matching

/-!
Runs up to the numbers of scopes. Of two runs of one program the second may begin with more scopes,
as long as nothing that the first run sees differs. A `Renaming` says which scope of the second run
stands for a scope of the first: scopes that both began with stand for themselves, and a scope that
was made later has a number that is greater by a constant. States that look alike in this way
(`Renaming.Related`) stay alike on every single step, which makes a correspondence
(`Correspondence.renaming`).
-/

namespace TreeScript

/-- How the scopes of two runs are matched. -/
structure Renaming where
  /-- How many scopes there were when the first run began. -/
  base : Nat
  /-- By how much the numbers of later scopes are greater in the second run. -/
  shift : Nat
  /-- How many scopes there are in the first run. -/
  size : Nat

namespace Renaming

variable {w w' : Renaming} {a b a' b' : ScopeId}

/-- Later on in the two runs there may be more scopes. -/
structure Grows (w w' : Renaming) : Prop where
  base : w.base = w'.base
  shift : w.shift = w'.shift
  size : w.size ≤ w'.size

instance : Preorder Renaming where
  le := Grows
  le_refl _ := ⟨rfl, rfl, Nat.le_refl _⟩
  le_trans _ _ _ h h' :=
    ⟨h.base.trans h'.base, h.shift.trans h'.shift, Nat.le_trans h.size h'.size⟩

/-- The scope of the second run that stands for a scope of the first. -/
def image (w : Renaming) (id : ScopeId) : ScopeId :=
  if id.index < w.base then id else ⟨id.index + w.shift⟩

/-- A scope of the second run stands for one of the first. -/
def SameScope (w : Renaming) (a b : ScopeId) : Prop :=
  a.index < w.size ∧ b = w.image a

/-- Two functions differ only by the numbers of their scopes. -/
structure SameClosure (w : Renaming) (left right : Closure) : Prop where
  params : left.params = right.params
  body : left.body = right.body
  scope : w.SameScope left.scope right.scope

/-! ### Growth -/

theorem SameScope.mono (hle : w.Grows w') (h : w.SameScope a b) : w'.SameScope a b := by
  refine ⟨Nat.lt_of_lt_of_le h.1 hle.size, ?_⟩
  rw [h.2, image, image, hle.base, hle.shift]

theorem SameClosure.mono {left right : Closure} (hle : w.Grows w') (h : w.SameClosure left right) :
    w'.SameClosure left right where
  params := h.params
  body := h.body
  scope := h.scope.mono hle

/-- Different scopes have different scopes that stand for them. -/
theorem SameScope.eq_iff (h : w.SameScope a b) (h' : w.SameScope a' b') : a = a' ↔ b = b' := by
  obtain ⟨-, rfl⟩ := h
  obtain ⟨-, rfl⟩ := h'
  obtain ⟨i⟩ := a
  obtain ⟨j⟩ := a'
  unfold image
  split <;> split <;> simp only [ScopeId.mk.injEq] at * <;> omega

/-- What is matched after both runs have made a scope. -/
def addScope (w : Renaming) : Renaming :=
  { w with size := w.size + 1 }

theorem grows_addScope (w : Renaming) : w.Grows w.addScope :=
  ⟨rfl, rfl, Nat.le_succ _⟩

/-! ### Values -/

variable [PatternEngine]

/-- Two values are the same up to the numbers of scopes. -/
abbrev SameValue (w : Renaming) : Value → Value → Prop :=
  Value.Lift w.SameClosure

theorem SameValue.mono {left right : Value} (hle : w.Grows w') (h : w.SameValue left right) :
    w'.SameValue left right :=
  Value.Lift.mono h fun _ _ => SameClosure.mono hle

/-! ### States -/

/-- Two states look alike from the scopes that stand for each other. -/
structure Related (w : Renaming) (left right : State) : Prop where
  names : left.names = right.names
  left_size : left.store.scopes.size = w.size
  right_size : right.store.scopes.size = w.size + w.shift
  base_le : w.base ≤ w.size
  left_wellFormed : left.store.WellFormed
  right_wellFormed : right.store.WellFormed
  parent : ∀ a b, w.SameScope a b →
    Option.Rel w.SameScope (left.store.parent? a) (right.store.parent? b)
  value : ∀ a b name, w.SameScope a b →
    Option.Rel w.SameValue (left.store.localValue? a name) (right.store.localValue? b name)

namespace Related

variable {left right : State} {name : Name}

theorem left_has (h : w.Related left right) (hscope : w.SameScope a b) : left.store.Has a := by
  rw [Store.Has, h.left_size]
  exact hscope.1

theorem right_has (h : w.Related left right) (hscope : w.SameScope a b) : right.store.Has b := by
  have hlt := hscope.1
  have hbase := h.base_le
  rw [Store.Has, h.right_size, hscope.2, image]
  split
  · omega
  · exact Nat.add_lt_add_right hlt _

/-- The names that the runs give out and the depth of calls do not matter to the scopes. -/
theorem of_names {names names' : NameTable} (h : w.Related left right) (hnames : names = names')
    (m n : Nat) : w.Related ⟨names, left.store, m⟩ ⟨names', right.store, n⟩ :=
  ⟨hnames, h.left_size, h.right_size, h.base_le, h.left_wellFormed, h.right_wellFormed, h.parent,
    h.value⟩

/-- The two stores are matched by the scopes that stand for each other. -/
theorem matched (h : w.Related left right) :
    Store.Matched w.SameScope (· = ·) w.SameValue left.store right.store where
  left_wellFormed := h.left_wellFormed
  right_wellFormed := h.right_wellFormed
  left_has := h.left_has
  right_has := h.right_has
  parent {a b} hscope := h.parent a b hscope
  value {a b m n} hscope hname := by
    subst hname
    exact h.value a b m hscope

/-- When both runs bind a name to alike values, their states stay alike. -/
theorem bind {v v' : Value} (h : w.Related left right) (hscope : w.SameScope a b)
    (hv : w.SameValue v v') :
    w.Related { left with store := left.store.bind a name v }
      { right with store := right.store.bind b name v' } := by
  have hscopes (a' b' : ScopeId) (hscope' : w.SameScope a' b') : a' = a ↔ b' = b :=
    hscope'.eq_iff hscope
  have hnames (m n : Name) (heq : m = n) : m = name ↔ n = name := by rw [heq]
  have hbound := h.matched.bind hscope hv hscopes hnames
  exact {
    names := h.names
    left_size := by simp [h.left_size]
    right_size := by simp [h.right_size]
    base_le := h.base_le
    left_wellFormed := hbound.left_wellFormed
    right_wellFormed := hbound.right_wellFormed
    parent := fun _ _ => hbound.parent
    value := fun _ _ _ hscope' => hbound.value hscope' rfl }

/-! ### New scopes -/

/-- The scopes that both runs make next stand for each other. -/
theorem sameScope_new (h : w.Related left right) :
    w.addScope.SameScope ⟨left.store.scopes.size⟩ ⟨right.store.scopes.size⟩ := by
  have hbase := h.base_le
  constructor
  · rw [h.left_size]
    exact Nat.lt_succ_self _
  · rw [image, h.left_size, h.right_size, if_neg]
    · rfl
    · exact Nat.not_lt.2 hbase

/-- A scope that is there after both runs have made one was there before or is the new one. -/
theorem sameScope_addScope (h : w.Related left right) (hscope : w.addScope.SameScope a b) :
    w.SameScope a b ∨ (a = ⟨left.store.scopes.size⟩ ∧ b = ⟨right.store.scopes.size⟩) := by
  by_cases ha : a = ⟨left.store.scopes.size⟩
  · exact .inr ⟨ha, (hscope.eq_iff h.sameScope_new).1 ha⟩
  · refine .inl ⟨?_, hscope.2⟩
    have hle : a.index < w.size + 1 := hscope.1
    have hne : a.index ≠ left.store.scopes.size := fun heq => ha (heq ▸ rfl)
    rw [h.left_size] at hne
    omega

/-- When both runs make a scope nested in one that they have, their states stay alike. -/
theorem addChild (h : w.Related left right) (hscope : w.SameScope a b) :
    w.addScope.Related { left with store := (left.store.addChild a).2 }
      { right with store := (right.store.addChild b).2 } := by
  have hle := w.grows_addScope
  have hmade := h.matched.addChild hscope (fun _ _ => SameScope.mono hle)
    (fun _ _ => SameValue.mono hle) fun _ _ => h.sameScope_addScope
  exact {
    names := h.names
    left_size := by simp [h.left_size, addScope]
    right_size := by
      simp only [Store.size_addChild, h.right_size, addScope]
      omega
    base_le := Nat.le_succ_of_le h.base_le
    left_wellFormed := hmade.left_wellFormed
    right_wellFormed := hmade.right_wellFormed
    parent := fun _ _ => hmade.parent
    value := fun _ _ _ hscope' => hmade.value hscope' rfl }

end Related

end Renaming

/-- Runs up to the numbers of scopes correspond. -/
def Correspondence.renaming [PatternEngine] : Correspondence where
  toLikeness := ClosureLikeness.toLikeness {
    World := Renaming
    node _ := True
    name _ _ m n := m = n
    scope := Renaming.SameScope
    closure := Renaming.SameClosure
    node_part _ _ := trivial
    node_body _ _ _ := trivial
    name_mono _ h := h
    scope_mono := Renaming.SameScope.mono
    closure_mono := Renaming.SameClosure.mono
    function hparams _ hscope := by
      have hparams := hparams.imp fun _ _ ⟨_, heq⟩ => heq
      rw [List.forall₂_eq_eq_eq] at hparams
      exact ⟨hparams, rfl, hscope⟩ }
  state := Renaming.Related
  closure {_ left right} h := by
    cases h with
    | data h => exact absurd rfl h
    | function h =>
      refine ⟨?_, h.body, trivial, h.scope⟩
      rw [← h.params]
      exact List.forall₂_same.2 fun _ _ => ⟨"", rfl⟩
  callDepth _ h _ := h.of_names h.names _ _
  intern {w left right} text h := by
    refine ⟨w, le_rfl, ?_, h.of_names ?_ _ _⟩
    · exact congrArg (fun table => (table.intern text).1) h.names
    · exact congrArg (fun table => (table.intern text).2) h.names
  lookup h hscope hname := by
    cases hname
    exact h.matched.lookup hscope rfl
  bind h hscope hname hv := by
    cases hname
    exact h.bind hscope hv
  addChild {w left right a b} h hscope :=
    ⟨w.addScope, w.grows_addScope, h.sameScope_new, h.addChild hscope⟩

/-- Parameters stand for themselves. -/
theorem Correspondence.renaming_params [PatternEngine] (w : Renaming) (params : List Name) :
    renaming.Params w params params :=
  List.forall₂_same.2 fun _ _ => ⟨"", rfl⟩

end TreeScript
