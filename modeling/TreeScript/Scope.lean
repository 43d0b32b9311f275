import TreeScript.Value.Basic

/-!
Scopes and the store that holds them. A scope binds names and may have a parent; a name is resolved
by walking outward, and the first scope that binds it wins. Binding always goes to the scope itself:
a name that is bound further out is shadowed.

Scopes are never removed. A scope is made after its parent, so parents have smaller numbers
(`Store.WellFormed`), and the walk from a scope ends after at most as many steps as its number.
-/

namespace TreeScript

variable [PatternEngine]

/-! ### Bindings of one scope -/

/-- Names, or other keys, and their values; no name occurs twice. -/
abbrev Bindings (N : Type := Name) := List (N × Value N)

variable {N : Type}

namespace Bindings

variable [DecidableEq N]

def get? (bindings : Bindings N) (name : N) : Option (Value N) :=
  bindings.lookup name

/-- Binds a name; a value that it had before is replaced. -/
def set (name : N) (value : Value N) : Bindings N → Bindings N
  | [] => [(name, value)]
  | (other, old) :: rest =>
    if other = name then (name, value) :: rest else (other, old) :: set name value rest

theorem get?_set (bindings : Bindings N) (key name : N) (value : Value N) :
    (set key value bindings).get? name = if name = key then some value else bindings.get? name := by
  have lookup_pair (pair : N × Value N) (rest : Bindings N) :
      get? (pair :: rest) name = if name = pair.1 then some pair.2 else rest.get? name := by
    obtain ⟨other, old⟩ := pair
    unfold get?
    rw [List.lookup_cons]
    by_cases h : name = other <;> simp [h, beq_eq_false_iff_ne.2]
  induction bindings with
  | nil => rw [set, lookup_pair]
  | cons binding rest ih =>
    obtain ⟨other, old⟩ := binding
    unfold set
    split
    · rename_i h
      subst h
      rw [lookup_pair, lookup_pair]
      split <;> rfl
    · rename_i h
      rw [lookup_pair, lookup_pair, ih]
      by_cases hn : name = other
      · have hne : name ≠ key := fun hk => h (hn.symm.trans hk)
        simp [hn, hn ▸ hne]
      · simp [hn]

end Bindings

structure Scope (N : Type := Name) where
  bindings : Bindings N
  parent : Option ScopeId

namespace Scope

def empty (parent : Option ScopeId) : Scope N :=
  ⟨[], parent⟩

def define [DecidableEq N] (scope : Scope N) (name : N) (value : Value N) : Scope N :=
  { scope with bindings := scope.bindings.set name value }

def get? [DecidableEq N] (scope : Scope N) (name : N) : Option (Value N) :=
  scope.bindings.get? name

def size (scope : Scope N) : Nat :=
  scope.bindings.length

end Scope

/-! ### The store -/

/-- All scopes, in the order in which they were made. -/
structure Store (N : Type := Name) where
  scopes : Array (Scope N)

namespace Store

def empty : Store N := ⟨#[]⟩

def add (store : Store N) (scope : Scope N) : ScopeId × Store N :=
  (⟨store.scopes.size⟩, ⟨store.scopes.push scope⟩)

def addGlobal (store : Store N) : ScopeId × Store N :=
  store.add (.empty none)

/-- Adds a scope nested in another. -/
def addChild (store : Store N) (parent : ScopeId) : ScopeId × Store N :=
  store.add (.empty (some parent))

def scope? (store : Store N) (id : ScopeId) : Option (Scope N) :=
  store.scopes[id.index]?

def bind [DecidableEq N] (store : Store N) (id : ScopeId) (name : N) (value : Value N) : Store N :=
  ⟨store.scopes.modify id.index (·.define name value)⟩

def parent? (store : Store N) (id : ScopeId) : Option ScopeId :=
  (store.scope? id).bind Scope.parent

/-- The value that a name has in a scope itself. -/
def localValue? [DecidableEq N] (store : Store N) (id : ScopeId) (name : N) : Option (Value N) :=
  (store.scope? id).bind (·.get? name)

/-- Whether a name is bound in a scope itself. -/
def isLocal [DecidableEq N] (store : Store N) (id : ScopeId) (name : N) : Bool :=
  (store.localValue? id name).isSome

/-! ### Walking outward -/

/-- The scopes met on at most so many steps outward from a scope, itself first. -/
def walk (store : Store N) : Nat → ScopeId → List ScopeId
  | 0, _ => []
  | steps + 1, id =>
    id :: match store.parent? id with
      | some parent => store.walk steps parent
      | none => []

/-- A scope and the scopes around it, innermost first. -/
def chain (store : Store N) (id : ScopeId) : List ScopeId :=
  store.walk (id.index + 1) id

/-- The value of a name as seen from a scope: that of the first scope outward that binds it. -/
def lookup [DecidableEq N] (store : Store N) (id : ScopeId) (name : N) : Option (Value N) :=
  (store.chain id).findSome? (store.localValue? · name)

/-- The number of scopes around a scope. -/
def depth (store : Store N) (id : ScopeId) : Nat :=
  (store.chain id).length - 1

/-! ### Well-formed stores -/

/-- Every parent was made before its child. -/
def WellFormed (store : Store N) : Prop :=
  ∀ id parent, store.parent? id = some parent → parent.index < id.index

/-- Binding a name changes the parent of no scope. -/
theorem parent?_bind [DecidableEq N] (store : Store N) (id other : ScopeId) (name : N)
    (value : Value N) : (store.bind id name value).parent? other = store.parent? other := by
  unfold parent? scope? bind
  rw [Array.getElem?_modify]
  split
  · cases store.scopes[other.index]? <;> rfl
  · rfl

theorem WellFormed.bind [DecidableEq N] {store : Store N} (h : store.WellFormed) (id : ScopeId)
    (name : N) (value : Value N) : (store.bind id name value).WellFormed := by
  intro other parent hp
  rw [parent?_bind] at hp
  exact h other parent hp

theorem wellFormed_empty : (empty : Store N).WellFormed := by
  intro id parent hp
  simp [parent?, scope?, empty] at hp

/-- A walk with more steps than it needs is the chain. -/
theorem WellFormed.walk_eq_chain {store : Store N} (h : store.WellFormed) (id : ScopeId)
    (steps : Nat) (hlt : id.index < steps) : store.walk steps id = store.chain id := by
  cases steps with
  | zero => exact absurd hlt (Nat.not_lt_zero _)
  | succ steps =>
    unfold chain walk
    cases hp : store.parent? id with
    | none => rfl
    | some parent =>
      have hparent := h id parent hp
      simp only [h.walk_eq_chain parent steps (by omega),
        h.walk_eq_chain parent id.index hparent]
termination_by id.index
decreasing_by all_goals exact hparent

/-- The chain of a scope with a parent is the scope and the chain of the parent. -/
theorem WellFormed.chain_of_parent {store : Store N} (h : store.WellFormed) {id parent : ScopeId}
    (hp : store.parent? id = some parent) : store.chain id = id :: store.chain parent := by
  unfold chain
  rw [walk, hp]
  simp only [h.walk_eq_chain parent id.index (h id parent hp)]
  rfl

end Store

end TreeScript
