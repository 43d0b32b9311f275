import Mathlib.Data.List.Forall2
import Mathlib.Data.Option.Basic
import Mathlib.Order.Basic
import TreeScript.Proofs.Syntax.Parts
import TreeScript.Proofs.Values.Rel

/-!
How two runs of one program may differ and still be alike. A `Likeness` says which names, scopes and
values of the two runs stand for the same. What stands for the same grows during a run, from world
to world, as names are given out and scopes are made. Operations on values must not tell alike
operands apart. The two runs may use different keys for their scopes, such as names in one of them
and texts in the other.

A `ClosureLikeness` is one of functions alone, all other values being equal; it satisfies these laws
(`ClosureLikeness.toLikeness`).
-/

namespace TreeScript

/-! ### Optional values and results -/

section OptionRel

variable {α β γ δ : Type} {related : α → β → Prop} {related' : γ → δ → Prop}

theorem optionRel_mono {wider : α → β → Prop} {x : Option α} {y : Option β}
    (h : Option.Rel related x y) (sub : ∀ p q, related p q → wider p q) : Option.Rel wider x y := by
  cases h with
  | none => exact .none
  | some h => exact .some (sub _ _ h)

theorem optionRel_refl {related : α → α → Prop} (h : ∀ p, related p p) (x : Option α) :
    Option.Rel related x x := by
  cases x with
  | none => exact .none
  | some p => exact .some (h p)

theorem optionRel_or {x x' : Option α} {y y' : Option β} (h : Option.Rel related x y)
    (h' : Option.Rel related x' y') : Option.Rel related (x.or x') (y.or y') := by
  cases h with
  | none => exact h'
  | some h => exact .some h

theorem optionRel_bind {x : Option α} {y : Option β} {f : α → Option γ} {g : β → Option δ}
    (h : Option.Rel related x y)
    (hnext : ∀ p q, x = some p → related p q → Option.Rel related' (f p) (g q)) :
    Option.Rel related' (x.bind f) (y.bind g) := by
  cases h with
  | none => exact .none
  | some h => exact hnext _ _ rfl h

end OptionRel

variable [PatternEngine]

/-! ### Likenesses -/

/-- What stands for the same in two runs of one program. -/
structure Likeness (N : Type := Name) (N' : Type := Name) where
  /-- What is known of the two runs at some time. -/
  World : Type
  [order : Preorder World]
  /-- The nodes that the program may consist of. -/
  node : Node → Prop
  /-- Names of a text in the two runs. -/
  name : World → String → N → N' → Prop
  scope : World → ScopeId → ScopeId → Prop
  value : World → Value N → Value N' → Prop
  node_part : ∀ {whole part}, node whole → part ∈ whole.parts → node part
  node_body : ∀ {literal body}, node literal → literal.kind = .anonymousFunction →
    literal.child? .body = some body → node body
  name_mono : ∀ {w w' text m n}, w ≤ w' → name w text m n → name w' text m n
  scope_mono : ∀ {w w' a b}, w ≤ w' → scope w a b → scope w' a b
  value_mono : ∀ {w w' left right}, w ≤ w' → value w left right → value w' left right
  /-- Data stands for itself. -/
  data : ∀ {w left right}, left.SameData right → value w left right
  /-- Functions with alike parameters and scopes and one body are alike. -/
  function : ∀ {w params params' body a b},
    List.Forall₂ (fun m n => ∃ text, name w text m n) params params' → node body → scope w a b →
    value w (.function ⟨params, body, a⟩) (.function ⟨params', body, b⟩)
  /-- Operations do not tell alike values apart. -/
  indistinct : ∀ {w left right}, value w left right → left.Indistinct right

attribute [instance] Likeness.order

namespace Likeness

variable {N N' : Type}

/-- Parameters of the two runs: names of the same texts, in the same order. -/
abbrev Params (likeness : Likeness N N') (w : likeness.World) : List N → List N' → Prop :=
  List.Forall₂ fun m n => ∃ text, likeness.name w text m n

theorem params_mono (likeness : Likeness N N') {w w' : likeness.World} (h : w ≤ w')
    {params : List N} {params' : List N'} (hp : likeness.Params w params params') :
    likeness.Params w' params params' :=
  hp.imp fun _ _ ⟨text, hname⟩ => ⟨text, likeness.name_mono h hname⟩

theorem option_mono (likeness : Likeness N N') {w w' : likeness.World} (h : w ≤ w')
    {left : Option (Value N)} {right : Option (Value N')}
    (hv : Option.Rel (likeness.value w) left right) : Option.Rel (likeness.value w') left right :=
  optionRel_mono hv fun _ _ => likeness.value_mono h

/-! ### Operations on alike values -/

section Operations

variable (likeness : Likeness N N') {w : likeness.World} {left right : Value N}
  {left' right' : Value N'}

/-- Two operations that give the same data give alike values. -/
theorem of_sameData {result : Except EvalError (Value N)} {result' : Except EvalError (Value N')}
    (h : SameResult Value.SameData result result') :
    SameResult (likeness.value w) result result' :=
  h.mono fun _ _ => likeness.data

theorem binary (operator : Operator) (hl : likeness.value w left left')
    (hr : likeness.value w right right') :
    SameResult (likeness.value w) (left.binary operator right) (left'.binary operator right') :=
  likeness.of_sameData <|
    Value.binary_indistinct operator (likeness.indistinct hl) (likeness.indistinct hr)

theorem indexGet (hl : likeness.value w left left') (hr : likeness.value w right right') :
    SameResult (likeness.value w) (left.indexGet right) (left'.indexGet right') :=
  likeness.of_sameData <|
    Value.indexGet_indistinct (likeness.indistinct hl) (likeness.indistinct hr)

theorem indexSet {index : Option (Value N)} {index' : Option (Value N')}
    (hl : likeness.value w left left') (hi : Option.Rel (likeness.value w) index index')
    (hr : likeness.value w right right') :
    SameResult (likeness.value w) (left.indexSet index right) (left'.indexSet index' right') := by
  have hi := optionRel_mono hi fun _ _ => likeness.indistinct
  exact likeness.of_sameData <|
    Value.indexSet_indistinct (likeness.indistinct hl) hi (likeness.indistinct hr)

end Operations

end Likeness

/-- What stands for the same in two runs of one program, where only functions need not be equal. -/
structure ClosureLikeness where
  /-- What is known of the two runs at some time. -/
  World : Type
  [order : Preorder World]
  /-- The nodes that the program may consist of. -/
  node : Node → Prop
  /-- Names of a text in the two runs. -/
  name : World → String → Name → Name → Prop
  scope : World → ScopeId → ScopeId → Prop
  closure : World → Closure → Closure → Prop
  node_part : ∀ {whole part}, node whole → part ∈ whole.parts → node part
  node_body : ∀ {literal body}, node literal → literal.kind = .anonymousFunction →
    literal.child? .body = some body → node body
  name_mono : ∀ {w w' text m n}, w ≤ w' → name w text m n → name w' text m n
  scope_mono : ∀ {w w' a b}, w ≤ w' → scope w a b → scope w' a b
  closure_mono : ∀ {w w' left right}, w ≤ w' → closure w left right → closure w' left right
  /-- Functions with alike parameters and scopes and one body are alike. -/
  function : ∀ {w params params' body a b},
    List.Forall₂ (fun m n => ∃ text, name w text m n) params params' → node body → scope w a b →
    closure w ⟨params, body, a⟩ ⟨params', body, b⟩

attribute [instance] ClosureLikeness.order

namespace ClosureLikeness

/-- The likeness of values: all but functions are alike only if they are equal. -/
def toLikeness (likeness : ClosureLikeness) : Likeness where
  World := likeness.World
  node := likeness.node
  name := likeness.name
  scope := likeness.scope
  value w := Value.Lift (likeness.closure w)
  node_part := likeness.node_part
  node_body := likeness.node_body
  name_mono := likeness.name_mono
  scope_mono := likeness.scope_mono
  value_mono h hv := hv.mono fun _ _ => likeness.closure_mono h
  data h := .of_sameData h
  function hp hn hs := .function (likeness.function hp hn hs)
  indistinct h := h.indistinct

end ClosureLikeness

end TreeScript
