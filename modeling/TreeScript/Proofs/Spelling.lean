import TreeScript.Proofs.Lockstep.Matching
import TreeScript.Regex.Engine

/-!
Programs cannot tell how a string is spelled. A string may be stored in several ways that expand to
the same characters, such as a line feed, or a backslash and an `n`. Values that differ by that
alone are similar (`Value.Similar`), and so are functions with similar values around them: the same
parameters and the same body, made in scopes that stand for each other. Operations on similar values
agree (`Value.Similar.binary` and its like): whatever they read of a string is the expansion of what
is stored, and a string that they make is stored in one way only. So evaluations from similar states
end in similar values and similar states, or in the same error (`spelling_invisible`).
-/

namespace TreeScript

section Spellings

variable [PatternEngine] {scope : ScopeId → ScopeId → Prop}

/-! ### Similar values -/

/-- Two values that are equal up to the spelling of strings, where functions belong to scopes that
stand for each other. -/
abbrev Value.Similar (scope : ScopeId → ScopeId → Prop) : Value → Value → Prop :=
  Value.Matched Text.Respells (· = ·) scope

namespace Value

variable {left right left' right' : Value}

theorem SameData.similar (h : left.SameData right) : left.Similar scope right :=
  h.rel .refl

namespace Similar

theorem indistinct (h : left.Similar scope right) : left.Indistinct right :=
  Rel.indistinct h fun _ _ htext => htext

theorem mono {wider : ScopeId → ScopeId → Prop} (h : left.Similar scope right)
    (hle : ∀ a b, scope a b → wider a b) : left.Similar wider right :=
  Matched.mono h (fun _ _ hname => hname) hle

/-- Operators do not tell similar operands apart. -/
theorem binary (hl : left.Similar scope left') (hr : right.Similar scope right')
    (operator : Operator) :
    SameResult (Similar scope) (left.binary operator right) (left'.binary operator right') :=
  (binary_indistinct operator hl.indistinct hr.indistinct).mono fun _ _ => SameData.similar

theorem compare (hl : left.Similar scope left') (hr : right.Similar scope right')
    (operator : Operator) :
    SameResult (Similar scope) (Value.compare operator left right)
      (Value.compare operator left' right') :=
  (compare_indistinct operator hl.indistinct hr.indistinct).mono fun _ _ => SameData.similar

theorem indexGet (hl : left.Similar scope left') (hr : right.Similar scope right') :
    SameResult (Similar scope) (left.indexGet right) (left'.indexGet right') :=
  (indexGet_indistinct hl.indistinct hr.indistinct).mono fun _ _ => SameData.similar

theorem indexSet {index index' : Option Value} (hl : left.Similar scope left')
    (hi : Option.Rel (Similar scope) index index') (hr : right.Similar scope right') :
    SameResult (Similar scope) (left.indexSet index right) (left'.indexSet index' right') := by
  have hi : Option.Rel Indistinct index index' := optionRel_mono hi fun _ _ => indistinct
  exact (indexSet_indistinct hl.indistinct hi hr.indistinct).mono fun _ _ => SameData.similar

end Similar

end Value

/-! ### Similar states -/

/-- Two states in which scopes that stand for each other bind the same names to similar values. Each
scope stands for one scope at most. -/
structure State.Similar (scope : ScopeId → ScopeId → Prop) (left right : State) : Prop where
  names : left.names = right.names
  callDepth : left.callDepth = right.callDepth
  unique : ∀ {a b a' b'}, scope a b → scope a' b' → (a' = a ↔ b' = b)
  store : left.store.Matched scope (· = ·) (Value.Similar scope) right.store

/-- How two runs end that began in similar states, where the given scopes stood for each other;
scopes that the runs have made may do so, too. -/
def SimilarEnd (scope : ScopeId → ScopeId → Prop) (result : Except EvalError Value) (after : State)
    (result' : Except EvalError Value) (after' : State) : Prop :=
  ∃ wider : ScopeId → ScopeId → Prop, (∀ a b, scope a b → wider a b) ∧
    SameResult (Value.Similar wider) result result' ∧ after.Similar wider after'

/-- The scopes that stand for each other when two more do. -/
def withScopes (scope : ScopeId → ScopeId → Prop) (a b : ScopeId) : ScopeId → ScopeId → Prop :=
  fun a' b' => scope a' b' ∨ (a' = a ∧ b' = b)

namespace State.Similar

variable {left right : State} {a b : ScopeId} {name : Name} {v v' : Value}

/-- Both states bind a name. -/
theorem bind (h : left.Similar scope right) (hscope : scope a b) (hv : v.Similar scope v') :
    Similar scope { left with store := left.store.bind a name v }
      { right with store := right.store.bind b name v' } where
  names := h.names
  callDepth := h.callDepth
  unique := h.unique
  store := h.store.bind hscope hv (fun _ _ hscope' => h.unique hscope hscope')
    fun m n heq => by rw [heq]

/-- Both states make a scope, and these scopes stand for each other. -/
theorem addChild (h : left.Similar scope right) (hscope : scope a b) :
    Similar (withScopes scope ⟨left.store.scopes.size⟩ ⟨right.store.scopes.size⟩)
      { left with store := (left.store.addChild a).2 }
      { right with store := (right.store.addChild b).2 } where
  names := h.names
  callDepth := h.callDepth
  unique {a₁ b₁ a₂ b₂} hscope₁ hscope₂ := by
    have hl (a b : ScopeId) (hold : scope a b) : a ≠ ⟨left.store.scopes.size⟩ :=
      (h.store.left_has hold).ne_next
    have hr (a b : ScopeId) (hold : scope a b) : b ≠ ⟨right.store.scopes.size⟩ :=
      (h.store.right_has hold).ne_next
    rcases hscope₁ with hold₁ | ⟨rfl, rfl⟩ <;> rcases hscope₂ with hold₂ | ⟨rfl, rfl⟩
    · exact h.unique hold₁ hold₂
    · exact iff_of_false (hl _ _ hold₁).symm (hr _ _ hold₁).symm
    · exact iff_of_false (hl _ _ hold₂) (hr _ _ hold₂)
    · exact iff_of_true rfl rfl
  store := h.store.addChild hscope (fun _ _ => .inl) (fun _ _ hv => hv.mono fun _ _ => .inl)
    fun _ _ hscope' => hscope'

end State.Similar

/-! ### Runs -/

/-- Runs from similar states correspond. -/
def Correspondence.spelling : Correspondence where
  World := ScopeId → ScopeId → Prop
  node _ := True
  name _ _ m n := m = n
  scope w := w
  value w := Value.Similar w
  node_part _ _ := trivial
  node_body _ _ _ := trivial
  name_mono _ h := h
  scope_mono {w w' a b} hle h := by
    have hle : ∀ a b, w a b → w' a b := hle
    exact hle a b h
  value_mono hle h := Value.Similar.mono h hle
  data h := h.similar
  function hparams _ hscope := .function ⟨hparams.imp fun _ _ ⟨_, heq⟩ => heq, rfl, hscope⟩
  indistinct h := Value.Similar.indistinct h
  state := State.Similar
  closure h := by
    cases h with
    | function h => exact ⟨h.params.imp fun _ _ heq => ⟨"", heq⟩, h.body, trivial, h.scope⟩
  callDepth change h hdepth := ⟨h.names, congrArg change hdepth, h.unique, h.store⟩
  intern {w left right} text h := by
    refine ⟨w, le_rfl, ?_, ?_, h.callDepth, h.unique, h.store⟩
    · exact congrArg (fun table => (table.intern text).1) h.names
    · exact congrArg (fun table => (table.intern text).2) h.names
  lookup h hscope hname := h.store.lookup hscope hname
  bind h hscope hname hv := by
    cases hname
    exact h.bind hscope hv
  addChild h hscope := ⟨_, fun _ _ => .inl, .inr ⟨rfl, rfl⟩, h.addChild hscope⟩

/-- Evaluations from similar states end together, in a similar way. -/
theorem State.Similar.endTogether {left right : State} (h : left.Similar scope right) (mode : Mode)
    (node : Node) {a b : ScopeId} (hscope : scope a b) :
    Interpreter.EndTogether (.standard mode) (.standard mode) (.eval node a, left)
      (.eval node b, right) (SimilarEnd scope) := by
  have hat : Correspondence.spelling.At scope left.callDepth left right :=
    ⟨h, rfl, h.callDepth.symm⟩
  have halike : Correspondence.spelling.Alike scope (.eval node a) (.eval node b) :=
    .eval trivial hscope
  refine (Correspondence.endTogether halike hat).mono ?_
  rintro result after result' after' ⟨wider, hle, hresult, hafter⟩
  exact ⟨wider, hle, hresult, hafter.state⟩

/-- **Spelling is invisible.** Every operation gives similar results for similar operands, or the
same error; what it says about a value, and what it shows, is the same. And the evaluation of a
node, from similar states in scopes that stand for each other, ends in similar values and similar
states, or in the same error and similar states. -/
theorem spelling_invisible :
    (∀ (left right : Text), left.Respells right → left.length = right.length) ∧
    (∀ (scope : ScopeId → ScopeId → Prop) (left left' right right' : Value),
      left.Similar scope left' → right.Similar scope right' →
      (∀ operator,
        SameResult (Value.Similar scope) (left.binary operator right)
          (left'.binary operator right') ∧
        SameResult (Value.Similar scope) (Value.compare operator left right)
          (Value.compare operator left' right')) ∧
      SameResult (Value.Similar scope) (left.indexGet right) (left'.indexGet right') ∧
      (∀ index index', Option.Rel (Value.Similar scope) index index' →
        SameResult (Value.Similar scope) (left.indexSet index right)
          (left'.indexSet index' right')) ∧
      left.isTruthy = left'.isTruthy ∧ left.iterate = left'.iterate ∧
      left.display = left'.display ∧ left.internal = left'.internal) ∧
    ∀ (mode : Mode) (scope : ScopeId → ScopeId → Prop) (left right : State) (node : Node)
      (a b : ScopeId), left.Similar scope right → scope a b →
      Interpreter.EndTogether (.standard mode) (.standard mode) (.eval node a, left)
        (.eval node b, right) (SimilarEnd scope) := by
  refine ⟨fun _ _ htext => htext.length_eq, ?_,
    fun mode _ _ _ node _ _ h => h.endTogether mode node⟩
  intro scope left left' right right' hl hr
  refine ⟨fun operator => ⟨hl.binary hr operator, hl.compare hr operator⟩, hl.indexGet hr,
    fun index index' hi => hl.indexSet hi hr, ?_, ?_, ?_, ?_⟩
  · exact hl.indistinct.isTruthy_eq
  · exact hl.indistinct.iterate_eq
  · exact hl.indistinct.display_eq
  · exact hl.indistinct.internal_eq

/-- A state in which a variable is a string that is stored in the given way. -/
def State.spelled (raw : String) : State :=
  { State.initial with
    names := .ofTexts ["s"]
    store := State.initial.store.bind .global ⟨1⟩ (.string ⟨raw⟩) }

end Spellings

/-- A line feed and the escape for it: the two strings occur alike in a product, and a variable with
the one evaluates like a variable with the other. -/
theorem spelling_invisible_lineFeed :
    SameResult (Value.Similar fun a b => a = .global ∧ b = .global)
      (Value.binary .mul (.string ⟨"\n"⟩) (.int 2)) (Value.binary .mul (.string ⟨"\\n"⟩) (.int 2)) ∧
    ∃ result after, (Interpreter.standard .unlimited).Ends (.eval (.leaf 1 .identifier "s") .global)
        (.spelled "\\n") result after ∧
      SimilarEnd (fun a b => a = .global ∧ b = .global) (.ok (.string ⟨"\n"⟩)) (.spelled "\n")
        result after := by
  let scope : ScopeId → ScopeId → Prop := fun a b => a = .global ∧ b = .global
  have htext : (⟨"\n"⟩ : Text).Respells ⟨"\\n"⟩ := by rfl
  have hstart : State.Similar scope { State.initial with names := .ofTexts ["s"] }
      { State.initial with names := .ofTexts ["s"] } := by
    refine ⟨rfl, rfl, ?_, .fresh fun _ _ => id⟩
    rintro a b a' b' ⟨rfl, rfl⟩ ⟨rfl, rfl⟩
    exact Iff.rfl
  have hstates : (State.spelled "\n").Similar scope (.spelled "\\n") :=
    hstart.bind ⟨rfl, rfl⟩ (.string htext)
  have hends : (Interpreter.standard .unlimited).Ends (.eval (.leaf 1 .identifier "s") .global)
      (.spelled "\n") (.ok (.string ⟨"\n"⟩)) (.spelled "\n") := ⟨1, by rfl⟩
  constructor
  · exact ((spelling_invisible.2.1 scope _ _ _ _ (.string htext) (.number (.int 2))).1 .mul).1
  · exact (spelling_invisible.2.2 _ _ _ _ _ _ _ hstates ⟨rfl, rfl⟩).forth _ _ hends

end TreeScript
