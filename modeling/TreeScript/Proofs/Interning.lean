import Mathlib.Data.Nat.Basic
import TreeScript.Proofs.Frame
import TreeScript.Proofs.Lockstep.Matching
import TreeScript.Regex.Engine

/-!
Whether scopes bind names from a table, or texts as they are, makes no difference. Which text a key
stands for is known from the table (`LawfulNaming`): a text has one key and keeps it, and different
texts have different keys. Two states are the same up to their keys (`State.Rekeyed`) if in every
scope the keys of one text are bound to the same value, up to the keys of parameters. To give out a
key, in both, keeps them so, since nothing can be bound yet under a key that is new
(`Rekeyed.intern`).

So evaluation with names from a table ends as evaluation without a table does, and it does not
matter what other names the table has, or in which order it got them (`interning_transparent`).
-/

namespace TreeScript

/-! ### The keys of texts -/

/-- Which key a text has got from a table, and what makes keys as good as texts. -/
class LawfulNaming (N : Type) (T : outParam Type) [Naming N T] where
  /-- The key of a text, if it has got one. -/
  find? : T → String → Option N
  find?_intern : ∀ table text other, find? (Naming.intern (N := N) table text).2 other =
    if other = text then some (Naming.intern table text).1 else find? table other
  intern_of_find? : ∀ {table text key}, find? table text = some key →
    (Naming.intern table text).1 = key
  injective : ∀ {table text other key}, find? table text = some key →
    find? table other = some key → text = other

/-- Interning a text gives no other text a name. -/
theorem NameTable.find?_intern_of_ne {table : NameTable} {text other : String} (h : other ≠ text) :
    (table.intern text).2.find? other = table.find? other := by
  cases hfind : table.find? text with
  | some name => simp only [intern, hfind]
  | none =>
    ext name
    rw [find?_eq_some_iff, find?_eq_some_iff, (intern_of_find?_eq_none hfind).2,
      getElem?_concat_eq_some_iff]
    simp [h.symm]

instance : LawfulNaming Name NameTable where
  find? := NameTable.find?
  find?_intern table text other := by
    by_cases h : other = text
    · rw [if_pos h, h]
      exact table.find?_intern text
    · rw [if_neg h]
      exact NameTable.find?_intern_of_ne h
  intern_of_find? {table text name} h := by
    change (table.intern text).1 = name
    simp only [NameTable.intern, h]
  injective {table text other name} h h' := by
    have hget := NameTable.find?_eq_some_iff.1 h
    rw [NameTable.find?_eq_some_iff.1 h'] at hget
    exact (Option.some.inj hget).symm

instance : LawfulNaming String Unit where
  find? _ text := some text
  find?_intern table text other := by
    split
    · rename_i h
      rw [h]
      rfl
    · rfl
  intern_of_find? h := Option.some.inj h
  injective h h' := (Option.some.inj h).trans (Option.some.inj h').symm

namespace LawfulNaming

variable {T N T' N' : Type} [Naming N T] [LawfulNaming N T] [Naming N' T'] [LawfulNaming N' T']
  {table : T} {table' : T'} {text other : String} {m m' : N} {n n' : N'}

theorem find?_intern_self (table : T) (text : String) :
    find? (Naming.intern (N := N) table text).2 text =
      some (Naming.intern (N := N) table text).1 := by
  rw [find?_intern, if_pos rfl]

/-- A text keeps its key. -/
theorem find?_of_intern (h : find? table other = some m) :
    find? (Naming.intern (N := N) table text).2 other = some m := by
  rw [find?_intern]
  split
  · rename_i heq
    rw [intern_of_find? (heq ▸ h)]
  · exact h

/-- A key that was there before is not given to another text. -/
theorem eq_of_find?_intern (h : find? table other = some (Naming.intern (N := N) table text).1) :
    other = text :=
  injective (find?_of_intern h) (find?_intern_self table text)

/-- Two keys of one text. -/
def SameText (table : T) (table' : T') (m : N) (n : N') : Prop :=
  ∃ text, find? table text = some m ∧ find? table' text = some n

/-- Of two keys with their counterparts, one is the other exactly if the counterparts are one. -/
theorem SameText.eq_iff (h : SameText table table' m n) (h' : SameText table table' m' n') :
    m' = m ↔ n' = n := by
  obtain ⟨text, hm, hn⟩ := h
  obtain ⟨other, hm', hn'⟩ := h'
  constructor
  · rintro rfl
    have htext := injective hm hm'
    rw [htext, hn'] at hn
    exact Option.some.inj hn
  · rintro rfl
    have htext := injective hn hn'
    rw [htext, hm'] at hm
    exact Option.some.inj hm

theorem SameText.intern (h : SameText table table' m n) (text : String) :
    SameText (Naming.intern (N := N) table text).2 (Naming.intern (N := N') table' text).2 m n :=
  let ⟨other, hm, hn⟩ := h
  ⟨other, find?_of_intern hm, find?_of_intern hn⟩

/-- Two keys that have become keys of one text were so before, or are those of the text that both
tables have interned. -/
theorem SameText.of_intern
    (h : SameText (Naming.intern (N := N) table text).2
      (Naming.intern (N := N') table' text).2 m n) :
    SameText table table' m n ∨
      (m = (Naming.intern table text).1 ∧ n = (Naming.intern table' text).1) := by
  obtain ⟨other, hm, hn⟩ := h
  rw [find?_intern] at hm hn
  by_cases heq : other = text
  · rw [if_pos heq] at hm hn
    exact .inr ⟨(Option.some.inj hm).symm, (Option.some.inj hn).symm⟩
  · rw [if_neg heq] at hm hn
    exact .inl ⟨other, hm, hn⟩

/-- If one of the keys that a text gets has a counterpart already, then it is the other one. -/
theorem SameText.of_left (h : SameText table table' (Naming.intern (N := N) table text).1 n) :
    n = (Naming.intern table' text).1 := by
  obtain ⟨other, hm, hn⟩ := h
  cases eq_of_find?_intern hm
  exact (intern_of_find? hn).symm

theorem SameText.of_right (h : SameText table table' m (Naming.intern (N := N') table' text).1) :
    m = (Naming.intern table text).1 := by
  obtain ⟨other, hm, hn⟩ := h
  cases eq_of_find?_intern hn
  exact (intern_of_find? hm).symm

end LawfulNaming

open LawfulNaming (SameText)

section Rekeying

variable [PatternEngine] {T N T' N' : Type} [DecidableEq N] [Naming N T] [LawfulNaming N T]
  [DecidableEq N'] [Naming N' T'] [LawfulNaming N' T'] {left : State T N} {right : State T' N'}

/-! ### States with other keys -/

/-- Two values that are equal, but for the keys of the parameters of functions. -/
abbrev Value.Rekeyed (left : State T N) (right : State T' N') : Value N → Value N' → Prop :=
  Value.Matched (· = ·) (SameText left.names right.names) fun a b => a = b ∧ left.store.Has a

/-- Two states with the same scopes, which bind the keys of the same texts to the same values. -/
structure State.Rekeyed (left : State T N) (right : State T' N') : Prop where
  callDepth : left.callDepth = right.callDepth
  size : left.store.scopes.size = right.store.scopes.size
  store : Store.Matched (fun a b => a = b ∧ left.store.Has a) (SameText left.names right.names)
    (Value.Rekeyed left right) left.store right.store
  /-- What is bound under a key is bound in the other state, too. -/
  left_bound : ∀ id m, left.store.isLocal id m = true →
    ∃ n : N', SameText left.names right.names m n
  right_bound : ∀ id n, right.store.isLocal id n = true →
    ∃ m : N, SameText left.names right.names m n

/-- How two runs end that began in states with the same bindings. -/
structure RekeyedEnd (result : Except EvalError (Value N)) (after : State T N)
    (result' : Except EvalError (Value N')) (after' : State T' N') : Prop where
  result : SameResult (Value.Rekeyed after after') result result'
  state : after.Rekeyed after'

namespace State.Rekeyed

/-- Both states get a key for a text. -/
theorem intern (h : left.Rekeyed right) (text : String) :
    State.Rekeyed { left with names := (Naming.intern (N := N) left.names text).2 }
      { right with names := (Naming.intern (N := N') right.names text).2 } where
  callDepth := h.callDepth
  size := h.size
  store := by
    refine h.store.moreKeys ?_ ?_
    · intro v v' hv
      exact hv.mono (fun _ _ hkey => hkey.intern text) fun _ _ => id
    intro m n hkey
    by_cases hold : SameText left.names right.names m n
    · exact .inl hold
    rcases hkey.of_intern with hkey | ⟨rfl, rfl⟩
    · exact absurd hkey hold
    -- The keys are new, or else they would have been keys of one text.
    refine .inr fun a b _ => ⟨?_, ?_⟩
    · by_contra hbound
      obtain ⟨n, hkey⟩ := h.left_bound a _ (Option.isSome_iff_ne_none.2 hbound)
      exact hold (hkey.of_left ▸ hkey)
    · by_contra hbound
      obtain ⟨m, hkey⟩ := h.right_bound b _ (Option.isSome_iff_ne_none.2 hbound)
      exact hold (hkey.of_right ▸ hkey)
  left_bound id m hbound :=
    let ⟨n, hkey⟩ := h.left_bound id m hbound
    ⟨n, hkey.intern text⟩
  right_bound id n hbound :=
    let ⟨m, hkey⟩ := h.right_bound id n hbound
    ⟨m, hkey.intern text⟩

/-- Both states bind the key of a text. -/
theorem bind (h : left.Rekeyed right) {scope : ScopeId} {m : N} {n : N'} {v : Value N}
    {v' : Value N'} (hscope : left.store.Has scope) (hkey : SameText left.names right.names m n)
    (hv : v.Rekeyed left right v') :
    State.Rekeyed { left with store := left.store.bind scope m v }
      { right with store := right.store.bind scope n v' } where
  callDepth := h.callDepth
  size := by simp [h.size]
  store := by
    have hbound := h.store.bind ⟨rfl, hscope⟩ hv
      (fun a b hmatch => by rw [hmatch.1]) fun m' n' hkey' => hkey.eq_iff hkey'
    simpa only [Value.Rekeyed, Store.has_bind] using hbound
  left_bound id key hbound := by
    rcases Store.isLocal_bind_iff.1 hbound with ⟨-, -, rfl⟩ | hbound
    · exact ⟨n, hkey⟩
    · exact h.left_bound id key hbound
  right_bound id key hbound := by
    rcases Store.isLocal_bind_iff.1 hbound with ⟨-, -, rfl⟩ | hbound
    · exact ⟨m, hkey⟩
    · exact h.right_bound id key hbound

/-- Both states make a scope. -/
theorem addChild (h : left.Rekeyed right) {parent : ScopeId} (hparent : left.store.Has parent) :
    State.Rekeyed { left with store := (left.store.addChild parent).2 }
      { right with store := (right.store.addChild parent).2 } where
  callDepth := h.callDepth
  size := by simp [h.size]
  store := by
    have hgrows (a b : ScopeId) (hmatch : a = b ∧ left.store.Has a) :
        a = b ∧ (left.store.addChild parent).2.Has a := by
      refine ⟨hmatch.1, ?_⟩
      rw [Store.Has, Store.size_addChild]
      exact Nat.lt_succ_of_lt hmatch.2
    refine h.store.addChild ⟨rfl, hparent⟩ hgrows (fun v v' hv => hv.mono (fun _ _ => id) hgrows) ?_
    rintro a b ⟨rfl, ha⟩
    by_cases hnew : a = ⟨left.store.scopes.size⟩
    · exact .inr ⟨hnew, h.size ▸ hnew⟩
    · exact .inl ⟨rfl, Store.has_add_of_ne hnew ha⟩
  left_bound id m hbound := by
    rw [Store.isLocal, Store.localValue?_addChild] at hbound
    exact h.left_bound id m hbound
  right_bound id n hbound := by
    rw [Store.isLocal, Store.localValue?_addChild] at hbound
    exact h.right_bound id n hbound

/-- States without bindings are the same, whatever names have been given out. -/
theorem fresh (table : T) (table' : T') (callDepth : Nat) :
    State.Rekeyed (⟨table, Store.empty.addGlobal.2, callDepth⟩ : State T N)
      (⟨table', Store.empty.addGlobal.2, callDepth⟩ : State T' N') := by
  have hglobal (a b : ScopeId)
      (hmatch : a = b ∧ (Store.empty.addGlobal.2 : Store N).Has a) : a = .global ∧ b = .global := by
    obtain ⟨rfl, ha⟩ := hmatch
    have hindex : a.index = 0 := Nat.lt_one_iff.1 ha
    exact ⟨congrArg ScopeId.mk hindex, congrArg ScopeId.mk hindex⟩
  exact {
    callDepth := rfl
    size := rfl
    store := .fresh hglobal
    left_bound := by
      intro id m hbound
      rw [Store.isLocal, Store.addGlobal, Store.localValue?_add] at hbound
      cases hbound
    right_bound := by
      intro id n hbound
      rw [Store.isLocal, Store.addGlobal, Store.localValue?_add] at hbound
      cases hbound }

end State.Rekeyed

/-! ### Runs -/

/-- What two states with the same bindings have in common: the keys of each text, and the number of
scopes. -/
def State.shared (left : State T N) (right : State T' N') : (String → N → N' → Prop) × Nat :=
  (fun text m n => LawfulNaming.find? left.names text = some m ∧
    LawfulNaming.find? right.names text = some n, left.store.scopes.size)

omit [DecidableEq N] [DecidableEq N'] in
theorem State.shared_le_intern (left : State T N) (right : State T' N') (text : String) :
    left.shared right ≤
      State.shared { left with names := (Naming.intern (N := N) left.names text).2 }
        { right with names := (Naming.intern (N := N') right.names text).2 } := by
  constructor
  · intro other m n hkeys
    exact ⟨LawfulNaming.find?_of_intern hkeys.1, LawfulNaming.find?_of_intern hkeys.2⟩
  · exact le_rfl

/-- Runs with different keys correspond. -/
def Correspondence.rekeying : Correspondence T N T' N' where
  World := (String → N → N' → Prop) × Nat
  node _ := True
  name w := w.1
  scope w a b := a = b ∧ a.index < w.2
  value w :=
    Value.Matched (· = ·) (fun m n => ∃ text, w.1 text m n) fun a b => a = b ∧ a.index < w.2
  node_part _ _ := trivial
  node_body _ _ _ := trivial
  name_mono := by
    rintro w w' text m n ⟨hle, -⟩ h
    exact hle text m n h
  scope_mono := by
    rintro w w' a b ⟨-, hle⟩ ⟨heq, hlt⟩
    exact ⟨heq, Nat.lt_of_lt_of_le hlt hle⟩
  value_mono := by
    rintro w w' v v' ⟨hkeys, hsize⟩ h
    refine Value.Matched.mono h ?_ ?_
    · rintro m n ⟨text, hname⟩
      exact ⟨text, hkeys text m n hname⟩
    · rintro a b ⟨heq, hlt⟩
      exact ⟨heq, Nat.lt_of_lt_of_le hlt hsize⟩
  data h := h.rel fun _ => rfl
  function hparams _ hscope := .function ⟨hparams, rfl, hscope⟩
  indistinct h := h.indistinct fun _ _ heq => heq ▸ .refl _
  state w left right := w = left.shared right ∧ left.Rekeyed right
  closure h := by
    cases h with
    | function h => exact ⟨h.params, h.body, trivial, h.scope⟩
  callDepth := by
    rintro _ left right change ⟨rfl, h⟩ hdepth
    exact ⟨rfl, congrArg change hdepth, h.size, h.store, h.left_bound, h.right_bound⟩
  intern := by
    rintro _ left right text ⟨rfl, h⟩
    refine ⟨_, left.shared_le_intern right text, ?_, rfl, h.intern text⟩
    exact ⟨LawfulNaming.find?_intern_self _ _, LawfulNaming.find?_intern_self _ _⟩
  lookup := by
    rintro _ left right a b text m n ⟨rfl, h⟩ hscope hkeys
    exact h.store.lookup hscope ⟨text, hkeys⟩
  bind := by
    rintro _ left right a b text m n v v' ⟨rfl, h⟩ ⟨rfl, ha⟩ hkeys hv
    refine ⟨?_, h.bind ha ⟨text, hkeys⟩ hv⟩
    simp only [State.shared, Store.size_bind]
  addChild := by
    rintro _ left right a b ⟨rfl, h⟩ ⟨rfl, ha⟩
    refine ⟨((left.shared right).1, left.store.scopes.size + 1), ⟨le_rfl, Nat.le_succ _⟩,
      ⟨?_, Nat.lt_succ_self _⟩, ?_, h.addChild ha⟩
    · exact congrArg ScopeId.mk h.size
    · simp only [State.shared, Store.size_addChild]

/-- An evaluation does not depend on the keys under which values are bound. -/
theorem State.Rekeyed.endTogether (h : left.Rekeyed right) (mode : Mode) (node : Node)
    {scope : ScopeId} (hscope : left.store.Has scope) :
    Interpreter.EndTogether (.standard mode T N) (.standard mode T' N') (.eval node scope, left)
      (.eval node scope, right) RekeyedEnd := by
  let c : Correspondence T N T' N' := .rekeying
  have hat : c.At (left.shared right) left.callDepth left right :=
    ⟨⟨rfl, h⟩, rfl, h.callDepth.symm⟩
  have halike : c.Alike (left.shared right) (.eval node scope) (.eval node scope) :=
    .eval trivial ⟨rfl, hscope⟩
  refine (Correspondence.endTogether halike hat).mono ?_
  rintro result after result' after' ⟨_, -, hresult, ⟨⟨rfl, hafter⟩, -, -⟩⟩
  exact ⟨hresult, hafter⟩

/-- **Interning is transparent.** From states with the same bindings, the evaluation of a node with
names from a table ends together with the evaluation that binds texts as they are and has no table:
with the same value, up to the names of parameters, or with the same error, and in states with the
same bindings. So evaluations end together, too, where two tables have given out different names
before, or the same in another order. -/
theorem interning_transparent (mode : Mode) (node : Node) (scope : ScopeId) :
    (∀ (left : State) (right : State Unit String), left.Rekeyed right → left.store.Has scope →
      Interpreter.EndTogether (.standard mode) (.standard mode Unit String)
        (.eval node scope, left) (.eval node scope, right) RekeyedEnd) ∧
    ∀ left right : State, left.Rekeyed right → left.store.Has scope →
      Interpreter.EndTogether (.standard mode) (.standard mode)
        (.eval node scope, left) (.eval node scope, right) RekeyedEnd :=
  ⟨fun _ _ h hscope => h.endTogether mode node hscope,
    fun _ _ h hscope => h.endTogether mode node hscope⟩

end Rekeying

/-- An assignment where another name was given out before, where none was, and where there are no
names. -/
theorem interning_transparent_assignNull :
    (∃ result after, (Interpreter.standard .unlimited Unit String).Ends
        (.eval (.assignNull "x") .global) ⟨(), Store.empty.addGlobal.2, 0⟩ result after ∧
      RekeyedEnd (.ok .null) ⟨.ofTexts ["y", "x"], State.initial.store.bind .global ⟨2⟩ .null, 0⟩
        result after) ∧
    ∃ result after, (Interpreter.standard .unlimited).Ends (.eval (.assignNull "x") .global)
        .initial result after ∧
      RekeyedEnd (.ok .null) ⟨.ofTexts ["y", "x"], State.initial.store.bind .global ⟨2⟩ .null, 0⟩
        result after := by
  have hends : (Interpreter.standard .unlimited).Ends (.eval (.assignNull "x") .global)
      ⟨.ofTexts ["y"], Store.empty.addGlobal.2, 0⟩ (.ok .null)
      ⟨.ofTexts ["y", "x"], State.initial.store.bind .global ⟨2⟩ .null, 0⟩ := ⟨2, by rfl⟩
  have hscope : (Store.empty.addGlobal.2 : Store).Has .global := by decide
  have htransparent := interning_transparent .unlimited (.assignNull "x") .global
  constructor
  · exact (htransparent.1 _ _ (.fresh (.ofTexts ["y"]) () 0) hscope).forth _ _ hends
  · exact (htransparent.2 _ _ (.fresh (.ofTexts ["y"]) .new 0) hscope).forth _ _ hends

end TreeScript
