import TreeScript.Proofs.Lockstep.Correspondence
import TreeScript.Proofs.Scopes

/-!
Two stores beside each other. In two runs of one program scopes may have different numbers and names
may be different keys, so what is the same in both runs is said by relations: which scope of the one
run is matched with which scope of the other, and likewise for keys and for values. Two stores are
matched (`Store.Matched`) if matched scopes have matched parents and bind matched keys to matched
values. Then a key has matched values as seen from matched scopes (`Matched.lookup`), and stores
stay matched when both bind a key (`Matched.bind`), make a scope (`Matched.addChild`), or when more
keys are matched that nothing is bound to (`Matched.moreKeys`).
-/

namespace TreeScript

variable {N M : Type}

/-! ### Matched functions and values -/

/-- Two functions with one body, made in matched scopes, with matched parameters. -/
structure Closure.Matched (key : N → M → Prop) (scope : ScopeId → ScopeId → Prop)
    (left : Closure N) (right : Closure M) : Prop where
  params : List.Forall₂ key left.params right.params
  body : left.body = right.body
  scope : scope left.scope right.scope

theorem Closure.Matched.mono {key key' : N → M → Prop} {scope scope' : ScopeId → ScopeId → Prop}
    {left : Closure N} {right : Closure M}
    (h : left.Matched key scope right) (hkey : ∀ m n, key m n → key' m n)
    (hscope : ∀ a b, scope a b → scope' a b) : left.Matched key' scope' right where
  params := h.params.imp hkey
  body := h.body
  scope := hscope _ _ h.scope

variable [PatternEngine]

/-- Two values of one kind: strings are related, functions are matched, and all else is equal. -/
abbrev Value.Matched (text : Text → Text → Prop) (key : N → M → Prop)
    (scope : ScopeId → ScopeId → Prop) : Value N → Value M → Prop :=
  Value.Rel text (Closure.Matched key scope)

theorem Value.Matched.mono {key key' : N → M → Prop} {scope scope' : ScopeId → ScopeId → Prop}
    {text : Text → Text → Prop} {left : Value N} {right : Value M}
    (h : left.Matched text key scope right) (hkey : ∀ m n, key m n → key' m n)
    (hscope : ∀ a b, scope a b → scope' a b) : left.Matched text key' scope' right :=
  Value.Rel.mono h (fun _ _ htext => htext) fun _ _ hclosure => hclosure.mono hkey hscope

/-! ### Matched stores -/

/-- Two stores look alike from matched scopes. -/
structure Store.Matched [DecidableEq N] [DecidableEq M] (scope : ScopeId → ScopeId → Prop)
    (key : N → M → Prop) (value : Value N → Value M → Prop) (left : Store N) (right : Store M) :
    Prop where
  left_wellFormed : left.WellFormed
  right_wellFormed : right.WellFormed
  left_has : ∀ {a b}, scope a b → left.Has a
  right_has : ∀ {a b}, scope a b → right.Has b
  parent : ∀ {a b}, scope a b → Option.Rel scope (left.parent? a) (right.parent? b)
  value : ∀ {a b m n}, scope a b → key m n →
    Option.Rel value (left.localValue? a m) (right.localValue? b n)

namespace Store.Matched

variable [DecidableEq N] [DecidableEq M] {scope scope' : ScopeId → ScopeId → Prop}
  {key key' : N → M → Prop} {value value' : Value N → Value M → Prop} {left : Store N}
  {right : Store M} {a b : ScopeId} {m : N} {n : M}

/-- Stores with one scope and no bindings are matched. -/
theorem fresh (hscope : ∀ a b, scope a b → a = .global ∧ b = .global) :
    Matched scope key value Store.empty.addGlobal.2 Store.empty.addGlobal.2 where
  left_wellFormed := wellFormed_empty.add nofun
  right_wellFormed := wellFormed_empty.add nofun
  left_has {a b} h := by
    rw [(hscope a b h).1]
    exact Nat.zero_lt_one
  right_has {a b} h := by
    rw [(hscope a b h).2]
    exact Nat.zero_lt_one
  parent {a b} h := by
    obtain ⟨rfl, rfl⟩ := hscope a b h
    exact .none
  value {a b m n} h _ := by
    obtain ⟨rfl, rfl⟩ := hscope a b h
    exact .none

/-- Matched keys are looked up alike from matched scopes. -/
theorem lookup (h : Matched scope key value left right) (hscope : scope a b) (hkey : key m n) :
    Option.Rel value (left.lookup a m) (right.lookup b n) := by
  induction hi : a.index using Nat.strongRecOn generalizing a b with
  | ind i ih =>
    subst hi
    rw [h.left_wellFormed.lookup_eq, h.right_wellFormed.lookup_eq]
    refine optionRel_or (h.value hscope hkey) (optionRel_bind (h.parent hscope) ?_)
    intro outer outer' houter hscope'
    exact ih outer.index (h.left_wellFormed a outer houter) hscope' rfl

/-- Stores stay matched when both bind a key, if it and the scope are matched in one way only. -/
theorem bind {v : Value N} {v' : Value M} (h : Matched scope key value left right)
    (hscope : scope a b) (hv : value v v') (hscopes : ∀ a' b', scope a' b' → (a' = a ↔ b' = b))
    (hkeys : ∀ m' n', key m' n' → (m' = m ↔ n' = n)) :
    Matched scope key value (left.bind a m v) (right.bind b n v') where
  left_wellFormed := h.left_wellFormed.bind a m v
  right_wellFormed := h.right_wellFormed.bind b n v'
  left_has hscope' := has_bind.2 (h.left_has hscope')
  right_has hscope' := has_bind.2 (h.right_has hscope')
  parent {a' b'} hscope' := by
    rw [parent?_bind, parent?_bind]
    exact h.parent hscope'
  value {a' b' m' n'} hscope' hkey' := by
    have hl := h.left_has hscope
    have hr := h.right_has hscope
    have hthere := hscopes a' b' hscope'
    have hnamed := hkeys m' n' hkey'
    rw [localValue?_bind, localValue?_bind]
    by_cases hbound : b' = b ∧ n' = n
    · rw [if_pos ⟨hthere.2 hbound.1, hl, hnamed.2 hbound.2⟩, if_pos ⟨hbound.1, hr, hbound.2⟩]
      exact .some hv
    · rw [if_neg fun hc => hbound ⟨hthere.1 hc.1, hnamed.1 hc.2.2⟩,
        if_neg fun hc => hbound ⟨hc.1, hc.2.2⟩]
      exact h.value hscope' hkey'

/-- Stores stay matched when both make a scope, nested in matched ones, and these new scopes may be
matched, too. -/
theorem addChild (h : Matched scope key value left right) (hscope : scope a b)
    (hle : ∀ a' b', scope a' b' → scope' a' b') (hvalue : ∀ v v', value v v' → value' v v')
    (hnew : ∀ a' b', scope' a' b' →
      scope a' b' ∨ (a' = ⟨left.scopes.size⟩ ∧ b' = ⟨right.scopes.size⟩)) :
    Matched scope' key value' (left.addChild a).2 (right.addChild b).2 where
  left_wellFormed := h.left_wellFormed.addChild (h.left_has hscope)
  right_wellFormed := h.right_wellFormed.addChild (h.right_has hscope)
  left_has {a' b'} hscope' := by
    rw [Has, size_addChild]
    rcases hnew a' b' hscope' with hold | ⟨rfl, -⟩
    · exact Nat.lt_succ_of_lt (h.left_has hold)
    · exact Nat.lt_succ_self _
  right_has {a' b'} hscope' := by
    rw [Has, size_addChild]
    rcases hnew a' b' hscope' with hold | ⟨-, rfl⟩
    · exact Nat.lt_succ_of_lt (h.right_has hold)
    · exact Nat.lt_succ_self _
  parent {a' b'} hscope' := by
    rw [parent?_addChild, parent?_addChild]
    rcases hnew a' b' hscope' with hold | ⟨rfl, rfl⟩
    · rw [if_neg (h.left_has hold).ne_next, if_neg (h.right_has hold).ne_next]
      exact optionRel_mono (h.parent hold) hle
    · rw [if_pos rfl, if_pos rfl]
      exact .some (hle a b hscope)
  value {a' b' m n} hscope' hkey := by
    rw [localValue?_addChild, localValue?_addChild]
    rcases hnew a' b' hscope' with hold | ⟨rfl, rfl⟩
    · exact optionRel_mono (h.value hold hkey) hvalue
    · simp

/-- Stores stay matched when more keys are, if nothing is bound to these. -/
theorem moreKeys (h : Matched scope key value left right)
    (hvalue : ∀ v v', value v v' → value' v v')
    (hnew : ∀ m n, key' m n → key m n ∨
      ∀ a b, scope a b → left.localValue? a m = none ∧ right.localValue? b n = none) :
    Matched scope key' value' left right where
  left_wellFormed := h.left_wellFormed
  right_wellFormed := h.right_wellFormed
  left_has := h.left_has
  right_has := h.right_has
  parent := h.parent
  value {a b m n} hscope hkey := by
    rcases hnew m n hkey with hold | hfree
    · exact optionRel_mono (h.value hscope hold) hvalue
    · rw [(hfree a b hscope).1, (hfree a b hscope).2]
      exact .none

end Store.Matched

end TreeScript
