import TreeScript.Proofs.Text.StoredText
import TreeScript.Proofs.Values.Data

/-!
Values that operations do not tell apart. Two values are related (`Value.Rel`) if they are of one
kind and equal, except that strings and functions need only stand in given relations; the two may
belong to programs that use different keys. To operations, strings of the same content are the same,
and so are all functions (`Value.Indistinct`): such operands give the same error or the same data,
where a string is the same down to its stored text (`binary_indistinct` and its like).
-/

namespace TreeScript

/-- Two operations give alike values or the same error. -/
inductive SameResult {α β : Type} (alike : α → β → Prop) :
    Except EvalError α → Except EvalError β → Prop where
  | ok {left : α} {right : β} (h : alike left right) : SameResult alike (.ok left) (.ok right)
  | error (error : EvalError) : SameResult alike (.error error) (.error error)

namespace SameResult

variable {α β γ : Type} {alike wider : α → β → Prop}

theorem mono {left : Except EvalError α} {right : Except EvalError β}
    (h : SameResult alike left right) (sub : ∀ left right, alike left right → wider left right) :
    SameResult wider left right := by
  cases h with
  | ok h => exact .ok (sub _ _ h)
  | error error => exact .error error

/-- What follows one and the same operation. -/
theorem bind {first : Except EvalError γ} {next : γ → Except EvalError α}
    {next' : γ → Except EvalError β} (h : ∀ c, SameResult alike (next c) (next' c)) :
    SameResult alike (first >>= next) (first >>= next') := by
  cases first with
  | ok c => exact h c
  | error error => exact .error error

end SameResult

/-! ### Strings with the same content -/

namespace Text

/-- Two strings have the same characters, whatever their stored texts are. -/
def Respells (left right : Text) : Prop :=
  left.chars = right.chars

variable {left right left' right' : Text}

theorem Respells.refl (text : Text) : text.Respells text :=
  Eq.refl text.chars

theorem Respells.chars_eq (h : left.Respells right) : left.chars = right.chars :=
  h

theorem Respells.length_eq (h : left.Respells right) : left.length = right.length :=
  congrArg List.length h

theorem Respells.isEmpty_eq (h : left.Respells right) : left.isEmpty = right.isEmpty :=
  congrArg List.isEmpty h

theorem Respells.internal_eq (h : left.Respells right) : left.internal = right.internal :=
  congrArg String.ofList h

theorem Respells.sameContent_eq (h : left.Respells left') (h' : right.Respells right') :
    left.sameContent right = left'.sameContent right' := by
  rw [sameContent, sameContent, h.chars_eq, h'.chars_eq]

/-- A string is shown by its content. -/
theorem Respells.quoted_eq (h : left.Respells right) : left.quoted = right.quoted := by
  have hexpand : expand left.raw.toList = expand right.raw.toList := h.chars_eq
  rw [quoted, quoted, quote_eq, quote_eq, hexpand]

theorem Respells.append_eq (h : left.Respells left') (h' : right.Respells right') :
    left.append right = left'.append right' := by
  rw [append, append, h.chars_eq, h'.chars_eq]

theorem Respells.remove_eq (h : left.Respells left') (h' : right.Respells right') :
    left.remove right = left'.remove right' := by
  rw [remove, remove, h.chars_eq, h'.chars_eq]

theorem Respells.repeat?_eq (h : left.Respells right) (count : Nat) :
    left.repeat? count = right.repeat? count := by
  rw [repeat?, repeat?, byteSize, byteSize, h.isEmpty_eq, h.chars_eq]

theorem Respells.get?_eq (h : left.Respells right) : left.get? = right.get? := by
  funext position
  rw [get?, get?, h.chars_eq]

theorem Respells.set?_eq (h : left.Respells right) : left.set? = right.set? := by
  funext position piece
  rw [set?, set?, h.length_eq, h.chars_eq]

theorem Respells.push_eq (h : left.Respells right) : left.push = right.push := by
  funext piece
  rw [push, push, h.chars_eq]

end Text

namespace Value

variable [PatternEngine] {N M : Type}

/-! ### Related values -/

/-- Two values of one kind: their strings and their functions are related, and all else is equal. -/
inductive Rel (text : Text → Text → Prop) (closure : Closure N → Closure M → Prop) :
    Value N → Value M → Prop where
  | null : Rel text closure .null .null
  | bool (value : Bool) : Rel text closure (.bool value) (.bool value)
  | number (value : Number) : Rel text closure (.number value) (.number value)
  | string {left right : Text} (h : text left right) :
      Rel text closure (.string left) (.string right)
  | regex (pattern : Pattern) : Rel text closure (.regex pattern) (.regex pattern)
  | function {left : Closure N} {right : Closure M} (h : closure left right) :
      Rel text closure (.function left) (.function right)

/-- Two values are the same data: equal, but for their keys, and no functions. -/
abbrev SameData : Value N → Value M → Prop :=
  Rel (· = ·) fun _ _ => False

/-- Operations cannot tell two values apart. -/
abbrev Indistinct : Value N → Value M → Prop :=
  Rel Text.Respells fun _ _ => True

section Relations

variable {text wider : Text → Text → Prop} {closure wider' : Closure N → Closure M → Prop}
  {left : Value N} {right : Value M}

theorem Rel.mono (h : Rel text closure left right) (htext : ∀ l r, text l r → wider l r)
    (hclosure : ∀ l r, closure l r → wider' l r) : Rel wider wider' left right := by
  cases h with
  | null => exact .null
  | bool value => exact .bool value
  | number value => exact .number value
  | string h => exact .string (htext _ _ h)
  | regex pattern => exact .regex pattern
  | function h => exact .function (hclosure _ _ h)

theorem Rel.kind_eq (h : Rel text closure left right) : left.kind = right.kind := by
  cases h <;> rfl

theorem Rel.kindName_eq (h : Rel text closure left right) : left.kindName = right.kindName :=
  congrArg Kind.name h.kind_eq

/-- Values with related strings are indistinct if related strings have the same content. -/
theorem Rel.indistinct (h : Rel text closure left right)
    (htext : ∀ l r, text l r → l.Respells r) : left.Indistinct right :=
  h.mono htext fun _ _ _ => trivial

/-- What is the same data is related in every way in which equal strings are. -/
theorem SameData.rel (h : left.SameData right) (htext : ∀ l, text l l) :
    Rel text closure left right :=
  h.mono (fun l _ heq => heq ▸ htext l) fun _ _ => False.elim

theorem sameData_self {value : Value N} (h : value.kind ≠ .function) : value.SameData value := by
  cases value with
  | null => exact .null
  | bool value => exact .bool value
  | number value => exact .number value
  | string text => exact .string rfl
  | regex pattern => exact .regex pattern
  | function closure => exact absurd rfl h

theorem SameData.eq {left right : Value N} (h : left.SameData right) :
    left = right ∧ left.kind ≠ .function := by
  cases h with
  | string h => exact ⟨congrArg Value.string h, nofun⟩
  | function h => exact h.elim
  | _ => exact ⟨rfl, nofun⟩

end Relations

theorem Lift.of_sameData {related : Closure N → Closure N → Prop} {left right : Value N}
    (h : left.SameData right) : Lift related left right := by
  obtain ⟨rfl, hkind⟩ := h.eq
  exact .data hkind

theorem Lift.indistinct {related : Closure N → Closure N → Prop} {left right : Value N}
    (h : Lift related left right) : left.Indistinct right := by
  cases h with
  | data h => exact (sameData_self h).rel .refl
  | function h => exact .function trivial

/-! ### Operations on indistinct values -/

section Operations

variable {left right : Value N} {left' right' : Value M}

theorem Indistinct.isTruthy_eq (h : left.Indistinct left') : left.isTruthy = left'.isTruthy := by
  cases h with
  | string h => exact congrArg (!·) h.isEmpty_eq
  | _ => rfl

theorem Indistinct.display_eq (h : left.Indistinct left') : left.display = left'.display := by
  cases h with
  | string h => exact h.quoted_eq
  | _ => rfl

theorem Indistinct.internal_eq (h : left.Indistinct left') : left.internal = left'.internal := by
  cases h with
  | string h => exact h.internal_eq
  | _ => rfl

theorem Indistinct.iterate_eq (h : left.Indistinct left') : left.iterate = left'.iterate := by
  cases h with
  | string h =>
    rw [iterate, iterate, Iterator.ofText, Iterator.ofText, h.chars_eq]
  | _ => rfl

theorem add_indistinct (hl : left.Indistinct left') (hr : right.Indistinct right') :
    SameResult SameData (left.add right) (left'.add right') := by
  cases hl with
  | number a =>
    cases hr with
    | number b => exact .ok (.number _)
    | _ => exact .error _
  | string h =>
    cases hr with
    | string h' => exact .ok (.string (h.append_eq h'))
    | _ => exact .error _
  | _ => exact .error _

theorem sub_indistinct (hl : left.Indistinct left') (hr : right.Indistinct right') :
    SameResult SameData (left.sub right) (left'.sub right') := by
  cases hl with
  | number a =>
    cases hr with
    | number b => exact .ok (.number _)
    | _ => exact .error _
  | string h =>
    cases hr with
    | string h' => exact .ok (.string (h.remove_eq h'))
    | regex b => exact .ok (.string (congrArg (fun chars => Text.ofChars (b.removeFrom chars)) h))
    | _ => exact .error _
  | _ => exact .error _

theorem repeatString_respells {text text' : Text} (h : text.Respells text') (count : Number) :
    SameResult SameData (repeatString text count : Result N)
      (repeatString text' count : Result M) := by
  cases count with
  | float count => exact .error _
  | int count =>
    simp only [repeatString, h.repeat?_eq]
    split
    · exact .error _
    · cases text'.repeat? count.toInt.toNat with
      | none => exact .error _
      | some repeated => exact .ok (.string rfl)

theorem mul_indistinct (hl : left.Indistinct left') (hr : right.Indistinct right') :
    SameResult SameData (left.mul right) (left'.mul right') := by
  cases hl with
  | number a =>
    cases hr with
    | number b => exact .ok (.number _)
    | _ => exact .error _
  | string h =>
    cases hr with
    | number b => exact repeatString_respells h b
    | _ => exact .error _
  | _ => exact .error _

/-- Whether a comparison holds does not depend on how strings are spelled. -/
theorem Indistinct.holds_eq (operator : Operator) (hl : left.Indistinct left')
    (hr : right.Indistinct right') : left.holds operator right = left'.holds operator right' := by
  cases hl with
  | string h =>
    cases hr with
    | string h' => simp only [holds, h.sameContent_eq h', answer, kindName, kind, polarity]
    | regex b => simp only [holds, h.chars_eq, answer, kindName, kind, polarity]
    | _ => rfl
  | regex a =>
    cases hr with
    | string h' => simp only [holds, h'.chars_eq, answer, kindName, kind, polarity]
    | _ => rfl
  | _ => cases hr <;> rfl

theorem compare_indistinct (operator : Operator) (hl : left.Indistinct left')
    (hr : right.Indistinct right') :
    SameResult SameData (compare operator left right) (compare operator left' right') := by
  unfold compare
  rw [hl.holds_eq operator hr]
  split
  · exact .bind fun holds => .ok (.bool holds)
  · exact .error _

theorem binary_indistinct (operator : Operator) (hl : left.Indistinct left')
    (hr : right.Indistinct right') :
    SameResult SameData (left.binary operator right) (left'.binary operator right') := by
  cases operator with
  | add => exact add_indistinct hl hr
  | sub => exact sub_indistinct hl hr
  | mul => exact mul_indistinct hl hr
  | _ => exact compare_indistinct _ hl hr

theorem Indistinct.index_eq (h : left.Indistinct left') : left.index = left'.index := by
  cases h with
  | number n => cases n <;> rfl
  | _ => rfl

theorem indexGet_indistinct (hl : left.Indistinct left') (hr : right.Indistinct right') :
    SameResult SameData (left.indexGet right) (left'.indexGet right') := by
  cases hl with
  | @string _ text h =>
    simp only [indexGet, hr.index_eq, h.get?_eq]
    refine .bind fun i => ?_
    cases (position? i).bind text.get? with
    | some c => exact .ok (.string rfl)
    | none => exact .error _
  | _ => exact .error _

theorem Indistinct.piece_eq (hl : left.Indistinct left') (hr : right.Indistinct right') :
    left.piece right = left'.piece right' := by
  have hmismatch : (mismatch "[]=" left right : Except EvalError (List Char)) =
      mismatch "[]=" left' right' := by
    rw [mismatch, mismatch, hl.kindName_eq, hr.kindName_eq]
  cases hr with
  | string h => exact congrArg Except.ok h
  | number n => rfl
  | _ => exact hmismatch

theorem indexSet_indistinct {index : Option (Value N)} {index' : Option (Value M)}
    (hl : left.Indistinct left') (hi : Option.Rel Indistinct index index')
    (hr : right.Indistinct right') :
    SameResult SameData (left.indexSet index right) (left'.indexSet index' right') := by
  cases hl with
  | @string _ text h =>
    rw [indexSet_string, indexSet_string, Indistinct.piece_eq (.string h) hr]
    refine .bind fun piece => ?_
    cases hi with
    | none => exact .ok (.string (congrFun h.push_eq piece))
    | some hi =>
      simp only [hi.index_eq, h.set?_eq]
      refine .bind fun i => ?_
      cases (position? i).bind (text.set? · piece) with
      | some text => exact .ok (.string rfl)
      | none => exact .error _
  | _ => exact .error _

end Operations

end Value

end TreeScript
