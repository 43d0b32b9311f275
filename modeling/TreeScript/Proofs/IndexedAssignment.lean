import TreeScript.Proofs.Frame
import TreeScript.Proofs.Run.IndexedWrite
import TreeScript.Proofs.Spelling
import TreeScript.Regex.Engine

/-!
What an assignment to an indexed variable leaves in the variable. A write puts the content of a
value in place of one character of a string, or at its end (`Text.Written`). The string that an
indexed assignment writes to is the one that the variable had when the assignment began
(`State.Overwrites`); the index and the right side are evaluated after that, and what they bind the
variable to in the same scope is lost (`indexed_assignment`). Where neither of them writes to the
variable, it has the same value just before the write (`IndexedWrite.lookup_before`).
-/

namespace TreeScript

/-! ### Writes -/

theorem Value.bind_eq_ok {α β : Type} {first : Except EvalError α} {next : α → Except EvalError β}
    {b : β} (h : first >>= next = .ok b) : ∃ a, first = .ok a ∧ next a = .ok b := by
  cases first with
  | ok a => exact ⟨a, rfl, h⟩
  | error error => cases h

/-- Where a string can be set, the position is inside it or right behind it. -/
theorem Value.set?_eq_some {text new : Text} {i : Int64} {piece : List Char}
    (h : ((position? i).bind fun position => text.set? position piece) = some new) :
    0 ≤ i.toInt ∧ i.toInt.toNat ≤ text.length ∧ new.chars =
      text.chars.take i.toInt.toNat ++ piece ++ text.chars.drop (i.toInt.toNat + 1) := by
  obtain ⟨position, hposition, hset⟩ := Option.bind_eq_some_iff.1 h
  unfold position? at hposition
  unfold Text.set? at hset
  split at hposition
  · cases hposition
  · rename_i hlow
    cases hposition
    split at hset
    · rename_i hhigh
      cases hset
      exact ⟨Int.not_lt.1 hlow, hhigh, Text.chars_ofChars _⟩
    · cases hset

section Assignments

variable [PatternEngine]

/-! ### Writing to a string -/

/-- A string comes from another one by a write at an index, or at the end if there is no index. -/
inductive Text.Written {N : Type} (old : Text) : Option (Value N) → Value N → Text → Prop where
  | append {value : Value N} {new : Text} (hkind : value.kind = .string ∨ value.kind = .number)
      (hnew : new.chars = old.chars ++ value.internal.toList) : Written old none value new
  | replace {i : Int64} {value : Value N} {new : Text}
      (hkind : value.kind = .string ∨ value.kind = .number) (hlow : 0 ≤ i.toInt)
      (hhigh : i.toInt.toNat ≤ old.length)
      (hnew : new.chars = old.chars.take i.toInt.toNat ++ value.internal.toList ++
        old.chars.drop (i.toInt.toNat + 1)) : Written old (some (.int i)) value new

namespace Value

variable {N : Type} {target value changed : Value N} {index : Option (Value N)}

/-- What is written into a string is the content of a string or the text of a number. -/
theorem piece_eq_ok {piece : List Char} (h : target.piece value = .ok piece) :
    (value.kind = .string ∨ value.kind = .number) ∧ piece = value.internal.toList := by
  cases value with
  | string text =>
    cases h
    exact ⟨.inl rfl, String.toList_ofList.symm⟩
  | number n =>
    cases h
    exact ⟨.inr rfl, rfl⟩
  | _ => cases h

/-- An index is an integer. -/
theorem index_eq_ok {i : Int64} (h : value.index = .ok i) : value = .int i := by
  cases value with
  | number n =>
    cases n with
    | int j =>
      cases h
      rfl
    | float x => cases h
  | _ => cases h

/-- A write that succeeds is one into a string, which gives a string. -/
theorem indexSet_eq_ok (h : target.indexSet index value = .ok changed) :
    ∃ old new, target = .string old ∧ changed = .string new ∧ old.Written index value new := by
  cases target with
  | string old =>
    refine ⟨old, ?_⟩
    rw [indexSet_string] at h
    obtain ⟨piece, hpiece, h⟩ := bind_eq_ok h
    obtain ⟨hkind, rfl⟩ := piece_eq_ok hpiece
    cases index with
    | none =>
      cases h
      exact ⟨_, rfl, rfl, .append hkind (Text.chars_ofChars _)⟩
    | some index =>
      change index.index >>= _ = Except.ok changed at h
      obtain ⟨i, hindex, hset⟩ := bind_eq_ok h
      cases index_eq_ok hindex
      split at hset
      · rename_i new hnew
        cases hset
        obtain ⟨hlow, hhigh, hchars⟩ := set?_eq_some hnew
        exact ⟨new, rfl, rfl, .replace hkind hlow hhigh hchars⟩
      · cases hset
  | _ => cases h

end Value

/-! ### What the evaluation of parts keeps -/

namespace Frame

variable {may : ScopeId → String → Prop} {before after : State} {id : ScopeId} {name : Name}
  {text : String}

/-- A name that may not be bound keeps its value in every scope. -/
theorem localValue?_eq (h : Frame may before after) (hname : before.names.find? text = some name)
    (hnot : ∀ id, ¬ may id text) (hid : before.store.Has id) :
    after.store.localValue? id name = before.store.localValue? id name := by
  refine Classical.byContradiction fun hne => ?_
  obtain ⟨other, hmay, hother⟩ := h.value id name hid hne
  have htext := NameTable.find?_eq_some_iff.1 (NameTable.find?_of_le h.names hname)
  rw [NameTable.find?_eq_some_iff.1 hother] at htext
  cases htext
  exact hnot id hmay

section Lookup

variable (h : Frame may before after) (hwell : before.store.WellFormed)
  (hvalue : ∀ id, before.store.Has id →
    after.store.localValue? id name = before.store.localValue? id name)
include h hwell hvalue

/-- On the way outward from a scope that was there, the same is found as before. -/
theorem findSome?_walk_eq (steps : Nat) (hid : before.store.Has id) :
    (after.store.walk steps id).findSome? (after.store.localValue? · name) =
      (before.store.walk steps id).findSome? (before.store.localValue? · name) := by
  induction steps generalizing id with
  | zero => rfl
  | succ steps ih =>
    rw [Store.walk, Store.walk, List.findSome?_cons, List.findSome?_cons, hvalue id hid,
      h.parent id hid]
    cases hp : before.store.parent? id with
    | none => rfl
    | some parent =>
      have hparent : before.store.Has parent := Nat.lt_trans (hwell id parent hp) hid
      rw [ih hparent]

/-- A name that keeps its value in every scope is found as before. -/
theorem lookup_eq (hid : before.store.Has id) :
    after.store.lookup id name = before.store.lookup id name :=
  findSome?_walk_eq h hwell hvalue (id.index + 1) hid

end Lookup

end Frame

namespace IndexedWrite

variable {mode : Mode} {nesting : Nat} {node : Node} {scope : ScopeId} {state : State}
  (write : IndexedWrite ((Interpreter.standard mode).answer nesting) node scope state)

/-- From when the variable of an indexed assignment has a name up to the write, only the index and
the right side may bind names. -/
theorem frame (hkind : node.kind = .assignment) :
    Frame (fun id text => id = scope ∧ ∃ part ∈ node.parts, part.Writes text)
      (state.named write.text) write.before := by
  have hparts : node.parts =
      (write.left.child? .index).toList ++ (node.child? .right).toList := by
    simp only [Node.parts, hkind, Node.assignedIndex?, write.hleft, Option.bind_some, write.hkind,
      if_true]
  have of_part {part : Node} (hpart : part ∈ node.parts) {between between' : State}
      {result : Except EvalError Value}
      (h : (Interpreter.standard mode).evalWithin nesting part scope between =
        .done result between') :
      Frame (fun id text => id = scope ∧ ∃ part ∈ node.parts, part.Writes text) between
        between' :=
    (evalWithin_frame h).mono fun _ _ hmay => ⟨hmay.1, part, hpart, hmay.2⟩
  have hmiddle : Frame (fun id text => id = scope ∧ ∃ part ∈ node.parts, part.Writes text)
      (state.named write.text) write.middle := by
    rcases Rules.finishes_optional_iff.1 write.hindex with
      ⟨-, -, heq⟩ | ⟨part, value, hpart, -, hvalue⟩
    · rw [heq]
      exact .refl _ _
    · exact of_part (by rw [hparts, hpart]; simp) hvalue
  have hright : write.right ∈ node.parts := by
    rw [hparts, write.hright]
    simp
  exact hmiddle.trans (of_part hright write.hvalue)

/-- The scope of an indexed assignment is there, for the variable is found from it. -/
theorem has_before (hkind : node.kind = .assignment) : write.before.store.Has scope :=
  (write.frame hkind).has (Store.has_of_lookup write.hcurrent)

/-- If neither the index nor the right side writes to the variable, it has the same value just
before the write as it had when the assignment began. -/
theorem lookup_before (hkind : node.kind = .assignment) (hwell : state.store.WellFormed)
    (hnot : ∀ part ∈ node.parts, ¬ part.Writes write.text) :
    write.before.store.lookup scope (state.nameOf write.text) = some write.current := by
  have hframe := write.frame hkind
  have hname : (state.named write.text).names.find? write.text = some (state.nameOf write.text) :=
    NameTable.find?_intern state.names write.text
  have hvalue (id : ScopeId) (hid : (state.named write.text).store.Has id) :=
    hframe.localValue?_eq hname (fun _ hmay => by
      obtain ⟨-, part, hpart, hwrites⟩ := hmay
      exact hnot part hpart hwrites) hid
  exact (hframe.lookup_eq hwell hvalue (Store.has_of_lookup write.hcurrent)).trans write.hcurrent

end IndexedWrite

/-! ### Indexed assignments -/

/-- From one state to another a variable was written to: the value that it had as seen from the
scope, and the value that it has in the scope itself afterwards. -/
def State.Overwrites (state after : State) (scope : ScopeId) (name : Name) (index : Option Value)
    (value : Value) : Prop :=
  ∃ old new, state.store.lookup scope name = some (.string old) ∧
    after.store.localValue? scope name = some (.string new) ∧ old.Written index value new

/-- **Indexed assignments.** If an assignment to an indexed variable has a value, then its index, if
there is one, was evaluated first and its right side after that, and the variable was bound in the
scope of the assignment last. What the variable was bound to is the value that it had when the
assignment began, with the content of the right side in place of the character at the index, or at
the end. If neither the index nor the right side writes to the variable, this is also the value that
it had just before it was bound; otherwise what they have written is lost. -/
theorem indexed_assignment (mode : Mode) {node left : Node} {text : String} {scope : ScopeId}
    {state after : State} {value : Value} (hkind : node.kind = .assignment)
    (hleft : node.child? .left = some left) (hindexed : left.kind = .dereference)
    (htext : left.assignedText? = some text)
    (hends : (Interpreter.standard mode).Ends (.eval node scope) state (.ok value) after) :
    ∃ right index middle before changed, node.child? .right = some right ∧
      (Interpreter.standard mode).EndsOptional (left.child? .index) scope (state.named text) index
        middle ∧
      (Interpreter.standard mode).Ends (.eval right scope) middle (.ok value) before ∧
      after = before.bound scope (state.nameOf text) changed ∧
      state.Overwrites after scope (state.nameOf text) index value ∧
      (state.store.WellFormed → (∀ part ∈ node.parts, ¬ part.Writes text) →
        before.Overwrites after scope (state.nameOf text) index value) := by
  rcases hends.finishes_or_passesOn with ⟨nesting, h⟩ | ⟨_, _, _, ⟨⟩, -⟩
  change (Rules.handler node.kind node scope).Finishes _ state _ after at h
  rw [hkind] at h
  rcases Rules.assignment_finishes_indexed hleft hindexed htext h with
    ⟨⟨⟩⟩ | ⟨-, ⟨⟩⟩ | ⟨write, rfl, rfl, ⟨_, -, ⟨⟩, -⟩ | ⟨changed, hchanged, heq, hafter⟩⟩
  cases heq
  obtain ⟨old, new, hold, rfl, hwritten⟩ := Value.indexSet_eq_ok hchanged
  have hbound : after.store.localValue? scope (state.nameOf write.text) = some (.string new) := by
    rw [hafter]
    refine Store.localValue?_bind.trans ?_
    simp [write.has_before hkind]
  refine ⟨write.right, write.index, write.middle, write.before, _, write.hright,
    .of_finishes write.hindex, ⟨nesting, write.hvalue⟩, hafter,
    ⟨old, new, ?_, hbound, hwritten⟩, ?_⟩
  · rw [write.hcurrent, hold]
  · intro hwell hnot
    exact ⟨old, new, by rw [write.lookup_before hkind hwell hnot, hold], hbound, hwritten⟩

/-- The assignment of a node to the variable `s` at an index, which is spelled. -/
def Node.writeAt (index : String) (right : Node) : Node :=
  let left := ((new 1 .dereference).set .target (.node (leaf 2 .identifier "s"))).set .index
    (.node (leaf 3 .numberLiteral index))
  ((new 0 .assignment).set .left (.node left)).set .right (.node right)

end Assignments

/-- After `s[0] = "X"` a variable that was `"ab"` has been written to, and is `"Xb"`. -/
theorem indexed_assignment_literal :
    (Node.writeAt "0" (.leaf 4 .stringLiteral "\"X\"")).kind = .assignment ∧
      (Interpreter.standard .unlimited).Ends
        (.eval (.writeAt "0" (.leaf 4 .stringLiteral "\"X\"")) .global) (.spelled "ab")
        (.ok (.string ⟨"X"⟩)) ((State.spelled "ab").bound .global ⟨1⟩ (.string ⟨"Xb"⟩)) ∧
      ∃ index, (State.spelled "ab").Overwrites
        ((State.spelled "ab").bound .global ⟨1⟩ (.string ⟨"Xb"⟩)) .global ⟨1⟩ index
        (.string ⟨"X"⟩) := by
  have hends : (Interpreter.standard .unlimited).Ends
      (.eval (.writeAt "0" (.leaf 4 .stringLiteral "\"X\"")) .global) (.spelled "ab")
      (.ok (.string ⟨"X"⟩)) ((State.spelled "ab").bound .global ⟨1⟩ (.string ⟨"Xb"⟩)) :=
    ⟨2, by rfl⟩
  obtain ⟨right, index, middle, before, changed, -, -, -, -, hoverwrites, -⟩ :=
    indexed_assignment .unlimited (by rfl) (by rfl) (by rfl) (by rfl) hends
  exact ⟨rfl, hends, index, hoverwrites⟩

/-- What the right side writes to the variable is lost: after `s[0] = (s[1] = "Y")` the variable,
which was `"abc"`, is `"Ybc"`, although it was `"aYc"` just before the first character was
replaced. -/
theorem nested_write_lost :
    (Interpreter.standard .unlimited).Ends
      (.eval (.writeAt "0" (.writeAt "1" (.leaf 4 .stringLiteral "\"Y\""))) .global)
      (.spelled "abc") (.ok (.string ⟨"Y"⟩))
      ((State.spelled "aYc").bound .global ⟨1⟩ (.string ⟨"Ybc"⟩)) ∧
    (Interpreter.standard .unlimited).Ends
      (.eval (.writeAt "1" (.leaf 4 .stringLiteral "\"Y\"")) .global) (.spelled "abc")
      (.ok (.string ⟨"Y"⟩)) (.spelled "aYc") ∧
    ¬ (State.spelled "aYc").Overwrites
      ((State.spelled "aYc").bound .global ⟨1⟩ (.string ⟨"Ybc"⟩)) .global ⟨1⟩ (some (.int 0))
      (.string ⟨"Y"⟩) := by
  refine ⟨⟨3, by rfl⟩, ⟨2, by rfl⟩, ?_⟩
  rintro ⟨old, new, hold, hnew, hwritten⟩
  cases hold
  cases hnew
  cases hwritten with
  | replace _ _ _ hchars => exact absurd hchars (by decide)

end TreeScript
