import TreeScript.Proofs.LiteralConcatenation
import TreeScript.Proofs.LoopUnrolling
import TreeScript.Proofs.ScopeChain
import TreeScript.Proofs.Spelling
import TreeScript.Regex.Engine

/-!
Strings that are taken apart and put together again. A program sets a variable to the empty string,
goes through the characters of another one, adds each to the first and gives the first back
(`Node.IsRebuilding`). What a loop has done so far is said by an invariant of the characters that it
has gone through: if every round has a value and keeps the invariant, the loop ends, and the
invariant holds of all characters (`Interpreter.exists_unrolls`). Here the invariant is that the
first variable has these characters as its content and the item is the last of them
(`State.Collected`). A round keeps it whatever the characters are, since a sum has the content of
both operands even where a backslash meets an `n` (`State.Collected.round`), and so do all rounds
together (`State.Collected.run`). So in the end the content is that of the string that was taken
apart (`string_rebuilt`).
-/

namespace TreeScript

section Programs

variable [PatternEngine]

/-! ### The program -/

namespace Node

inductive IsVariable (node : Node) (text : String) : Prop where
  | mk (hkind : node.kind = .identifier) (htext : node.text? .text = some text)

inductive IsAssignment (node : Node) (text : String) (right : Node) : Prop where
  | mk {left : Node} (hkind : node.kind = .assignment) (hleft : node.child? .left = some left)
      (hvariable : left.IsVariable text) (hright : node.child? .right = some right)

inductive IsLoopOver (node : Node) (source item : String) (body : Node) : Prop where
  | mk {left : Node} (hkind : node.kind = .foreach) (hleft : node.child? .left = some left)
      (hsource : left.IsVariable source) (hitem : node.slotText? .item = some item)
      (hbody : node.child? .body = some body)

/-- A node adds one variable to another: it assigns their sum, or it is a block that does so. -/
inductive Appends (out item : String) : Node → Prop where
  | assignment {node sum left right : Node} (hnode : node.IsAssignment out sum)
      (hsum : sum.IsSum left right) (hleft : left.IsVariable out) (hright : right.IsVariable item) :
      Appends out item node
  | block {node statement : Node} (hkind : node.kind = .block)
      (hnodes : node.children? .nodes = some [statement])
      (hstatement : Appends out item statement) :
      Appends out item node

/-- A node is the program that takes a string apart and puts it together again: a variable is set to
the empty string, every character of the source is added to it, and it is given back. -/
inductive IsRebuilding (node : Node) (source out item : String) : Prop where
  | mk {clear empty loop body last : Node} (hkind : node.kind = .program)
      (hnodes : node.children? .nodes = some [clear, loop, last])
      (hclear : clear.IsAssignment out empty) (hempty : empty.IsStringLiteral [])
      (hloop : loop.IsLoopOver source item body) (hbody : body.Appends out item)
      (hlast : last.IsVariable out)

end Node

/-! ### Variables -/

namespace State

/-- A text is the name of a variable that has a value as seen from a scope. -/
def Resolves (state : State) (scope : ScopeId) (text : String) (value : Value) : Prop :=
  ∃ name, state.names.find? text = some name ∧ state.store.lookup scope name = some value

/-- A text is the name of a variable that a scope itself binds to a value. -/
def Binds (state : State) (scope : ScopeId) (text : String) (value : Value) : Prop :=
  ∃ name, state.names.find? text = some name ∧ state.store.localValue? scope name = some value

def assign (state : State) (scope : ScopeId) (text : String) (value : Value) : State :=
  (state.named text).bound scope (state.nameOf text) value

variable {state : State} {scope other : ScopeId} {text key : String} {name : Name}
  {value new : Value}

theorem find?_named_of_find? (h : state.names.find? text = some name) (key : String) :
    (state.named key).names.find? text = some name :=
  NameTable.find?_of_le (NameTable.le_intern state.names key) h

/-- Different texts have different names. -/
theorem ne_nameOf (h : state.names.find? text = some name) (hne : text ≠ key) :
    name ≠ state.nameOf key := by
  rintro rfl
  have htext := NameTable.find?_eq_some_iff.1 (find?_named_of_find? h key)
  have hkey := NameTable.find?_eq_some_iff.1 (state.find?_named key)
  exact hne (Option.some.inj (htext.symm.trans hkey))

/-- To assign to a variable that has a name is to bind this name. -/
theorem assign_eq_bound (h : state.names.find? text = some name) :
    state.assign scope text value = state.bound scope name value := by
  obtain ⟨hname, hstate⟩ := named_of_find? h
  rw [assign, hname, hstate]

theorem Binds.resolves (h : state.Binds scope text value) : state.Resolves scope text value := by
  obtain ⟨name, hname, hvalue⟩ := h
  exact ⟨name, hname, Store.lookup_of_localValue? hvalue⟩

/-- A variable has its name already. -/
theorem Resolves.named_eq (h : state.Resolves scope text value) : state.named text = state := by
  obtain ⟨name, hname, -⟩ := h
  exact (named_of_find? hname).2

theorem Resolves.has (h : state.Resolves scope text value) : state.store.Has scope := by
  obtain ⟨name, -, hvalue⟩ := h
  exact Store.has_of_lookup hvalue

theorem Binds.named (h : state.Binds scope text value) (key : String) :
    (state.named key).Binds scope text value := by
  obtain ⟨name, hname, hvalue⟩ := h
  exact ⟨name, find?_named_of_find? hname key, hvalue⟩

/-- A variable that was assigned to has the value. -/
theorem binds_assign (h : state.store.Has scope) (text : String) (value : Value) :
    (state.assign scope text value).Binds scope text value :=
  ⟨_, state.find?_named text, Store.localValue?_bind.trans (if_pos ⟨rfl, h, rfl⟩)⟩

/-- After an assignment to another variable a variable is bound as before. -/
theorem Binds.assign (h : state.Binds scope text value) (hne : text ≠ key) :
    (state.assign other key new).Binds scope text value := by
  obtain ⟨name, hname, hvalue⟩ := h
  refine ⟨name, find?_named_of_find? hname key, Eq.trans ?_ hvalue⟩
  exact Store.localValue?_bind.trans (if_neg fun heq => ne_nameOf hname hne heq.2.2)

/-- After an assignment to another variable a variable has the value that it had. -/
theorem Resolves.assign (h : state.Resolves scope text value) (hne : text ≠ key) :
    (state.assign other key new).Resolves scope text value := by
  obtain ⟨name, hname, hvalue⟩ := h
  refine ⟨name, find?_named_of_find? hname key, Eq.trans ?_ hvalue⟩
  exact Store.lookup_bind_of_ne (ne_nameOf hname hne)

end State

namespace Interpreter

variable {mode : Mode} {node body right : Node} {scope : ScopeId} {text : String} {value : Value}
  {state : State} {item : Name}

/-- A variable that resolves to a value has this value, and nothing changes. -/
theorem ends_variable (h : node.IsVariable text) (hvalue : state.Resolves scope text value) :
    (standard mode).Ends (.eval node scope) state (.ok value) state := by
  obtain ⟨hkind, htext⟩ := h
  obtain ⟨name, hname, hlookup⟩ := hvalue
  obtain ⟨heq, hstate⟩ := State.named_of_find? hname
  rw [← heq] at hlookup
  exact (ends_identifier_iff hkind htext hlookup).2 ⟨rfl, hstate.symm⟩

/-- An assignment whose right side changes nothing assigns its value. -/
theorem ends_assign (h : node.IsAssignment text right)
    (hright : (standard mode).Ends (.eval right scope) (state.named text) (.ok value)
      (state.named text)) :
    (standard mode).Ends (.eval node scope) state (.ok value) (state.assign scope text value) := by
  obtain ⟨hkind, hleft, ⟨hvariable, htext⟩, hchild⟩ := h
  exact (ends_assignment_iff hkind hleft hvariable htext hchild).2
    (.inl ⟨value, state.named text, hright, rfl, rfl⟩)

/-- Where two variables are strings, the one is added to the other. -/
theorem ends_appends {out item : String} {left piece : Text} (h : node.Appends out item)
    (hout : state.Resolves scope out (.string left))
    (hitem : state.Resolves scope item (.string piece)) :
    (standard mode).Ends (.eval node scope) state (.ok (.string (left.append piece)))
      (state.assign scope out (.string (left.append piece))) := by
  induction h with
  | assignment hnode hsum hleft hright =>
    refine ends_assign hnode ?_
    rw [hout.named_eq]
    exact (ends_sum hsum (ends_variable hleft hout) (ends_variable hright hitem)).2 ⟨rfl, rfl⟩
  | block hkind hnodes _ ih =>
    refine (ends_statements_iff (.inr hkind) hnodes).2 ?_
    exact (performs_eval_bind_of_ends ih).2 (performs_sequence_nil.2 ⟨rfl, rfl⟩)

/-- Loops by invariants: if every round has a value and leads from some characters to those with one
more, the loop ends, and leads to all characters. -/
theorem exists_unrolls {motive : List Char → State → Prop}
    (hround : ∀ taken c state, motive taken state → ∃ value between,
      (standard mode).Ends (.eval body scope) (state.bound scope item (.string (.singleton c)))
        (.ok value) between ∧ motive (taken ++ [c]) between)
    {taken : List Char} (h : motive taken state) (rest : List Char) :
    ∃ after, (standard mode).Unrolls scope item body (rest.map .singleton) state (.ok .null) after ∧
      motive (taken ++ rest) after := by
  induction rest generalizing taken state with
  | nil =>
    rw [List.append_nil]
    exact ⟨state, .done state, h⟩
  | cons c rest ih =>
    obtain ⟨value, between, hbody, hbetween⟩ := hround taken c state h
    obtain ⟨after, hrest, hafter⟩ := ih hbetween
    rw [List.append_assoc] at hafter
    exact ⟨after, .next hbody hrest, hafter⟩

end Interpreter

/-! ### The loop -/

/-- Some characters were collected: a variable is the string of them, and the item is the last of
them, if there are any. -/
structure State.Collected (state : State) (scope : ScopeId) (out item : String) (name : Name)
    (taken : List Char) : Prop where
  known : state.names.find? item = some name
  result : ∃ text : Text, state.Binds scope out (.string text) ∧ text.chars = taken
  last : ∀ c, taken.getLast? = some c → state.Binds scope item (.string (.singleton c))

namespace State.Collected

variable {mode : Mode} {body : Node} {scope : ScopeId} {out item : String} {name : Name}
  {state : State} {taken : List Char}

/-- A round collects one more character. -/
theorem round (h : state.Collected scope out item name taken) (hbody : body.Appends out item)
    (hne : out ≠ item) (c : Char) :
    ∃ value between,
      (Interpreter.standard mode).Ends (.eval body scope)
        (state.bound scope name (.string (.singleton c))) (.ok value) between ∧
      between.Collected scope out item name (taken ++ [c]) := by
  obtain ⟨text, htext, hchars⟩ := h.result
  have hscope : state.store.Has scope := htext.resolves.has
  rw [← assign_eq_bound h.known]
  have hout : (state.assign scope item (.string (.singleton c))).Binds scope out (.string text) :=
    htext.assign hne
  have hitem : (state.assign scope item (.string (.singleton c))).Binds scope item
      (.string (.singleton c)) := binds_assign hscope item _
  refine ⟨_, _, Interpreter.ends_appends hbody hout.resolves hitem.resolves, ?_, ?_, ?_⟩
  · exact find?_named_of_find? (find?_named_of_find? h.known item) out
  · refine ⟨text.append (.singleton c), binds_assign hout.resolves.has out _, ?_⟩
    rw [Text.chars_append, hchars, Text.singleton, Text.chars_ofChars]
  · intro last hlast
    rw [List.getLast?_concat] at hlast
    cases hlast
    exact hitem.assign hne.symm

/-- All rounds together collect the characters that they go through. -/
theorem run (h : state.Collected scope out item name taken) (hbody : body.Appends out item)
    (hne : out ≠ item) (rest : List Char) :
    ∃ after, (Interpreter.standard mode).Unrolls scope name body (rest.map .singleton) state
        (.ok .null) after ∧
      after.Collected scope out item name (taken ++ rest) :=
  Interpreter.exists_unrolls
    (motive := fun taken between => between.Collected scope out item name taken)
    (fun _ c _ hbetween => hbetween.round hbody hne c) h rest

end State.Collected

/-- **Strings put together again.** A variable is a string as seen from a scope. A program sets
another variable to the empty string, goes with an item through the characters of the first one,
assigns the sum of the other variable and the item to the other variable each time, and gives it
back. Its value is equal to the string, whatever characters this consists of, and is then bound to
the other variable; and if there are characters, the item is bound to the last one. -/
theorem string_rebuilt (mode : Mode) {program : Node} {source out item : String} {scope : ScopeId}
    {state : State} {text : Text} (hprogram : program.IsRebuilding source out item)
    (hsource : state.Resolves scope source (.string text)) (hout : source ≠ out)
    (hitem : out ≠ item) :
    ∃ (rebuilt : Text) (after : State),
      (Interpreter.standard mode).Ends (.eval program scope) state (.ok (.string rebuilt)) after ∧
      (Value.string rebuilt : Value).equal (.string text) = true ∧
      after.Binds scope out (.string rebuilt) ∧
      ∀ last, text.chars.getLast? = some last →
        after.Binds scope item (.string (.singleton last)) := by
  obtain ⟨hkind, hnodes, hclear, hempty, ⟨hloop, hleft, hvariable, hname, hchild⟩, hbody, hlast⟩ :=
    hprogram
  let cleared : State := state.assign scope out (.string (.ofLiteral []))
  have hcleared : (Interpreter.standard mode).Ends (.eval _ scope) state
      (.ok (.string (.ofLiteral []))) cleared :=
    Interpreter.ends_assign hclear ((Interpreter.ends_stringLiteral_iff hempty).2 ⟨rfl, rfl⟩)
  have hvalue : (Interpreter.standard mode).Ends (.eval _ scope) cleared (.ok (.string text))
      cleared := Interpreter.ends_variable hvariable (hsource.assign hout)
  have hbefore : (cleared.named item).Collected scope out item (cleared.nameOf item) [] :=
    ⟨cleared.find?_named item, ⟨.ofLiteral [], (State.binds_assign hsource.has out _).named item,
      rfl⟩, nofun⟩
  obtain ⟨after, hrounds, hafter⟩ := hbefore.run hbody hitem text.chars
  obtain ⟨rebuilt, hbound, hchars⟩ := hafter.result
  refine ⟨rebuilt, after, ?_, beq_iff_eq.2 hchars, hbound, hafter.last⟩
  have hends := (Interpreter.ends_foreach_iff hloop hleft hname hchild hvalue).2 hrounds
  refine (Interpreter.ends_statements_iff (.inl hkind) hnodes).2 ?_
  refine (Interpreter.performs_eval_bind_of_ends hcleared).2 ?_
  refine (Interpreter.performs_eval_bind_of_ends hends).2 ?_
  refine (Interpreter.performs_eval_bind_of_ends
    (Interpreter.ends_variable hlast hbound.resolves)).2 ?_
  exact Interpreter.performs_sequence_nil.2 ⟨rfl, rfl⟩

/-- The program that puts the variable `s` together again as `out`. -/
def Node.rebuildOut : Node :=
  let assign (right : Node) : Node :=
    ((new 0 .assignment).set .left (.node (leaf 1 .identifier "out"))).set .right (.node right)
  (new 2 .program).set .nodes (.list [assign (leaf 3 .stringLiteral "''"),
    .loopOver (assign (.sum (leaf 4 .identifier "out") (leaf 5 .identifier "c"))),
    leaf 6 .identifier "out"])

end Programs

/-- A string that consists of a backslash, an `n` and a line feed is put together again: the
backslash is there when the `n` comes, and they stay two characters. -/
theorem string_rebuilt_seam :
    ∃ (rebuilt : Text) (after : State),
      (Interpreter.standard .unlimited).Ends (.eval .rebuildOut .global) (.spelled "\\\\n\\n")
        (.ok (.string rebuilt)) after ∧
      (Value.string rebuilt : Value).equal (.string ⟨"\\\\n\\n"⟩) = true ∧
      after.Binds .global "out" (.string rebuilt) ∧
      after.Binds .global "c" (.string ⟨"\n"⟩) := by
  have hprogram : Node.rebuildOut.IsRebuilding "s" "out" "c" :=
    .mk rfl rfl (.mk rfl rfl (.mk rfl rfl) rfl) (.mk rfl rfl)
      (.mk rfl rfl (.mk rfl rfl) rfl rfl)
      (.assignment (.mk rfl rfl (.mk rfl rfl) rfl) (.mk rfl rfl rfl rfl) (.mk rfl rfl)
        (.mk rfl rfl)) (.mk rfl rfl)
  have hsource : (State.spelled "\\\\n\\n").Resolves .global "s" (.string ⟨"\\\\n\\n"⟩) :=
    ⟨⟨1⟩, rfl, rfl⟩
  obtain ⟨rebuilt, after, hends, hequal, hbound, hlast⟩ :=
    string_rebuilt .unlimited hprogram hsource (by decide) (by decide)
  exact ⟨rebuilt, after, hends, hequal, hbound, hlast '\n' (by decide)⟩

end TreeScript
