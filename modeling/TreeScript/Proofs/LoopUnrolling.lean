import TreeScript.Proofs.Frame
import TreeScript.Proofs.Run.Rules
import TreeScript.Proofs.Text.Escapes
import TreeScript.Proofs.Values.Iteration
import TreeScript.Regex.Engine

/-!
Loops and what they unroll to. A loop over a string is carried out by rounds: a character is bound
to the item, and the body is evaluated (`Interpreter.Unrolls`). Which characters these are is
settled before the first round, for the rounds are those of the text that was iterated and not of
any variable that held it (`ends_foreach_iff`). The same rounds can be written down as statements,
an assignment of a character literal and the body for each of them (`Node.unrolled`). Each of these
assignments asks for the name of the item anew; the item has one from the first round on, and no
body takes it away (`performs_unrolled_iff`). So the loop ends as the statements do
(`loop_unrolling`).
-/

namespace TreeScript

/-- The literal of a character denotes the string of the character. -/
theorem Text.ofLiteral_singleton (c : Char) : ofLiteral [c] = singleton c := by
  have hwritten : unescape [c] = [c] := by
    rw [unescape_cons, unescape]
    rintro written stored hescape hbegins
    have hlength := hbegins.length_le
    cases hescape with
    | lineFeed | lineBreak | doubleQuote | singleQuote | backslash => simp at hlength
  have hstored : store [c] = [c] := by
    refine replaceAll_eq_self _ fun hinfix => ?_
    have hlength := hinfix.length_le
    simp [lineEscape] at hlength
  rw [ofLiteral, hwritten, singleton, ofChars, hstored]

section Unrolling

variable [PatternEngine] {T N : Type}

/-! ### Rounds -/

namespace Interpreter

section Rounds

variable [DecidableEq N] [Naming N T]

/-- Rounds of a loop: one string after the other is bound to the item, and the body is evaluated
each time, until this fails. If it never does, the value is null. -/
inductive Unrolls (interpreter : Interpreter T N) (scope : ScopeId) (item : N) (body : Node) :
    List Text → State T N → Except EvalError (Value N) → State T N → Prop where
  | done (state : State T N) : Unrolls interpreter scope item body [] state (.ok .null) state
  | next {c : Text} {rest : List Text} {state between after : State T N} {value : Value N}
      {result : Except EvalError (Value N)}
      (hbody : interpreter.Ends (.eval body scope) (state.bound scope item (.string c)) (.ok value)
        between)
      (hrest : Unrolls interpreter scope item body rest between result after) :
      Unrolls interpreter scope item body (c :: rest) state result after
  | failed {c : Text} {rest : List Text} {state after : State T N} {error : EvalError}
      (hbody : interpreter.Ends (.eval body scope) (state.bound scope item (.string c))
        (.error error) after) :
      Unrolls interpreter scope item body (c :: rest) state (.error error) after

variable {interpreter : Interpreter T N} {mode : Mode} {node left body : Node} {scope : ScopeId}
  {item : N} {state between after : State T N} {result : Except EvalError (Value N)}

theorem unrolls_nil : interpreter.Unrolls scope item body [] state result after ↔
    result = .ok .null ∧ after = state := by
  constructor
  · rintro ⟨⟩
    exact ⟨rfl, rfl⟩
  · rintro ⟨rfl, rfl⟩
    exact .done after

theorem unrolls_cons {c : Text} {rest : List Text} :
    interpreter.Unrolls scope item body (c :: rest) state result after ↔
      (∃ value between, interpreter.Ends (.eval body scope)
          (state.bound scope item (.string c)) (.ok value) between ∧
        interpreter.Unrolls scope item body rest between result after) ∨
      ∃ error, result = .error error ∧ interpreter.Ends (.eval body scope)
        (state.bound scope item (.string c)) (.error error) after := by
  constructor
  · intro h
    cases h with
    | next hbody hrest => exact .inl ⟨_, _, hbody, hrest⟩
    | failed hbody => exact .inr ⟨_, rfl, hbody⟩
  · rintro (⟨value, between, hbody, hrest⟩ | ⟨error, rfl, hbody⟩)
    · exact .next hbody hrest
    · exact .failed hbody

/-- To perform a loop is to go through its rounds. -/
theorem performs_loop_iff {items : List Text} :
    interpreter.Performs (Rules.loop scope item body items) state result after ↔
      interpreter.Unrolls scope item body items state result after := by
  induction items generalizing state with
  | nil => exact performs_pure_iff.trans unrolls_nil.symm
  | cons c rest ih =>
    rw [unrolls_cons, Rules.loop, performs_bindName_bind, performs_eval_bind]
    simp only [ih]

/-- After a string was iterated, the loop over it goes through one round for each of its
characters. -/
theorem ends_foreach_iff {text : Text} {name : String} (hkind : node.kind = .foreach)
    (hleft : node.child? .left = some left) (hitem : node.slotText? .item = some name)
    (hbody : node.child? .body = some body)
    (hvalue : (standard mode T N).Ends (.eval left scope) state (.ok (.string text)) between) :
    (standard mode T N).Ends (.eval node scope) state result after ↔
      (standard mode T N).Unrolls scope (between.nameOf name) body (text.chars.map .singleton)
        (between.named name) result after := by
  have hremaining : (Iterator.ofText text).remaining = text.chars.map .singleton :=
    (Iterator.at_ofText text).remaining_eq
  rw [ends_eval_iff, hkind, ← hremaining, ← performs_loop_iff]
  refine (performs_require_bind_of_some hleft).trans ?_
  refine (performs_eval_bind_of_ends hvalue).trans ?_
  refine (performs_require_bind_of_some hitem).trans (performs_intern_bind.trans ?_)
  refine (performs_require_bind_of_some hbody).trans ?_
  exact performs_finish_bind_of_ok rfl

end Rounds

end Interpreter

/-! ### Rounds as statements -/

namespace Node

def characterLiteral (c : Char) : Node :=
  leaf 0 .stringLiteral (String.ofList ['\'', c, '\''])

def assignCharacter (name : String) (c : Char) : Node :=
  ((new 0 .assignment).set .left (.node (leaf 0 .identifier name))).set .right
    (.node (characterLiteral c))

/-- The rounds of a loop as statements: a character is assigned to the item, the body follows, and
so on; null stands last. -/
def unrolled (name : String) (body : Node) : List Char → List Node
  | [] => [new 0 .nullLiteral]
  | c :: rest => assignCharacter name c :: body :: unrolled name body rest

end Node

namespace State

variable {state : State} {text : String} {name : Name}

/-- A text that has a name is not given another one. -/
theorem named_of_find? (h : state.names.find? text = some name) :
    state.nameOf text = name ∧ state.named text = state := by
  have hintern : state.names.intern text = (name, state.names) := by
    rw [NameTable.intern, h]
  constructor
  · exact congrArg Prod.fst hintern
  · rw [named]
    exact congrArg (fun names => { state with names }) (congrArg Prod.snd hintern)

theorem find?_named (state : State) (text : String) :
    (state.named text).names.find? text = some (state.nameOf text) :=
  NameTable.find?_intern state.names text

end State

namespace Interpreter

variable {mode : Mode} {body : Node} {scope : ScopeId} {name : String} {item : Name} {last : Value}
  {state after : State} {result : Except EvalError Value}

theorem Ends.names_le {node : Node}
    (h : (standard mode).Ends (.eval node scope) state result after) :
    state.names ≤ after.names := by
  obtain ⟨nesting, hrun⟩ := h
  exact (evalWithin_frame hrun).names

/-- The assignment of a character binds the string of the character. -/
theorem ends_assignCharacter_iff {c : Char} :
    (standard mode).Ends (.eval (.assignCharacter name c) scope) state result after ↔
      result = .ok (.string (.singleton c)) ∧
        after = (state.named name).bound scope (state.nameOf name) (.string (.singleton c)) := by
  have hliteral : (Node.characterLiteral c).IsStringLiteral [c] := .mk rfl rfl
  rw [ends_assignment_iff rfl rfl rfl rfl rfl]
  simp only [ends_stringLiteral_iff hliteral, Text.ofLiteral_singleton]
  constructor
  · rintro (⟨value, between, ⟨⟨⟩, rfl⟩, rfl, rfl⟩ | ⟨error, -, ⟨⟩, -⟩)
    exact ⟨rfl, rfl⟩
  · rintro ⟨rfl, rfl⟩
    exact .inl ⟨_, _, ⟨rfl, rfl⟩, rfl, rfl⟩

/-- Behind all rounds stands null. -/
theorem performs_unrolled_nil :
    (standard mode).Performs (Action.sequence scope last (Node.unrolled name body [])) state result
        after ↔ result = .ok .null ∧ after = state := by
  have hnull : (standard mode).Ends (.eval (.new 0 .nullLiteral) scope) state (.ok .null) state :=
    (ends_nullLiteral_iff rfl).2 ⟨rfl, rfl⟩
  exact (performs_eval_bind_of_ends hnull).trans performs_sequence_nil

/-- A round as statements: after the character is bound the body is evaluated, and the other rounds
follow unless it fails. -/
theorem performs_unrolled_cons {c : Char} {rest : List Char} :
    (standard mode).Performs (Action.sequence scope last (Node.unrolled name body (c :: rest)))
        state result after ↔
      (∃ value between, (standard mode).Ends (.eval body scope)
          ((state.named name).bound scope (state.nameOf name) (.string (.singleton c))) (.ok value)
          between ∧
        (standard mode).Performs (Action.sequence scope value (Node.unrolled name body rest))
          between result after) ∨
      ∃ error, result = .error error ∧ (standard mode).Ends (.eval body scope)
        ((state.named name).bound scope (state.nameOf name) (.string (.singleton c)))
        (.error error) after := by
  have hassign : (standard mode).Ends (.eval (.assignCharacter name c) scope) state _ _ :=
    ends_assignCharacter_iff.2 ⟨rfl, rfl⟩
  exact (performs_eval_bind_of_ends hassign).trans performs_sequence_cons

/-- Where the item has a name, the rounds of a loop are performed as statements. -/
theorem performs_unrolled_iff {chars : List Char} (h : state.names.find? name = some item) :
    (standard mode).Performs (Action.sequence scope last (Node.unrolled name body chars)) state
        result after ↔
      (standard mode).Unrolls scope item body (chars.map .singleton) state result after := by
  -- The item keeps its name in all rounds, since bodies only add to the names.
  induction chars generalizing state last with
  | nil => exact performs_unrolled_nil.trans unrolls_nil.symm
  | cons c rest ih =>
    obtain ⟨hname, hstate⟩ := State.named_of_find? h
    rw [performs_unrolled_cons, List.map_cons, unrolls_cons, hname, hstate]
    refine or_congr_left ?_
    refine exists_congr fun value => exists_congr fun between => and_congr_right fun hbody => ?_
    exact ih (NameTable.find?_of_le hbody.names_le h)

/-- The first round gives the item its name, if it has none. -/
theorem performs_unrolled_named {c : Char} {rest : List Char} :
    (standard mode).Performs (Action.sequence scope last (Node.unrolled name body (c :: rest)))
        (state.named name) result after ↔
      (standard mode).Performs (Action.sequence scope last (Node.unrolled name body (c :: rest)))
        state result after := by
  obtain ⟨hname, hstate⟩ := State.named_of_find? (state.find?_named name)
  rw [performs_unrolled_cons, performs_unrolled_cons, hname, hstate]

end Interpreter

/-- **Loops.** If what a loop iterates is a string, the loop ends as its rounds do: the item, which
gets a name first, is bound to the string of one character after the other, each time the body is
evaluated, the first body that fails ends the loop with its error, and if none does the value is
null. The characters are those of the string that was iterated, whatever the bodies do. So the loop
ends as statements do which evaluate the same string, assign each of its characters to the item,
with the body behind each assignment, and end with null; only where there are no characters do they
not give the item a name. -/
theorem loop_unrolling (mode : Mode) {node left body : Node} {name : String} {scope : ScopeId}
    {state between : State} {text : Text} (hkind : node.kind = .foreach)
    (hleft : node.child? .left = some left) (hitem : node.slotText? .item = some name)
    (hbody : node.child? .body = some body)
    (hvalue : (Interpreter.standard mode).Ends (.eval left scope) state (.ok (.string text))
      between) :
    (∀ result after, (Interpreter.standard mode).Ends (.eval node scope) state result after ↔
      (Interpreter.standard mode).Unrolls scope (between.nameOf name) body
        (text.chars.map .singleton) (between.named name) result after) ∧
    (∀ c, (Text.singleton c).chars = [c]) ∧
    ∀ statements : Node, statements.kind = .program ∨ statements.kind = .block →
      statements.children? .nodes = some (left :: Node.unrolled name body text.chars) →
      (text.chars ≠ [] → ∀ result after,
        (Interpreter.standard mode).Ends (.eval statements scope) state result after ↔
          (Interpreter.standard mode).Ends (.eval node scope) state result after) ∧
      (text.chars = [] →
        (Interpreter.standard mode).Ends (.eval statements scope) state (.ok .null) between ∧
        (Interpreter.standard mode).Ends (.eval node scope) state (.ok .null)
          (between.named name)) := by
  have hrounds (result : Except EvalError Value) (after : State) :
      (Interpreter.standard mode).Ends (.eval node scope) state result after ↔
        (Interpreter.standard mode).Unrolls scope (between.nameOf name) body
          (text.chars.map .singleton) (between.named name) result after :=
    Interpreter.ends_foreach_iff hkind hleft hitem hbody hvalue
  refine ⟨hrounds, fun c => Text.chars_ofChars [c], ?_⟩
  intro statements hstatements hnodes
  have hsequence (result : Except EvalError Value) (after : State) :
      (Interpreter.standard mode).Ends (.eval statements scope) state result after ↔
        (Interpreter.standard mode).Performs
          (Action.sequence scope (.string text) (Node.unrolled name body text.chars)) between result
          after :=
    (Interpreter.ends_statements_iff hstatements hnodes).trans
      (Interpreter.performs_eval_bind_of_ends hvalue)
  constructor
  · intro hne result after
    obtain ⟨c, rest, hchars⟩ := List.exists_cons_of_ne_nil hne
    have hnamed := between.find?_named name
    rw [hrounds, hsequence, ← Interpreter.performs_unrolled_iff hnamed, hchars,
      Interpreter.performs_unrolled_named]
  · intro hnil
    constructor
    · rw [hsequence, hnil]
      exact Interpreter.performs_unrolled_nil.2 ⟨rfl, rfl⟩
    · rw [hrounds, hnil]
      exact .done _

/-- The loop over the variable `s` with the item `c`. -/
def Node.loopOver (body : Node) : Node :=
  (((new 0 .foreach).set .left (.node (leaf 1 .identifier "s"))).set .item (.text "c")).set .body
    (.node body)

end Unrolling

/-- The body sets the variable that the loop goes over to null, and there are two rounds all the
same: the item is `"b"` in the end. The statements that the loop unrolls to come to the same. -/
theorem loop_unrolling_overwritten :
    ∃ after, (Interpreter.standard .unlimited).Ends
        (.eval (.loopOver (.assignNull "s")) .global) (.spelled "ab") (.ok .null) after ∧
      (Interpreter.standard .unlimited).Ends
        (.eval ((Node.new 0 .block).set .nodes (.list (.leaf 1 .identifier "s" ::
          Node.unrolled "c" (.assignNull "s") ['a', 'b']))) .global) (.spelled "ab") (.ok .null)
        after ∧
      after.store.lookup .global ⟨1⟩ = some .null ∧
      after.store.lookup .global ⟨2⟩ = some (.string ⟨"b"⟩) := by
  have hvalue : (Interpreter.standard .unlimited).Ends (.eval (.leaf 1 .identifier "s") .global)
      (.spelled "ab") (.ok (.string ⟨"ab"⟩)) (.spelled "ab") := ⟨1, by rfl⟩
  have hkind : (Node.loopOver (.assignNull "s")).kind = .foreach := rfl
  have hunrolling := loop_unrolling .unlimited hkind rfl rfl rfl hvalue
  let first := (((State.spelled "ab").named "c").bound .global ⟨2⟩ (.string ⟨"a"⟩)).bound .global
    ⟨1⟩ .null
  have hloop : (Interpreter.standard .unlimited).Ends
      (.eval (.loopOver (.assignNull "s")) .global) (.spelled "ab") (.ok .null)
      ((first.bound .global ⟨2⟩ (.string ⟨"b"⟩)).bound .global ⟨1⟩ .null) := ⟨3, by rfl⟩
  refine ⟨_, hloop, ?_, by rfl, by rfl⟩
  exact ((hunrolling.2.2 _ (.inr rfl) rfl).1 (by decide) _ _).2 hloop

end TreeScript
