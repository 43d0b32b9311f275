import TreeScript.Proofs.Run.Rules
import TreeScript.Proofs.Text.Joining
import TreeScript.Regex.Engine

/-!
The literal of two bodies in a row and the sum of the literals of the bodies. Both have the same
content wherever the first body does not break off inside an escape (`literal_concatenation`): then
nothing reaches over the seam of the bodies, nor over the seam of what is stored of them, and the
sum, which is stored anew, has the contents of both literals one after the other.
-/

namespace TreeScript

open Text

/-- **Literals in a row.** Two stored texts may be expanded apart exactly if no run of backslashes
before an `n` reaches from the first one into the second one. Two bodies of literals may be reduced
apart if the first one does not end with a backslash, a line feed or a carriage return; then the sum
of their literals has a value that is equal to the value of the literal of both bodies in a row, and
neither evaluation changes the state. -/
theorem literal_concatenation [PatternEngine] (mode : Mode) :
    (∀ left right : List Char,
      expand (left ++ right) = expand left ++ expand right ↔ ¬ MeetsAtEscape left right) ∧
    (∀ left right : List Char, ¬ BreaksOff left →
      unescape (left ++ right) = unescape left ++ unescape right) ∧
    ∀ {sum first second joined : Node} {left right : List Char} (scope : ScopeId) (state : State),
      ¬ BreaksOff left → first.IsStringLiteral left → second.IsStringLiteral right →
      joined.IsStringLiteral (left ++ right) → sum.IsSum first second →
      ∃ added whole : Text,
        (Interpreter.standard mode).Ends (.eval sum scope) state (.ok (.string added)) state ∧
        (Interpreter.standard mode).Ends (.eval joined scope) state (.ok (.string whole)) state ∧
        (Value.string added : Value).equal (.string whole) = true := by
  refine ⟨expand_append_iff, fun left right hleft => unescape_append hleft right, ?_⟩
  intro sum first second joined left right scope state hleft hfirst hsecond hjoined hsum
  have hvalue : (Interpreter.standard mode).Ends (.eval first scope) state
      (.ok (.string (ofLiteral left))) state :=
    (Interpreter.ends_stringLiteral_iff hfirst).2 ⟨rfl, rfl⟩
  have hother : (Interpreter.standard mode).Ends (.eval second scope) state
      (.ok (.string (ofLiteral right))) state :=
    (Interpreter.ends_stringLiteral_iff hsecond).2 ⟨rfl, rfl⟩
  refine ⟨(ofLiteral left).append (ofLiteral right), ofLiteral (left ++ right), ?_, ?_, ?_⟩
  · exact (Interpreter.ends_sum hsum hvalue hother).2 ⟨rfl, rfl⟩
  · exact (Interpreter.ends_stringLiteral_iff hjoined).2 ⟨rfl, rfl⟩
  · exact append_ofLiteral_equal hleft right

def Node.sum (left right : Node) : Node :=
  ((new 0 .addition).set .nodes (.list [left, right])).set .ops (.list [leaf 1 .operator "+"])

/-- The sum of the literals of an escaped quote and a line escape is equal to the literal of both:
the line break is stored as it is in the sum, and as an escape in the literal. -/
theorem literal_concatenation_escapes :
    ¬ BreaksOff ['\\', '"'] ∧
      ∃ added whole : Text,
        (Interpreter.standard .unlimited).Ends
          (.eval (.sum (.leaf 2 .stringLiteral "'\\\"'") (.leaf 3 .stringLiteral "'\\n'"))
            .global) .initial (.ok (.string added)) .initial ∧
        (Interpreter.standard .unlimited).Ends
          (.eval (.leaf 4 .stringLiteral "'\\\"\\n'") .global) .initial (.ok (.string whole))
          .initial ∧
        (Value.string added : Value).equal (.string whole) = true := by
  have hleft : ¬ BreaksOff ['\\', '"'] := by simp [BreaksOff]
  have hsecond : (Node.leaf 3 .stringLiteral "'\\n'").IsStringLiteral ['\\', 'n'] := .mk rfl rfl
  have hjoined : (Node.leaf 4 .stringLiteral "'\\\"\\n'").IsStringLiteral
      (['\\', '"'] ++ ['\\', 'n']) := .mk rfl rfl
  exact ⟨hleft, (literal_concatenation .unlimited).2.2 .global .initial hleft (.mk rfl rfl) hsecond
    hjoined (.mk rfl rfl rfl rfl)⟩

end TreeScript
