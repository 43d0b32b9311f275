import TreeScript.Proofs.KnownNames
import TreeScript.Proofs.Reachable
import TreeScript.Regex.Engine

/-!
To call a function twice. The first call may have given out names and made scopes, and it may have
failed in the middle, but it has bound nothing in the scopes that were there before it. The names
that it gave out it would have used in the same way if they had been known before
(`answer_of_known`). So the state after it looks like a state in which it could have begun, up to
the numbers of new scopes, and a second call with the same arguments ends in the same way
(`call_repeats`).
-/

namespace TreeScript

section Repetition

variable [PatternEngine]

/-- The results of two calls in a row, from a first state to a second one and from there to a third:
the same error, the same data, or functions with the same parameters and the same body, made in one
scope that was there from the beginning or each in a scope that its own call has made. -/
inductive Repeated (first second third : State) :
    Except EvalError Value → Except EvalError Value → Prop where
  | error (error : EvalError) : Repeated first second third (.error error) (.error error)
  | data (value : Value) (h : value.kind ≠ .function) :
      Repeated first second third (.ok value) (.ok value)
  | known (closure : Closure) (h : first.store.Has closure.scope) :
      Repeated first second third (.ok (.function closure)) (.ok (.function closure))
  | created (params : List Name) (body : Node) {a b : ScopeId}
      (ha : ¬ first.store.Has a ∧ second.store.Has a)
      (hb : ¬ second.store.Has b ∧ third.store.Has b) :
      Repeated first second third (.ok (.function ⟨params, body, a⟩))
        (.ok (.function ⟨params, body, b⟩))

namespace Renaming

variable {w : Renaming} {first second third : State} {left right : Value}

/-- What one value for the other means where the second run began when the first one had ended. -/
theorem SameValue.repeated (hle : (between first second).Grows w)
    (hrelated : w.Related second third)
    (hsize : first.store.scopes.size ≤ second.store.scopes.size)
    (h : w.SameValue left right) : Repeated first second third (.ok left) (.ok right) := by
  cases h with
  | data h => exact .data left h
  | @function f g h =>
    obtain ⟨params, body, a⟩ := f
    obtain ⟨params', body', b⟩ := g
    obtain ⟨rfl, rfl, hscope⟩ := h
    have hbase : first.store.scopes.size = w.base := hle.base
    have hshift : second.store.scopes.size - first.store.scopes.size = w.shift := hle.shift
    have hleft := hrelated.left_has hscope
    have hright := hrelated.right_has hscope
    obtain ⟨-, rfl⟩ := hscope
    by_cases ha : a.index < w.base
    · rw [image, if_pos ha]
      refine .known ⟨params, body, a⟩ ?_
      rw [Store.Has, hbase]
      exact ha
    · rw [image, if_neg ha] at hright ⊢
      refine .created params body ⟨?_, hleft⟩ ⟨?_, hright⟩
      · rw [Store.Has, hbase]
        exact ha
      · rw [Store.Has]
        change ¬ a.index + w.shift < second.store.scopes.size
        omega

end Renaming

/-- **Calls are repeatable.** If a call of a function ends, with a value or with an error, then the
same call from the state that it has left ends, too, and in the same way. -/
theorem call_repeats {mode : Mode} {callee : Value} {args : List Value}
    {result : Except EvalError Value} {first second : State} (hreachable : first.Reachable)
    (hcallee : first.Owns callee) (hargs : ∀ arg ∈ args, first.Owns arg)
    (hends : (Interpreter.standard mode).Ends (.call callee args) first result second) :
    ∃ result' third, (Interpreter.standard mode).Ends (.call callee args) second result' third ∧
      Repeated first second third result result' := by
  have hrequest : first.Admits (.call callee args) := .call hcallee hargs
  have hafter := (hreachable.sound.ends hrequest hends).1
  obtain ⟨nesting, hrun⟩ := hends
  have hframe := answer_call_frame hrun
  -- The second run knows all names that the first one has given out, so it is compared with a first
  -- run that knew them, too.
  have hknown : (Interpreter.standard mode).answer nesting (.call callee args)
      (first.knowing second.names) = .done result second := answer_of_known hrun le_rfl
  have hsound : (first.knowing second.names).Sound :=
    ⟨hreachable.sound.wellFormed, hreachable.sound.owned⟩
  have hat : Correspondence.renaming.At (Renaming.between first second) first.callDepth
      (first.knowing second.names) second :=
    ⟨hsound.between rfl hframe.size (fun id hid => hframe.scope id hid fun _ => False.elim)
      hafter.wellFormed, rfl, hframe.callDepth⟩
  have hm : Correspondence.renaming.Matches (Renaming.between first second) first.callDepth _
      ((Interpreter.standard mode).answer nesting (.call callee args) (first.knowing second.names))
      ((Interpreter.standard mode).answer nesting (.call callee args) second) :=
    Correspondence.answer_matches nesting hrequest.between hat
  rw [hknown] at hm
  generalize hagain : (Interpreter.standard mode).answer nesting (.call callee args) second =
    outcome at hm
  cases hm with
  | error _ _ => exact ⟨_, _, ⟨nesting, hagain⟩, .error _⟩
  | ok hle hv hat =>
    refine ⟨_, _, ⟨nesting, hagain⟩, ?_⟩
    exact Renaming.SameValue.repeated hle hat.state hframe.size hv

/-- A function literal with a parameter. -/
def Node.makeFunction (param : String) : Node :=
  ((new 0 .anonymousFunction).set .args (.list [leaf 1 .identifier param])).set .body
    (.node (new 2 .nullLiteral))

end Repetition

/-- A function that makes a function with a new name for its parameter, called twice from the
initial state. -/
theorem call_repeats_makeFunction :
    ∃ second, (Interpreter.standard .unlimited).Ends
        (.call (.function ⟨[], .makeFunction "x", .global⟩) []) .initial
        (.ok (.function ⟨[⟨1⟩], .new 2 .nullLiteral, ⟨1⟩⟩)) second ∧
      ∃ result third, (Interpreter.standard .unlimited).Ends
          (.call (.function ⟨[], .makeFunction "x", .global⟩) []) second result third ∧
        Repeated .initial second third (.ok (.function ⟨[⟨1⟩], .new 2 .nullLiteral, ⟨1⟩⟩))
          result := by
  have hends : (Interpreter.standard .unlimited).Ends
      (.call (.function ⟨[], .makeFunction "x", .global⟩) []) .initial
      (.ok (.function ⟨[⟨1⟩], .new 2 .nullLiteral, ⟨1⟩⟩))
      ⟨.ofTexts ["x"], (State.initial.store.addChild .global).2, 0⟩ := ⟨1, by rfl⟩
  have howns : State.initial.Owns (.function ⟨[], .makeFunction "x", .global⟩) := by
    rintro closure hclosure
    cases hclosure
    decide
  exact ⟨_, hends, call_repeats .initial howns nofun hends⟩

end TreeScript
