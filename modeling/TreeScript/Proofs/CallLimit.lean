import TreeScript.Proofs.Termination
import TreeScript.Regex.Engine

/-!
What a limit on nested calls does to a run: it cuts the run off, or it changes nothing. Under a
limit requests are answered as without one, unless a call is refused
(`answer_equalUnless_of_allows`). No rule fails with the error of a refused call by itself, and none
catches it, so a run that ends with this error has come to a call at the limit
(`reaches_of_refused`), and a run that comes to one ends so (`refused_of_reaches`). The depth of
calls is exact: nested requests are made at the depth of the run, and a body is evaluated one call
deeper (`Interpreter.Prompts.callDepth`).
-/

namespace TreeScript

/-! ### More calls allowed -/

/-- All calls that a limit allows are allowed. -/
def Mode.Allows (mode : Mode) (maxDepth : Nat) : Prop :=
  ∀ depth < maxDepth, mode.callLimit.filter (· ≤ depth) = none

theorem Mode.unlimited_allows (maxDepth : Nat) : Mode.unlimited.Allows maxDepth :=
  fun _ _ => rfl

theorem Mode.bounded_allows {maxDepth more : Nat} (h : maxDepth ≤ more) :
    (Mode.bounded more).Allows maxDepth :=
  fun _ hlt => Interpreter.bounded_filter_eq_none_iff.2 (Nat.lt_of_lt_of_le hlt h)

section Limits

variable [PatternEngine] {mode : Mode} {maxDepth nesting : Nat} {request request' : Request}
  {state state' : State}

def Stop.Refused (maxDepth : Nat) (stop : Stop) : Prop :=
  ∃ state, stop = .failed (.callDepth maxDepth) state

/-- Under a limit requests are answered as where more calls are allowed, unless a call is
refused. -/
theorem answer_equalUnless_of_allows (h : mode.Allows maxDepth) (nesting : Nat) (request : Request)
    (state : State) :
    ((Interpreter.standard (.bounded maxDepth)).answer nesting request state).EqualUnless
      (Stop.Refused maxDepth) ((Interpreter.standard mode).answer nesting request state) := by
  refine Interpreter.answer_equalUnless (.inl ?_) ?_ ?_ (fun depth => ?_) request state
  · rfl
  · rfl
  · rintro error state ⟨_, hstop⟩
    cases hstop
    exact ⟨_, rfl⟩
  · rcases Nat.lt_or_ge depth maxDepth with hlt | hge
    · left
      rw [Interpreter.bounded_filter_eq_none_iff.2 hlt]
      exact (h depth hlt).symm
    · right
      exact ⟨maxDepth, Interpreter.bounded_filter_eq_some_iff.2 ⟨rfl, hge⟩, fun _ => ⟨_, rfl⟩⟩

/-! ### No other source of the error -/

/-- An action in lockstep with another one does not fail by itself with the error of a refused call,
if names and values are alike to themselves. -/
theorem Lockstep.not_mayFail_callDepth {likeness : Likeness} {node : Node} {a b : ScopeId}
    {α β : Type} {alike : likeness.World → α → β → Prop} {w : likeness.World}
    {action : Action NameTable Name α} {action' : Action NameTable Name β}
    (h : Lockstep likeness node a b alike w action action')
    (hname : ∀ w text m, likeness.name w text m m) (hvalue : ∀ w v, likeness.value w v v)
    (limit : Nat) : ¬ action.MayFail (.callDepth limit) := by
  intro hfail
  induction h with
  | ok _ => cases hfail
  | error hne =>
    cases hfail
    exact hne limit rfl
  | intern _ ih =>
    cases hfail with
    | access state hfail => exact ih _ _ _ le_rfl (hname _ _ _) hfail
  | @lookup w text m n next next' _ _ ih =>
    cases hfail with
    | access state hfail =>
      have hfound := optionRel_refl (hvalue w) (state.store.lookup a m)
      exact ih _ _ hfound hfail
  | bindName _ _ _ _ ih =>
    cases hfail with
    | access state hfail => exact ih () hfail
  | ask _ _ ih =>
    cases hfail with
    | ask value hfail => exact ih _ _ _ le_rfl (hvalue _ value) hfail

/-- No rule fails by itself with the error of a refused call. -/
theorem not_mayFail_callDepth (node : Node) (scope : ScopeId) (limit : Nat) :
    ¬ (Rules.handler node.kind node scope : Action NameTable Name Value).MayFail
      (.callDepth limit) := by
  let c := Correspondence.confined .all
  have hlockstep : Lockstep c.toLikeness node scope scope c.value ()
      (Rules.handler node.kind node scope) (Rules.handler node.kind node scope) :=
    .handler trivial rfl
  exact hlockstep.not_mayFail_callDepth (fun _ _ _ => rfl)
    (fun _ value => .refl (fun _ => ⟨rfl, trivial⟩) value) limit

/-! ### Calls at the limit -/

/-- A run from a request comes to a call that takes its arguments and is refused. -/
def Interpreter.ReachesRefused (interpreter : Interpreter) (limit : Nat) (start : Request × State) :
    Prop :=
  ∃ callee args closure state, interpreter.Reaches start (.call callee args, state) ∧
    callee.Accepts args closure ∧
    interpreter.mode.callLimit.filter (· ≤ state.callDepth) = some limit

/-- A run that ends with the error of a refused call has come to that call. -/
theorem reaches_of_refused {limit : Nat}
    (h : (Interpreter.standard mode).Ends request state (.error (.callDepth limit)) state') :
    (Interpreter.standard mode).ReachesRefused limit (request, state) := by
  obtain ⟨origin, hreaches, hraises⟩ := h.reachesRaise
  cases hraises with
  | @eval node scope _ hfail => exact absurd hfail (not_mayFail_callDepth node scope limit)
  | @call callee args between hcall =>
    have hcases := callWith_cases (Interpreter.standard mode).mode.callLimit callee args between
    have hcut := hcall fun _ _ _ => .exhausted
    rcases hcases with ⟨_, hne, heq⟩ | ⟨closure, _, hc, hlimit, heq⟩ | ⟨_, -, -, heq⟩
    · rw [heq] at hcut
      cases hcut
      exact absurd rfl (hne limit)
    · rw [heq] at hcut
      cases hcut
      exact ⟨callee, args, closure, between, hreaches, hc, hlimit⟩
    · rw [heq] at hcut
      cases hcut

/-- A run that comes to a request next that ends with the error of a refused call ends so, too. -/
theorem refused_of_prompts (hallows : mode.Allows maxDepth)
    (hprompts : (Interpreter.standard mode).Prompts (request, state) (request', state'))
    (h : ∃ after, (Interpreter.standard (.bounded maxDepth)).Ends request' state'
      (.error (.callDepth maxDepth)) after) :
    ∃ after, (Interpreter.standard (.bounded maxDepth)).Ends request state
      (.error (.callDepth maxDepth)) after := by
  obtain ⟨after, enough, hrun⟩ := h
  cases hprompts with
  | eval nesting hmakes =>
    have hrun := Interpreter.answer_of_le (Nat.le_max_right nesting enough) hrun
    have hmakes := hmakes.of_equalUnless
      (Interpreter.answer_equalUnless_of_le (Nat.le_max_left nesting enough))
    -- The limited run comes to the request, or it has been cut off before.
    rcases hmakes.or_stop?_run (answer_equalUnless_of_allows hallows _) with
      hmakes | ⟨stop, hs, between, rfl⟩
    · have hs := hmakes.stop?_run (Outcome.stop?_eq_failed_iff.2 hrun)
      exact ⟨after, max nesting enough + 1, Outcome.stop?_eq_failed_iff.1 hs⟩
    · exact ⟨between, max nesting enough + 1, Outcome.stop?_eq_failed_iff.1 hs⟩
  | call hc _ =>
    rcases Nat.lt_or_ge state.callDepth maxDepth with hlt | hge
    · refine ⟨after.leave, enough, ?_⟩
      have hlimit := Interpreter.bounded_filter_eq_none_iff.2 hlt
      rw [Interpreter.answer_call, callWith_of_accepts hc hlimit]
      exact congrArg (Outcome.mapState State.leave) hrun
    · have hlimit := Interpreter.bounded_filter_eq_some_iff.2 ⟨rfl, hge⟩
      exact ⟨state, enough, callWith_of_limit hc hlimit⟩

/-- A run that comes to a call at the limit ends with the error of a refused call. -/
theorem refused_of_reaches (hallows : mode.Allows maxDepth) {start last : Request × State}
    (hreaches : (Interpreter.standard mode).Reaches start last)
    (h : ∃ after, (Interpreter.standard (.bounded maxDepth)).Ends last.1 last.2
      (.error (.callDepth maxDepth)) after) :
    ∃ after, (Interpreter.standard (.bounded maxDepth)).Ends start.1 start.2
      (.error (.callDepth maxDepth)) after := by
  induction hreaches using Relation.ReflTransGen.head_induction_on with
  | refl => exact h
  | head hprompts _ ih => exact refused_of_prompts hallows hprompts ih

/-! ### The depth of calls -/

/-- No run under a limit goes deeper than the limit. -/
theorem Interpreter.Prompts.callDepth
    (h : (Interpreter.standard (.bounded maxDepth)).Prompts (request, state) (request', state'))
    (hdepth : state.callDepth ≤ maxDepth) : state'.callDepth ≤ maxDepth := by
  cases h with
  | eval nesting hmakes =>
    obtain ⟨-, heq, -⟩ := Action.Makes.confined .all hmakes trivial fun _ _ _ _ _ _ => trivial
    rw [heq]
    exact hdepth
  | call _ hlimit => exact Interpreter.bounded_filter_eq_none_iff.1 hlimit

theorem Interpreter.Reaches.callDepth {start last : Request × State}
    (h : (Interpreter.standard (.bounded maxDepth)).Reaches start last)
    (hdepth : start.2.callDepth ≤ maxDepth) : last.2.callDepth ≤ maxDepth := by
  induction h with
  | refl => exact hdepth
  | tail _ hprompts ih => exact Interpreter.Prompts.callDepth hprompts ih

/-- What a run comes to under a limit it comes to where more calls are allowed. -/
theorem Interpreter.Reaches.of_allows (hallows : mode.Allows maxDepth)
    {start last : Request × State}
    (h : (Interpreter.standard (.bounded maxDepth)).Reaches start last) :
    (Interpreter.standard mode).Reaches start last := by
  refine Relation.ReflTransGen.mono (fun before after hprompts => ?_) _ _ h
  cases hprompts with
  | eval nesting hmakes =>
    exact .eval nesting (hmakes.of_equalUnless (answer_equalUnless_of_allows hallows nesting))
  | call hc hlimit =>
    exact .call hc (hallows _ (Interpreter.bounded_filter_eq_none_iff.1 hlimit))

/-! ### Limited and unlimited runs -/

/-- A limited run that is not cut off ends in the same way where more calls are allowed. -/
theorem Interpreter.Ends.of_allows {result : Except EvalError Value}
    (hallows : mode.Allows maxDepth)
    (h : (Interpreter.standard (.bounded maxDepth)).Ends request state result state')
    (hresult : result ≠ .error (.callDepth maxDepth)) :
    (Interpreter.standard mode).Ends request state result state' := by
  obtain ⟨nesting, hrun⟩ := h
  rcases answer_equalUnless_of_allows hallows nesting request state with heq | ⟨stop, hs, _, rfl⟩
  · exact ⟨nesting, heq ▸ hrun⟩
  · rw [hrun, Outcome.stop?_eq_failed_iff] at hs
    cases hs
    exact absurd rfl hresult

/-- Without a limit no call is refused. -/
theorem unlimited_ne_callDepth {limit : Nat} :
    ¬ (Interpreter.standard .unlimited).Ends request state (.error (.callDepth limit)) state' := by
  intro h
  obtain ⟨_, _, _, _, _, _, hlimit⟩ := reaches_of_refused h
  cases hlimit

/-- A limited run is cut off exactly when the run without a limit comes to a call at the limit. -/
theorem refused_iff_reaches (hdepth : state.callDepth ≤ maxDepth) :
    (∃ after, (Interpreter.standard (.bounded maxDepth)).Ends request state
        (.error (.callDepth maxDepth)) after) ↔
      ∃ callee args closure between, (Interpreter.standard .unlimited).Reaches (request, state)
          (.call callee args, between) ∧
        callee.Accepts args closure ∧ between.callDepth = maxDepth := by
  have hallows := Mode.unlimited_allows maxDepth
  constructor
  · rintro ⟨after, h⟩
    obtain ⟨callee, args, closure, between, hreaches, hc, hlimit⟩ := reaches_of_refused h
    have hle := hreaches.callDepth hdepth
    have hge := (Interpreter.bounded_filter_eq_some_iff.1 hlimit).2
    exact ⟨callee, args, closure, between, hreaches.of_allows hallows, hc, Nat.le_antisymm hle hge⟩
  · rintro ⟨callee, args, closure, between, hreaches, hc, rfl⟩
    refine refused_of_reaches hallows hreaches ⟨between, 0, callWith_of_limit hc ?_⟩
    exact Interpreter.bounded_filter_eq_some_iff.2 ⟨rfl, Nat.le_refl _⟩

/-- **A limit only cuts runs off.** A limited run is cut off by the error of a refused call, or it
ends as the run without a limit does, with the same result in the same state. It is cut off exactly
when the run without a limit, which need not end, comes to a call of a function with the right
number of arguments while as many calls are active as the limit says. A run that is not cut off ends
in the same way under every greater limit, and without a limit no run ends with this error. -/
theorem call_limit_only_cuts (maxDepth : Nat) (request : Request) (state : State) :
    ((∃ after, (Interpreter.standard (.bounded maxDepth)).Ends request state
        (.error (.callDepth maxDepth)) after) ∨
      ∃ result after, (Interpreter.standard (.bounded maxDepth)).Ends request state result after ∧
        (Interpreter.standard .unlimited).Ends request state result after) ∧
    (state.callDepth ≤ maxDepth →
      ((∃ after, (Interpreter.standard (.bounded maxDepth)).Ends request state
          (.error (.callDepth maxDepth)) after) ↔
        ∃ callee args closure between, (Interpreter.standard .unlimited).Reaches (request, state)
            (.call callee args, between) ∧
          callee.Accepts args closure ∧ between.callDepth = maxDepth)) ∧
    (∀ more result after, maxDepth ≤ more →
      (Interpreter.standard (.bounded maxDepth)).Ends request state result after →
      result ≠ .error (.callDepth maxDepth) →
      (Interpreter.standard (.bounded more)).Ends request state result after) ∧
    ∀ limit after,
      ¬ (Interpreter.standard .unlimited).Ends request state (.error (.callDepth limit)) after := by
  refine ⟨?_, refused_iff_reaches, ?_, fun _ _ => unlimited_ne_callDepth⟩
  · obtain ⟨result, after, hrun⟩ := exists_answer_of_bounded maxDepth request state
    have hends : (Interpreter.standard (.bounded maxDepth)).Ends request state result after :=
      ⟨_, hrun⟩
    by_cases hresult : result = .error (.callDepth maxDepth)
    · exact .inl ⟨after, hresult ▸ hends⟩
    · exact .inr ⟨result, after, hends, hends.of_allows (Mode.unlimited_allows maxDepth) hresult⟩
  · intro more result after hle hends hresult
    exact hends.of_allows (Mode.bounded_allows hle) hresult

/-- A call of the variable with a text, without arguments. -/
def Node.callVariable (text : String) : Node :=
  (new 0 .functionCall).set .callee (.node (leaf 1 .identifier text))

/-- A function that calls the variable with a text, in the outermost scope. -/
def Closure.calling (text : String) : Closure :=
  ⟨[], .callVariable text, .global⟩

/-- A state in which the variable is such a function, which calls itself. -/
def State.recursive (text : String) : State :=
  { State.initial with
    names := .ofTexts [text]
    store := State.initial.store.bind .global ⟨1⟩ (.function (.calling text)) }

end Limits

/-- A function that calls itself is cut off, so that it comes to a call at the limit without a
limit, too; a function that gives null is not, and ends in the same way under a greater limit. -/
theorem call_limit_only_cuts_recursive :
    (∃ callee args closure between, (Interpreter.standard .unlimited).Reaches
        (.call (.function (.calling "f")) [], .recursive "f") (.call callee args, between) ∧
      callee.Accepts args closure ∧ between.callDepth = 2) ∧
    ∃ after, (Interpreter.standard (.bounded 9)).Ends
      (.call (.function ⟨[], .new 0 .nullLiteral, .global⟩) []) .initial (.ok .null) after := by
  constructor
  · refine ((call_limit_only_cuts 2 _ _).2.1 (by decide)).1 ?_
    exact ⟨_, 6, by rfl⟩
  · have hends : (Interpreter.standard (.bounded 1)).Ends
        (.call (.function ⟨[], .new 0 .nullLiteral, .global⟩) []) .initial (.ok .null)
        { State.initial with store := (State.initial.store.addChild .global).2 } := ⟨1, by rfl⟩
    exact ⟨_, (call_limit_only_cuts 1 _ _).2.2.1 9 _ _ (by decide) hends nofun⟩

end TreeScript
