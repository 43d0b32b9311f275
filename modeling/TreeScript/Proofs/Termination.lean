import TreeScript.Proofs.Lockstep.Bodies

/-!
With a limit on nested calls every run ends. A run goes down from a node to its parts, which are
smaller, and from a call to the body of a function, which may be larger, but is one call deeper. The
body is that of a function in the state; no run makes bodies larger than those that the state and
the node began with. So how far the depth of calls is from the limit, together with the size of the
node, goes down on every step of a run to a nested request (`Interpreter.Prompts.rank_lt`), and
bounds how deeply evaluations nest (`answer_ne_exhausted`). A loop passes over a text that is fixed
before its first pass, whatever its body does to the variable that held it.
-/

namespace TreeScript

theorem Node.sizeOf_pos (node : Node) : 0 < sizeOf node := by
  obtain ⟨identity, kind, attrs⟩ := node
  rw [Node.mk.sizeOf_spec]
  omega

/-- One call deeper there is room for a whole body. -/
theorem rank_of_deeper {maxDepth bound depth size : Nat} (hdepth : depth < maxDepth)
    (hsize : size ≤ bound) :
    (maxDepth - (depth + 1)) * (bound + 1) + size < (maxDepth - depth) * (bound + 1) := by
  obtain ⟨rest, hrest⟩ : ∃ rest, maxDepth - depth = rest + 1 := ⟨maxDepth - depth - 1, by omega⟩
  calc (maxDepth - (depth + 1)) * (bound + 1) + size
      = rest * (bound + 1) + size := by rw [show maxDepth - (depth + 1) = rest by omega]
    _ < rest * (bound + 1) + (bound + 1) := by omega
    _ = (maxDepth - depth) * (bound + 1) := by rw [hrest, Nat.succ_mul]

variable [PatternEngine] {maxDepth bound : Nat} {request request' : Request} {state state' : State}

/-- How much there is left to go down from a request, where no body of a function is larger than the
bound: the depth of calls counts first, and then the size of the node. -/
noncomputable def Request.rank (maxDepth bound : Nat) (state : State) : Request → Nat
  | eval node _ => (maxDepth - state.callDepth) * (bound + 1) + sizeOf node
  | call _ _ => (maxDepth - state.callDepth) * (bound + 1)

/-- Every step of a run to a nested request goes down. -/
theorem Interpreter.Prompts.rank_lt
    (h : (Interpreter.standard (.bounded maxDepth)).Prompts (request, state) (request', state'))
    (hrequest : request.Confined (sizeOf · ≤ bound)) (hstate : state.Confined (sizeOf · ≤ bound)) :
    request'.rank maxDepth bound state' < request.rank maxDepth bound state := by
  cases h with
  | @eval node _ _ _ _ nesting hmakes =>
    cases hrequest with
    | eval hnode =>
      obtain ⟨-, hdepth, hasked⟩ := Action.Makes.confined (.sizeOf_le bound) hmakes hnode hstate
      rcases hasked with ⟨part, hpart, rfl⟩ | ⟨callee, args, rfl, -, -⟩
      · have hlt := Node.sizeOf_of_mem_parts hpart
        simp only [Request.rank, hdepth]
        omega
      · have hpos := node.sizeOf_pos
        simp only [Request.rank, hdepth]
        omega
  | call hc hlimit =>
    cases hrequest with
    | call hcallee _ =>
      have hbelow : state.callDepth < maxDepth := Interpreter.bounded_filter_eq_none_iff.1 hlimit
      exact rank_of_deeper hbelow (hcallee _ hc.1)

/-- Evaluations nest no more deeply than the rank says. -/
theorem answer_ne_exhausted {nesting : Nat} (hrequest : request.Confined (sizeOf · ≤ bound))
    (hstate : state.Confined (sizeOf · ≤ bound))
    (hnesting : request.rank maxDepth bound state ≤ nesting) :
    (Interpreter.standard (.bounded maxDepth)).answer nesting request state ≠ .exhausted := by
  induction hrank : request.rank maxDepth bound state using Nat.strongRecOn
    generalizing request state nesting with
  | ind rank ih =>
    subst hrank
    intro hexhausted
    rcases Interpreter.exists_prompts_of_exhausted hexhausted with
      ⟨rfl, node, scope, rfl⟩ | ⟨request', state', less, hless, hprompts, hexhausted⟩
    · have hpos := node.sizeOf_pos
      simp only [Request.rank] at hnesting
      omega
    · have hlt := hprompts.rank_lt hrequest hstate
      obtain ⟨hrequest', hstate'⟩ := hprompts.confined (.sizeOf_le bound) hrequest hstate
      exact ih _ hlt hrequest' hstate' (by omega) rfl hexhausted

/-- The nodes and bodies that a request begins with are smaller than the request. -/
theorem Request.confined_sizeOf (request : Request) :
    request.Confined (sizeOf · ≤ sizeOf request) := by
  cases request with
  | eval node scope =>
    refine .eval ?_
    simp only [Request.eval.sizeOf_spec]
    omega
  | call callee args =>
    refine .call (callee.confined_sizeOf.mono fun node hle => ?_) fun arg harg =>
      arg.confined_sizeOf.mono fun node hle => ?_
    · simp only [Request.call.sizeOf_spec]
      omega
    · have hlt := List.sizeOf_lt_of_mem harg
      simp only [Request.call.sizeOf_spec]
      omega

/-- A run from a state nests no more deeply than the sizes of the request and of the store allow. -/
theorem exists_answer_of_bounded (maxDepth : Nat) (request : Request) (state : State) :
    ∃ result state', (Interpreter.standard (.bounded maxDepth)).answer
      (request.rank maxDepth (sizeOf request + sizeOf state.store) state) request state =
        .done result state' := by
  have hrequest : request.Confined (sizeOf · ≤ sizeOf request + sizeOf state.store) :=
    request.confined_sizeOf.mono fun _ hle => Nat.le_trans hle (Nat.le_add_right _ _)
  have hstate : state.Confined (sizeOf · ≤ sizeOf request + sizeOf state.store) :=
    state.confined_sizeOf.mono fun _ hle => Nat.le_trans hle (Nat.le_add_left _ _)
  exact Outcome.exists_done_of_ne_exhausted (answer_ne_exhausted hrequest hstate (Nat.le_refl _))

/-- **Limited runs end.** With a limit on nested calls, whatever is evaluated or called, in whatever
state, the run ends with a value or with an error. -/
theorem limited_run_ends (maxDepth : Nat) (request : Request) (state : State) :
    ∃ result state',
      (Interpreter.standard (.bounded maxDepth)).Ends request state result state' := by
  obtain ⟨result, state', hrun⟩ := exists_answer_of_bounded maxDepth request state
  exact ⟨result, state', _, hrun⟩

end TreeScript
