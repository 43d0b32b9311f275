import TreeScript.Eval.Replacement
import TreeScript.Proofs.Frame
import TreeScript.Proofs.Lockstep.Bodies
import TreeScript.Regex.Engine

/-!
What a handler in the place of a rule of the language can change. Evaluating a node comes to its
parts, to their parts and so on, and to the bodies of the function literals among them
(`Node.Evaluates`). Other nodes below it are read without being evaluated: operators, parameters,
the items of loops, the targets of assignments. If a program evaluates no node of a kind, and no
function that is bound at the start does, then it does not matter what the handler of this kind is
(`replacement_unseen`).
-/

namespace TreeScript

/-! ### Nodes that are evaluated -/

/-- To evaluate a node may take evaluating another one: the node itself, what its parts take, and
what the body of a function literal takes when the function is called. -/
inductive Node.Evaluates : Node → Node → Prop where
  | self {node : Node} : Evaluates node node
  | part {node part inner : Node} (hpart : part ∈ node.parts) (h : Evaluates part inner) :
      Evaluates node inner
  | body {node body inner : Node} (hkind : node.kind = .anonymousFunction)
      (hbody : node.child? .body = some body) (h : Evaluates body inner) : Evaluates node inner

/-- No node that is evaluated is of the kind. -/
def Node.Lacks (kind : NodeKind) (node : Node) : Prop :=
  ∀ inner, node.Evaluates inner → inner.kind ≠ kind

theorem Node.lacks_iff {kind : NodeKind} {node : Node} : node.Lacks kind ↔
    node.kind ≠ kind ∧ (∀ part ∈ node.parts, part.Lacks kind) ∧
      ∀ body, node.kind = .anonymousFunction → node.child? .body = some body →
        body.Lacks kind := by
  constructor
  · intro h
    refine ⟨h node .self, ?_, ?_⟩
    · intro part hpart inner hinner
      exact h inner (.part hpart hinner)
    · intro body hkind hbody inner hinner
      exact h inner (.body hkind hbody hinner)
  · rintro ⟨hself, hpart, hbody⟩ inner hinner
    cases hinner with
    | self => exact hself
    | part hmem hinner => exact hpart _ hmem inner hinner
    | body hkind hchild hinner => exact hbody _ hkind hchild inner hinner

theorem NodesClosed.lacks (kind : NodeKind) : NodesClosed (Node.Lacks kind) where
  part h hpart := (Node.lacks_iff.1 h).2.1 _ hpart
  body h hkind hbody := (Node.lacks_iff.1 h).2.2 _ hkind hbody

/-! ### Replacing one handler -/

/-- The interpreter with the rules of the language, but for one kind of nodes. -/
def Interpreter.replacing [PatternEngine] (mode : Mode) (kind : NodeKind) (handler : Handler) :
    Interpreter where
  registry := Registry.standard.withHandler kind handler
  mode := mode

/-- Nodes of other kinds are treated by the rules of the language. -/
theorem Interpreter.Follows.replacing [PatternEngine] {mode : Mode} {kind : NodeKind}
    {handler : Handler} :
    (Interpreter.replacing mode kind handler).Follows (Node.Lacks kind) := by
  intro node hnode
  have hkind : node.kind ≠ kind := hnode node .self
  simp [Interpreter.replacing, Registry.handler, Registry.withHandler, Registry.standard, hkind]

/-- **A handler that is not used.** Where neither the node to be evaluated, or the function to be
called and its arguments, nor any function that is bound takes evaluating a node of a kind, the
handler of this kind makes no difference: with any handler in its place a request is answered as it
is by the rules of the language, however much nesting there is, and so the two runs end alike, in
one state, or both come to no end. -/
theorem replacement_unseen [PatternEngine] (mode : Mode) (kind : NodeKind) (handler : Handler)
    (request : Request)
    (state : State) (hrequest : request.Confined (Node.Lacks kind))
    (hstate : state.Confined (Node.Lacks kind)) :
    (∀ nesting, (Interpreter.replacing mode kind handler).answer nesting request state =
      (Interpreter.standard mode).answer nesting request state) ∧
    ∀ result state', (Interpreter.replacing mode kind handler).Ends request state result state' ↔
      (Interpreter.standard mode).Ends request state result state' := by
  have hanswer := Interpreter.answer_eq_of_follows (NodesClosed.lacks kind)
    (.replacing : (Interpreter.replacing mode kind handler).Follows _)
    (.standard _ : (Interpreter.standard mode).Follows _) rfl hrequest hstate
  refine ⟨hanswer, fun result state' => ?_⟩
  simp only [Interpreter.Ends, hanswer]

/-- An assignment reads the variable on its left side and does not evaluate it: it binds the name
even if variables are refused. A variable by itself is then refused. -/
theorem replacement_unseen_assignNull :
    (Interpreter.replacing .unlimited .identifier Replacement.refuse).Ends
        (.eval (.assignNull "x") .global) .initial (.ok .null)
        ⟨.ofTexts ["x"], State.initial.store.bind .global ⟨1⟩ .null, 0⟩ ∧
      (Interpreter.replacing .unlimited .identifier Replacement.refuse).Ends
        (.eval (.leaf 1 .identifier "x") .global) .initial
        (.error (.invalidOperand "refused Variable")) .initial := by
  have hlacks : (Node.assignNull "x").Lacks .identifier := by
    refine Node.lacks_iff.2 ⟨by decide, ?_, nofun⟩
    intro part hpart
    obtain rfl : part = .new 2 .nullLiteral := List.mem_singleton.1 hpart
    exact Node.lacks_iff.2 ⟨by decide, nofun, nofun⟩
  have hends : (Interpreter.standard .unlimited).Ends (.eval (.assignNull "x") .global) .initial
      (.ok .null) ⟨.ofTexts ["x"], State.initial.store.bind .global ⟨1⟩ .null, 0⟩ := ⟨2, by rfl⟩
  have hunseen := replacement_unseen .unlimited .identifier Replacement.refuse
    (.eval (.assignNull "x") .global) .initial (.eval hlacks) .initial
  exact ⟨(hunseen.2 _ _).2 hends, 1, by rfl⟩

end TreeScript
