import TreeScript.Value.Operations

/-!
Iteration over values. A pass works on the characters that a string had when the pass began; what
becomes of the string afterwards does not matter. Where a pass stands is kept as the number of bytes
that it has gone by in UTF-8, so a pass could stand inside a character: there it would find nothing.
-/

namespace TreeScript

/-- A pass over the characters of a string: all of them, and how many bytes of them it has gone
by. -/
structure Iterator where
  chars : List Char
  passed : Nat
  deriving DecidableEq, Repr

namespace Iterator

def ofText (text : Text) : Iterator :=
  ⟨text.chars, 0⟩

/-- The characters to come. -/
def rest (pass : Iterator) : List Char :=
  (Text.behind? pass.passed pass.chars).getD []

/-- The next character as a string, if there is one, and the pass after it. -/
def next (pass : Iterator) : Option Text × Iterator :=
  match pass.rest with
  | [] => (none, pass)
  | c :: _ => (some (.singleton c), { pass with passed := pass.passed + c.utf8Size })

def restart (pass : Iterator) : Iterator :=
  { pass with passed := 0 }

/-- All that a pass has yet to deliver. -/
def remaining (pass : Iterator) : List Text :=
  pass.rest.map .singleton

/-- Behind the next character stands what stood behind it before. -/
theorem rest_of_rest_eq_cons {pass : Iterator} {c : Char} {more : List Char}
    (h : pass.rest = c :: more) :
    ({ pass with passed := pass.passed + c.utf8Size } : Iterator).rest = more := by
  unfold rest at h ⊢
  cases hbehind : Text.behind? pass.passed pass.chars with
  | none =>
    rw [hbehind] at h
    cases h
  | some chars =>
    rw [hbehind] at h
    rw [Text.behind?_add hbehind]
    obtain rfl : chars = c :: more := h
    rw [Text.behind?_utf8Size, Option.getD_some]

/-- A pass yields some strings and then nothing more. -/
inductive Yields : Iterator → List Text → Prop where
  | done {pass after : Iterator} (hnext : pass.next = (none, after)) : Yields pass []
  | item {pass after : Iterator} {item : Text} {items : List Text}
      (hnext : pass.next = (some item, after)) (hitems : Yields after items) :
      Yields pass (item :: items)

/-- Whoever asks a pass for the next character until there is none gets all that it has yet to
deliver. -/
theorem yields_remaining (pass : Iterator) : pass.Yields pass.remaining := by
  unfold remaining
  -- The induction is on what is to come; a step takes away the first of it.
  generalize hrest : pass.rest = chars
  induction chars generalizing pass with
  | nil => exact .done (by rw [next, hrest])
  | cons c more ih => exact .item (by rw [next, hrest]) (ih _ (rest_of_rest_eq_cons hrest))

/-- The number of bytes of what is to come. -/
def restBytes (pass : Iterator) : Nat :=
  pass.chars.foldl (fun size c => size + c.utf8Size) 0 - pass.passed

/-- Bounds for the number of characters to come, by their bytes: a character has at least one byte
and at most four. -/
def sizeHint (pass : Iterator) : Nat × Nat :=
  ((pass.restBytes + 3) / 4, pass.restBytes)

end Iterator

/-- Begins a pass over a value. -/
def Value.iterate [PatternEngine] {N : Type} : Value N → Except EvalError Iterator
  | .string text => .ok (.ofText text)
  | value => value.unsupported .iteration

end TreeScript
