import TreeScript.Value.Iteration
import TreeScript.Proofs.StringWrites
import TreeScript.Proofs.Text.Bytes
import TreeScript.Regex.Engine

/-!
Passes over strings. A pass counts bytes, and a character takes from one to four of them; so all
hangs on that a pass never stands inside a character. A pass that was asked for some characters
stands behind as many of them, or behind all if there are fewer (`Iterator.At`). This is so at the
beginning and after every step (`At.next_snd`), and what comes next is the character that stands
there (`At.next_fst`). Whoever has begun a pass may ask it for characters and write to the string
that it was begun on, in any order (`Session`): what the pass delivers is the content that the
string had at the beginning, and then nothing for ever (`Session.Over.run`). Length and indices go
by the same content (`characters_agree`).
-/

namespace TreeScript

/-! ### What is delivered -/

namespace Text

/-- What a pass over a string delivers when it is asked so many times: the characters, one after the
other, and then nothing. -/
def items (text : Text) (count : Nat) : List (Option Text) :=
  (text.chars.take count).map (fun c => some (.singleton c)) ++
    List.replicate (count - text.length) none

theorem items_succ (text : Text) (count : Nat) :
    text.items (count + 1) = text.items count ++ [text.chars[count]?.map .singleton] := by
  by_cases hlt : count < text.chars.length
  · have hnow : count - text.length = 0 := Nat.sub_eq_zero_of_le (Nat.le_of_lt hlt)
    have hnext : count + 1 - text.length = 0 := Nat.sub_eq_zero_of_le hlt
    rw [items, items, hnow, hnext, List.take_succ_eq_append_getElem hlt, List.map_append,
      List.getElem?_eq_getElem hlt, List.replicate_zero, List.append_nil, List.append_nil]
    rfl
  · have hle : text.chars.length ≤ count := Nat.not_lt.1 hlt
    have hnext : count + 1 - text.length = (count - text.length) + 1 := Nat.succ_sub hle
    rw [items, items, hnext, List.take_of_length_le hle,
      List.take_of_length_le (Nat.le_succ_of_le hle), List.getElem?_eq_none hle,
      List.replicate_succ', List.append_assoc]
    rfl

end Text

/-! ### Positions of passes -/

namespace Iterator

/-- A pass goes by the characters of a string, and it was asked for so many of them since it
began. -/
structure At (pass : Iterator) (text : Text) (count : Nat) : Prop where
  chars : pass.chars = text.chars
  passed : pass.passed = Text.bytes (text.chars.take count)

theorem at_ofText (text : Text) : (ofText text).At text 0 := by
  constructor
  · rfl
  · rfl

namespace At

variable {pass : Iterator} {text : Text} {count : Nat}

/-- A pass that begins anew stands at the beginning. -/
theorem restart (h : pass.At text count) : pass.restart.At text 0 := by
  constructor
  · exact h.chars
  · rfl

/-- What is to come are the characters that the pass was not yet asked for. -/
theorem rest_eq (h : pass.At text count) : pass.rest = text.chars.drop count := by
  have hbehind := Text.behind?_bytes (text.chars.take count) (text.chars.drop count)
  rw [List.take_append_drop] at hbehind
  rw [rest, h.chars, h.passed, hbehind, Option.getD_some]

theorem remaining_eq (h : pass.At text count) :
    pass.remaining = (text.chars.drop count).map .singleton := by
  rw [remaining, h.rest_eq]

/-- In front of a character a pass delivers it and goes by its bytes. -/
theorem next_of_lt (h : pass.At text count) (hlt : count < text.chars.length) :
    pass.next = (some (.singleton text.chars[count]),
      { pass with passed := pass.passed + text.chars[count].utf8Size }) := by
  rw [next, h.rest_eq, List.drop_eq_getElem_cons hlt]

/-- At the end a pass delivers nothing and stays where it is. -/
theorem next_of_le (h : pass.At text count) (hle : text.chars.length ≤ count) :
    pass.next = (none, pass) := by
  rw [next, h.rest_eq, List.drop_of_length_le hle]

/-- A pass delivers the character that it was not yet asked for, if there is one. -/
theorem next_fst (h : pass.At text count) :
    pass.next.1 = text.chars[count]?.map .singleton := by
  by_cases hlt : count < text.chars.length
  · rw [h.next_of_lt hlt, List.getElem?_eq_getElem hlt, Option.map_some]
  · rw [h.next_of_le (Nat.not_lt.1 hlt), List.getElem?_eq_none (Nat.not_lt.1 hlt), Option.map_none]

/-- After a step a pass was asked for one more character. -/
theorem next_snd (h : pass.At text count) : pass.next.2.At text (count + 1) := by
  by_cases hlt : count < text.chars.length
  · rw [h.next_of_lt hlt]
    refine ⟨h.chars, ?_⟩
    change pass.passed + _ = _
    rw [h.passed, List.take_succ_eq_append_getElem hlt, Text.bytes_append, Text.bytes_cons,
      Text.bytes_nil, Nat.add_zero]
  · have hle : text.chars.length ≤ count := Nat.not_lt.1 hlt
    rw [h.next_of_le hle]
    refine ⟨h.chars, ?_⟩
    rw [h.passed, List.take_of_length_le hle, List.take_of_length_le (Nat.le_succ_of_le hle)]

/-- A pass yields what is to come. -/
theorem yields (h : pass.At text count) :
    pass.Yields ((text.chars.drop count).map .singleton) := by
  rw [← h.remaining_eq]
  exact pass.yields_remaining

/-- The bounds for what is to come hold. -/
theorem sizeHint_bounds (h : pass.At text count) :
    pass.sizeHint.1 ≤ text.length - count ∧ text.length - count ≤ pass.sizeHint.2 := by
  have hbytes : pass.restBytes = Text.bytes (text.chars.drop count) := by
    have hall := Text.bytes_append (text.chars.take count) (text.chars.drop count)
    rw [List.take_append_drop] at hall
    rw [restBytes, h.chars, h.passed, Text.foldl_utf8Size, hall]
    omega
  have hlow := Text.bytes_le (text.chars.drop count)
  have hhigh := Text.length_le_bytes (text.chars.drop count)
  rw [List.length_drop, ← hbytes] at hlow hhigh
  change (pass.restBytes + 3) / 4 ≤ text.chars.length - count ∧
    text.chars.length - count ≤ pass.restBytes
  omega

end At

/-! ### Asking and writing -/

variable [PatternEngine]

/-- What is done while a pass goes on: it is asked for a character, or the string that it was begun
on is written to. -/
inductive Event where
  | next
  | write (index : Option Value) (value : Value)

/-- How often a pass is asked for a character. -/
def Event.asks : List Event → Nat
  | [] => 0
  | next :: rest => asks rest + 1
  | write _ _ :: rest => asks rest

/-- A value, a pass that was begun on it, and what the pass has delivered. -/
structure Session where
  source : Value
  pass : Iterator
  delivered : List (Option Text)

namespace Session

def begin (source : Value) : Except EvalError Session := do
  return ⟨source, ← source.iterate, []⟩

def step (session : Session) : Event → Session
  | .next =>
    { session with
      pass := session.pass.next.2
      delivered := session.delivered ++ [session.pass.next.1] }
  | .write index value => { session with source := session.source.afterWrite index value }

def run (session : Session) : List Event → Session
  | [] => session
  | event :: rest => (session.step event).run rest

/-- A pass was asked for so many characters of a string, and has delivered them. -/
structure Over (session : Session) (text : Text) (count : Nat) : Prop where
  position : session.pass.At text count
  delivered : session.delivered = text.items count

namespace Over

variable {session : Session} {text : Text} {count : Nat}

theorem next (h : session.Over text count) : (session.step .next).Over text (count + 1) := by
  constructor
  · exact h.position.next_snd
  · change session.delivered ++ [session.pass.next.1] = _
    rw [h.delivered, h.position.next_fst, Text.items_succ]

theorem write (h : session.Over text count) (index : Option Value) (value : Value) :
    (session.step (.write index value)).Over text count := by
  constructor
  · exact h.position
  · exact h.delivered

/-- Whatever is done, the pass delivers the characters that the string had when it was begun. -/
theorem run (h : session.Over text count) (events : List Event) :
    (session.run events).Over text (count + Event.asks events) := by
  induction events generalizing session count with
  | nil => exact h
  | cons event rest ih =>
    cases event with
    | next =>
      have hrest := ih h.next
      rw [Nat.add_assoc, Nat.add_comm 1] at hrest
      exact hrest
    | write index value => exact ih (h.write index value)

end Over

theorem begin_string (text : Text) :
    begin (.string text) = .ok ⟨.string text, .ofText text, []⟩ :=
  rfl

/-- A pass that was just begun was asked for nothing. -/
theorem over_begin (text : Text) : Over ⟨.string text, .ofText text, []⟩ text 0 := by
  constructor
  · exact at_ofText text
  · simp [Text.items]

end Session

end Iterator

/-! ### Characters at indices -/

section Indices

variable [PatternEngine] {text : Text} {i : Int64}

theorem Value.indexGet_int (text : Text) (i : Int64) :
    (Value.string text : Value).indexGet (.int i) =
      match (Value.position? i).bind text.get? with
      | some c => .ok (.string c)
      | none => .error (.undefinedIndex i) :=
  rfl

/-- At an index inside a string stands one of its characters. -/
theorem Value.indexGet_of_lt (hlow : 0 ≤ i.toInt) (hhigh : i.toInt < text.length) :
    ∃ c, text.chars[i.toInt.toNat]? = some c ∧
      (Value.string text : Value).indexGet (.int i) = .ok (.string (.singleton c)) := by
  have hlt : i.toInt.toNat < text.chars.length := (Int.toNat_lt hlow).2 hhigh
  have hget : text.get? i.toInt.toNat = some (.singleton text.chars[i.toInt.toNat]) := by
    rw [Text.get?, List.getElem?_eq_getElem hlt, Option.map_some]
  refine ⟨text.chars[i.toInt.toNat], List.getElem?_eq_getElem hlt, ?_⟩
  rw [indexGet_int, position?_of_nonneg hlow, Option.bind_some, hget]

/-- There is nothing at any other index. -/
theorem Value.indexGet_of_not (h : ¬ (0 ≤ i.toInt ∧ i.toInt < text.length)) :
    (Value.string text : Value).indexGet (.int i) = .error (.undefinedIndex i) := by
  have hnone : (Value.position? i).bind text.get? = none := by
    by_cases hlow : i.toInt < 0
    · rw [position?_of_neg hlow, Option.bind_none]
    · have hle : text.length ≤ i.toInt.toNat := by omega
      rw [position?_of_nonneg (Int.not_lt.1 hlow), Option.bind_some, Text.get?,
        List.getElem?_eq_none hle, Option.map_none]
  rw [indexGet_int, hnone]

end Indices

/-- **Characters of strings.** The length of a string, what stands at its indices and what a pass
over it delivers all go by its content. At every integer from zero up to the length, exclusively,
stands the string of one character, and nothing stands at any other. A pass may be begun on the
string; however often it was asked for a character since then, and whatever was written to the
string meanwhile, it has delivered the characters in order, and nothing after the last one; it
yields the others and nothing else, a pass that begins anew yields all of them, and the bounds for
their number hold. -/
theorem characters_agree [PatternEngine] (text : Text) :
    text.length = text.internal.length ∧
    (∀ i : Int64,
      (0 ≤ i.toInt ∧ i.toInt < text.length → ∃ c, text.chars[i.toInt.toNat]? = some c ∧
        (Value.string text : Value).indexGet (.int i) = .ok (.string (.singleton c))) ∧
      (¬ (0 ≤ i.toInt ∧ i.toInt < text.length) →
        (Value.string text : Value).indexGet (.int i) = .error (.undefinedIndex i))) ∧
    (∀ c, (Text.singleton c).chars = [c]) ∧
    ∃ start, Iterator.Session.begin (.string text) = .ok start ∧
      ∀ events count session, Iterator.Event.asks events = count → start.run events = session →
        session.delivered = (text.chars.take count).map (fun c => some (.singleton c)) ++
          List.replicate (count - text.length) none ∧
        session.pass.Yields ((text.chars.drop count).map .singleton) ∧
        session.pass.restart.Yields (text.chars.map .singleton) ∧
        session.pass.sizeHint.1 ≤ text.length - count ∧
        text.length - count ≤ session.pass.sizeHint.2 := by
  refine ⟨?_, ?_, fun c => Text.chars_ofChars [c], ?_⟩
  · rw [Text.internal, String.length_ofList]
    rfl
  · intro i
    constructor
    · rintro ⟨hlow, hhigh⟩
      exact Value.indexGet_of_lt hlow hhigh
    · exact Value.indexGet_of_not
  · refine ⟨_, Iterator.Session.begin_string text, ?_⟩
    rintro events count session rfl rfl
    have hover := (Iterator.Session.over_begin text).run events
    rw [Nat.zero_add] at hover
    exact ⟨hover.delivered, hover.position.yields, hover.position.restart.yields,
      hover.position.sizeHint_bounds⟩

/-- The string `"aé"` is written to after its first character was delivered. It has become `"zé!"`
then, and the pass delivers an `é` and nothing after it. -/
theorem characters_agree_written :
    ∃ start session, Iterator.Session.begin (.string ⟨"aé"⟩) = .ok start ∧
      start.run [.next, .write none (.string ⟨"!"⟩), .write (some (.int 0)) (.string ⟨"z"⟩), .next,
        .next] = session ∧
      session.source = .string ⟨"zé!"⟩ ∧
      session.delivered = [some ⟨"a"⟩, some ⟨"é"⟩, none] ∧
      session.pass.Yields [] ∧ session.pass.restart.Yields [⟨"a"⟩, ⟨"é"⟩] := by
  obtain ⟨start, hstart, hagree⟩ := (characters_agree ⟨"aé"⟩).2.2.2
  obtain ⟨hdelivered, hyields, hrestart, -⟩ := hagree _ _ _ rfl rfl
  refine ⟨start, _, hstart, rfl, ?_, hdelivered, hyields, hrestart⟩
  cases hstart
  rfl

end TreeScript
