import TreeScript.Regex.Program

/-!
Searching a text with a program. All ways to match are followed side by side, one character at a
time, as a list of threads in order of preference; a thread that reaches an instruction which an
earlier thread has reached at the same place is dropped. So the first match is found that a search
with backtracking would find, in time proportional to the text and the program.

`Program.hasMatch` asks whether there is a match and `Program.removeAll` removes every match.
-/

namespace TreeScript.Regex

/-- A part of a text: the number of characters before it and before its end. -/
structure Span where
  start : Nat
  stop : Nat
  deriving DecidableEq, Repr

/-- A way to match: the instruction it waits at and the place where it started. -/
structure Thread where
  instruction : Nat
  start : Nat

/-- The threads at a place, in order of preference, and the instructions reached there. -/
structure Threads where
  reached : Array Bool
  waiting : Array Thread

namespace Program

def noThreads (program : Program) : Threads :=
  ⟨Array.replicate program.code.size false, #[]⟩

/-- Follows checks and forks from some instructions, the first of them first, to those that wait for
a character or accept. Each instruction is expanded at most once and leads to at most two others,
which bounds the steps. -/
def follow (program : Program) (before after : Option Char) (start : Nat) :
    Nat → List Nat → Threads → Threads
  | 0, _, threads => threads
  | _ + 1, [], threads => threads
  | fuel + 1, i :: rest, threads =>
    if threads.reached[i]?.getD true then program.follow before after start fuel rest threads
    else
      let threads := { threads with reached := threads.reached.setIfInBounds i true }
      match program.code[i]? with
      | some (.fork first second) =>
        program.follow before after start fuel (first :: second :: rest) threads
      | some (.check look next) =>
        program.follow before after start fuel
          (if look.holds before after then next :: rest else rest) threads
      | some _ =>
        program.follow before after start fuel rest
          { threads with waiting := threads.waiting.push ⟨i, start⟩ }
      | none => program.follow before after start fuel rest threads

/-- Adds the threads that start with an instruction, after those that are there. -/
def enter (program : Program) (before after : Option Char) (start i : Nat)
    (threads : Threads) : Threads :=
  program.follow before after start (2 * program.code.size + 2) [i] threads

/-- Cuts the threads at the first one that accepts: those after it are less preferred than the
match that it has found. -/
def cut (program : Program) (place : Nat) :
    List Thread → Option Span → List Thread × Option Span
  | [], found => ([], found)
  | thread :: rest, found =>
    match program.code[thread.instruction]? with
    | some .accept => ([], some ⟨thread.start, place⟩)
    | _ =>
      let (kept, found) := program.cut place rest found
      (thread :: kept, found)

def step (program : Program) (c : Char) (after : Option Char) (threads : List Thread) : Threads :=
  threads.foldl (fun (next : Threads) (thread : Thread) =>
    match program.code[thread.instruction]? with
    | some (.read set i) =>
      if set.mem c then program.enter (some c) after thread.start i next else next
    | _ => next) program.noThreads

/-- Runs threads over the rest of a text. As long as nothing is found, a new thread starts at each
place. -/
def run (program : Program) (before : Option Char) (place : Nat) (threads : Threads)
    (found : Option Span) (text : List Char) : Option Span :=
  let threads := if found.isSome then threads
    else program.enter before text.head? place program.start threads
  let (waiting, found) := program.cut place threads.waiting.toList found
  match text with
  | [] => found
  | c :: rest =>
    if waiting.isEmpty && found.isSome then found
    else program.run (some c) (place + 1) (program.step c rest.head? waiting) found rest

/-- The first match in a text that follows the given character, if it is not the start of the whole
text. -/
def find? (program : Program) (before : Option Char) (text : List Char) : Option Span :=
  program.run before 0 program.noThreads none text

def hasMatch (program : Program) (text : List Char) : Bool :=
  (program.find? none text).isSome

/-- The text without its matches, from left to right and apart from each other. A match without
characters removes nothing, and the search goes on after the next character. -/
def removeFrom (program : Program) (before : Option Char) (text : List Char) : List Char :=
  match program.find? before text with
  | none => text
  | some span =>
    let (kept, passed) := if span.start < span.stop then (span.start, span.stop)
      else (span.start + 1, span.start + 1)
    let rest := text.drop passed
    if _h : rest.length < text.length then
      text.take kept ++ program.removeFrom ((text.take passed).getLast? <|> before) rest
    else text
termination_by text.length
decreasing_by assumption

/-- The text without its matches. -/
def removeAll (program : Program) (text : List Char) : List Char :=
  program.removeFrom none text

end Program

end TreeScript.Regex
