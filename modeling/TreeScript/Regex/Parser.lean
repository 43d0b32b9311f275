import TreeScript.Regex.Ast
import TreeScript.Unicode.Property

/-!
Reading patterns. A pattern is read from left to right with a stack of open groups, and a class in
brackets with a stack of open brackets; each step reads at least one character, so the number of
characters bounds the number of steps. Readers of smaller parts take the rest of the pattern and
return what they read with what is left.
-/

namespace TreeScript.Regex

abbrev Read (α : Type) := α × List Char

abbrev Parse := Except PatternError

namespace Parser

/-! ### Blanks and comments -/

/-- Drops blanks and comments; a comment runs to the end of its line. -/
def dropBlank : Bool → List Char → List Char
  | _, [] => []
  | true, c :: rest => dropBlank (c != '\n') rest
  | false, c :: rest =>
    if Unicode.isSpace c.toNat then dropBlank false rest
    else if c == '#' then dropBlank true rest
    else c :: rest

theorem length_dropBlank_le (inComment : Bool) (rest : List Char) :
    (dropBlank inComment rest).length ≤ rest.length := by
  induction rest generalizing inComment with
  | nil => cases inComment <;> simp [dropBlank]
  | cons c rest ih =>
    cases inComment with
    | true => exact Nat.le_succ_of_le (ih _)
    | false =>
      unfold dropBlank
      split
      · exact Nat.le_succ_of_le (ih _)
      · split
        · exact Nat.le_succ_of_le (ih _)
        · exact Nat.le_refl _

/-- Drops blanks and comments where the pattern is verbose. -/
def skip (verbose : Bool) (rest : List Char) : List Char :=
  if verbose then dropBlank false rest else rest

theorem length_skip_le (verbose : Bool) (rest : List Char) :
    (skip verbose rest).length ≤ rest.length := by
  unfold skip
  split
  · exact length_dropBlank_le _ _
  · exact Nat.le_refl _

/-- The first character after a place, where blanks and at most one comment sign are passed over
in a verbose pattern. -/
def peek (verbose : Bool) (rest : List Char) : Option Char :=
  if verbose then
    match rest.dropWhile (Unicode.isSpace ·.toNat) with
    | '#' :: rest => (rest.dropWhile (Unicode.isSpace ·.toNat)).head?
    | rest => rest.head?
  else rest.head?

/-- The longest start of the rest whose characters satisfy a test, with blanks skipped after each,
and what is left. -/
def takeSkipping (verbose : Bool) (test : Char → Bool) : List Char → List Char × List Char
  | [] => ([], [])
  | c :: rest =>
    if test c then
      let (taken, left) := takeSkipping verbose test (skip verbose rest)
      (c :: taken, left)
    else ([], c :: rest)
termination_by rest => rest.length
decreasing_by exact Nat.lt_succ_of_le (length_skip_le _ _)

/-! ### Numbers -/

def hexDigit? (c : Char) : Option Nat :=
  if c.isDigit then some (c.toNat - '0'.toNat)
  else if 'a' ≤ c && c ≤ 'f' then some (c.toNat - 'a'.toNat + 10)
  else if 'A' ≤ c && c ≤ 'F' then some (c.toNat - 'A'.toNat + 10)
  else none

def scalar? (code : Nat) : Option Char :=
  if h : code.isValidChar then some (Char.ofNatAux code h) else none

/-- Reads exactly `count` hexadecimal digits after the digits with the given value. -/
def fixedHex (verbose : Bool) : Nat → Nat → List Char → Parse (Read Nat)
  | 0, value, rest => .ok (value, rest)
  | _ + 1, _, [] => .error .badEscape
  | count + 1, value, c :: rest =>
    match hexDigit? c with
    | some digit => fixedHex verbose count (16 * value + digit) (skip verbose rest)
    | none => .error .badEscape

/-- Reads hexadecimal digits up to a closing brace. -/
def bracedHex (verbose : Bool) (rest : List Char) : Parse (Read Nat) :=
  match takeSkipping verbose (fun c => (hexDigit? c).isSome) (skip verbose rest) with
  | ([], _) => .error .badEscape
  | (digits, '\x7d' :: rest) =>
    .ok (digits.foldl (fun n c => 16 * n + (hexDigit? c).getD 0) 0, skip verbose rest)
  | _ => .error .badEscape

/-- Reads a character given by its code point; the rest starts after the letter, which tells the
number of digits where these are not in braces. -/
def hexLiteral (verbose : Bool) (digits : Nat) (rest : List Char) : Parse (Read Literal) :=
  match skip verbose rest with
  | [] => .error .badEscape
  | '\x7b' :: rest => do
    let (code, rest) ← bracedHex verbose rest
    match scalar? code with
    | some c => .ok (⟨c, false⟩, rest)
    | none => .error .badCodePoint
  | rest => do
    let (code, rest) ← fixedHex verbose digits 0 rest
    match scalar? code with
    | some c => .ok (⟨c, digits == 2⟩, rest)
    | none => .error .badCodePoint

def maxCount : Nat := 4294967295

/-- Reads a decimal number between blanks. -/
def decimal (verbose : Bool) (rest : List Char) : Parse (Read Nat) :=
  let (digits, rest) := takeSkipping verbose Char.isDigit
    (rest.dropWhile (Unicode.isSpace ·.toNat))
  let value := digits.foldl (fun n c => 10 * n + (c.toNat - '0'.toNat)) 0
  if digits.isEmpty || maxCount < value then .error .badCount
  else .ok (value, skip verbose (rest.dropWhile (Unicode.isSpace ·.toNat)))

/-! ### Escapes -/

/-- Whether a character has a meaning of its own in patterns. -/
def isMeta (c : Char) : Bool :=
  ['\\', '.', '+', '*', '?', '(', ')', '|', '[', ']', '\x7b', '\x7d', '^', '$', '#', '&', '-',
    '~'].contains c

/-- Whether a backslash before a character makes it stand for itself. -/
def isEscapable (c : Char) : Bool :=
  isMeta c || (c.toNat < 128 && !c.isAlphanum && c != '<' && c != '>')

/-- Splits a text at the first occurrence of a separator. -/
def splitAt? (separator : List Char) : List Char → Option (List Char × List Char)
  | [] => none
  | c :: rest =>
    if separator.isPrefixOf (c :: rest) then some ([], (c :: rest).drop separator.length)
    else (splitAt? separator rest).map fun (before, after) => (c :: before, after)

/-- What the text between the braces of `\p` asks for. -/
def propertyQuery (text : List Char) : PropertyQuery :=
  match splitAt? ['!', '='] text <|> splitAt? [':'] text <|> splitAt? ['='] text with
  | some (property, value) => .value (String.ofList property) (String.ofList value)
  | none => .name (String.ofList text)

def property (verbose negated : Bool) (rest : List Char) : Parse (Read Atom) :=
  match skip verbose rest with
  | [] => .error .badEscape
  | '\x7b' :: rest =>
    match takeSkipping verbose (· != '\x7d') (skip verbose rest) with
    | (text, _ :: rest) => .ok (.property (propertyQuery text) negated, rest)
    | (_, []) => .error .badEscape
  | c :: rest =>
    if c == '\\' then .error .badEscape
    else .ok (.property (.name (String.singleton c)) negated, skip verbose rest)

def wordEdge? : String → Option WordEdge
  | "start" => some .start
  | "end" => some .stop
  | "start-half" => some .startHalf
  | "end-half" => some .stopHalf
  | _ => none

/-- Reads what follows `\b`: the name of a word edge in braces, if there is one. Braces that start
otherwise are left to be read as a repetition count. -/
def wordBoundary (verbose : Bool) (rest : List Char) : Parse (Read Atom) :=
  let isNameChar (c : Char) : Bool := c.isAlpha || c == '-'
  match rest with
  | '\x7b' :: inner =>
    match skip verbose inner with
    | [] => .error .badWordBoundary
    | c :: more =>
      if isNameChar c then
        match takeSkipping verbose isNameChar (c :: more) with
        | (name, '\x7d' :: rest) =>
          match wordEdge? (String.ofList name) with
          | some edge => .ok (.assertion (.word edge), rest)
          | none => .error .badWordBoundary
        | _ => .error .badWordBoundary
      else .ok (.assertion (.word .boundary), rest)
  | _ => .ok (.assertion (.word .boundary), rest)

/-- Reads what follows a backslash. -/
def escape (verbose : Bool) : List Char → Parse (Read Atom)
  | [] => .error .badEscape
  | c :: rest =>
    let character (c : Char) : Parse (Read Atom) := .ok (.literal ⟨c, false⟩, rest)
    let hex (digits : Nat) : Parse (Read Atom) :=
      (hexLiteral verbose digits rest).map fun (l, rest) => (.literal l, rest)
    if c.isDigit then .error .backReference
    else if isEscapable c then character c
    else match c with
      | 'x' => hex 2
      | 'u' => hex 4
      | 'U' => hex 8
      | 'p' => property verbose false rest
      | 'P' => property verbose true rest
      | 'd' => .ok (.short .digit false, rest)
      | 's' => .ok (.short .space false, rest)
      | 'w' => .ok (.short .word false, rest)
      | 'D' => .ok (.short .digit true, rest)
      | 'S' => .ok (.short .space true, rest)
      | 'W' => .ok (.short .word true, rest)
      | 'a' => character '\x07'
      | 'f' => character '\x0c'
      | 't' => character '\t'
      | 'n' => character '\n'
      | 'r' => character '\r'
      | 'v' => character '\x0b'
      | 'A' => .ok (.assertion .textStart, rest)
      | 'z' => .ok (.assertion .textEnd, rest)
      | 'b' => wordBoundary verbose rest
      | 'B' => .ok (.assertion (.word .noBoundary), rest)
      | '<' => .ok (.assertion (.word .start), rest)
      | '>' => .ok (.assertion (.word .stop), rest)
      | _ => .error .badEscape

/-! ### Classes in brackets -/

def classAtom (verbose : Bool) : List Char → Parse (Read Atom)
  | [] => .error .unclosedClass
  | '\\' :: rest => escape verbose rest
  | c :: rest => .ok (.literal ⟨c, false⟩, rest)

def asMember : Atom → Except PatternError ClassAst
  | .literal l => .ok (.literal l)
  | .short kind negated => .ok (.short kind negated)
  | .property query negated => .ok (.property query negated)
  | .dot => .error .badClassMember
  | .assertion _ => .error .badClassMember

def asRangeEnd : Atom → Except PatternError Literal
  | .literal l => .ok l
  | _ => .error .badClassRange

/-- Reads a member or a range. A hyphen before the closing bracket or before another hyphen does
not make a range. -/
def classMember (verbose : Bool) (rest : List Char) : Parse (Read ClassAst) := do
  let (first, rest) ← classAtom verbose rest
  match skip verbose rest with
  | [] => .error .unclosedClass
  | '-' :: after =>
    if peek verbose after == some ']' || peek verbose after == some '-' then
      return (← asMember first, '-' :: after)
    match skip verbose after with
    | [] => .error .unclosedClass
    | after => do
      let (last, rest) ← classAtom verbose after
      let first ← asRangeEnd first
      let last ← asRangeEnd last
      if first.char ≤ last.char then return (.range first last, rest)
      else .error .badClassRange
  | rest => return (← asMember first, rest)

/-- Reads a named class such as `[:alpha:]`, where there is one; the rest starts after the first
bracket. -/
def posixClass? (rest : List Char) : Option (ClassAst × List Char) :=
  match rest with
  | ':' :: rest =>
    let (negated, rest) := match rest with
      | '^' :: rest => (true, rest)
      | rest => (false, rest)
    match rest.dropWhile (· != ':') with
    | ':' :: ']' :: after =>
      (PosixClass.ofName? (String.ofList (rest.takeWhile (· != ':')))).map fun kind =>
        (.posix kind negated, after)
    | _ => none
  | _ => none

/-- An open bracket: whether it is negated, the class that the operators have joined so far with
the operator that waits for its right side, and the members read since, last first. -/
structure OpenClass where
  negated : Bool
  joined : Option (ClassAst × ClassOperator)
  members : List ClassAst

namespace OpenClass

def close (frame : OpenClass) : ClassAst :=
  let last := ClassAst.ofMembers frame.members.reverse
  match frame.joined with
  | some (left, operator) => .combine operator left last
  | none => last

def add (member : ClassAst) (frame : OpenClass) : OpenClass :=
  { frame with members := member :: frame.members }

/-- Ends the left side of an operator. -/
def apply (operator : ClassOperator) (frame : OpenClass) : OpenClass :=
  { frame with joined := some (frame.close, operator), members := [] }

end OpenClass

/-- Reads the hyphens that stand for themselves at the start of a class. -/
def leadingHyphens (verbose : Bool) : Nat → OpenClass → List Char → Parse (Read OpenClass)
  | _, _, [] => .error .unclosedClass
  | fuel + 1, frame, '-' :: rest =>
    leadingHyphens verbose fuel (frame.add (.literal ⟨'-', false⟩)) (skip verbose rest)
  | _, frame, rest => .ok (frame, rest)

/-- Reads the start of a class after its bracket: a sign of negation, hyphens, and a closing
bracket that stands for itself because it comes first. -/
def classStart (verbose : Bool) (rest : List Char) : Parse (Read OpenClass) := do
  let (negated, rest) := match skip verbose rest with
    | '^' :: rest => (true, skip verbose rest)
    | rest => (false, rest)
  let (frame, rest) ← leadingHyphens verbose rest.length ⟨negated, none, []⟩ rest
  match frame.members, rest with
  | [], ']' :: rest =>
    match skip verbose rest with
    | [] => .error .unclosedClass
    | rest => .ok (frame.add (.literal ⟨']', false⟩), rest)
  | _, rest => .ok (frame, rest)

/-- Reads a class to its closing bracket. `frame` is the innermost open bracket and `outer` are
those around it, innermost first. -/
def classBody (verbose : Bool) : Nat → OpenClass → List OpenClass → List Char → Parse (Read Ast)
  | 0, _, _, _ => .error .unclosedClass
  | fuel + 1, frame, outer, rest =>
    match skip verbose rest with
    | [] => .error .unclosedClass
    | '[' :: rest =>
      match posixClass? rest with
      | some (member, rest) => classBody verbose fuel (frame.add member) outer rest
      | none => do
        let (inner, rest) ← classStart verbose rest
        classBody verbose fuel inner (frame :: outer) rest
    | ']' :: rest =>
      match outer with
      | [] => .ok (.bracket frame.negated frame.close, rest)
      | parent :: outer =>
        classBody verbose fuel (parent.add (.bracket frame.negated frame.close)) outer rest
    | '&' :: '&' :: rest => classBody verbose fuel (frame.apply .inter) outer rest
    | '-' :: '-' :: rest => classBody verbose fuel (frame.apply .diff) outer rest
    | '~' :: '~' :: rest => classBody verbose fuel (frame.apply .symmDiff) outer rest
    | rest => do
      let (member, rest) ← classMember verbose rest
      classBody verbose fuel (frame.add member) outer rest

/-- Reads a class after its opening bracket. -/
def bracket (verbose : Bool) (rest : List Char) : Parse (Read Ast) := do
  let (frame, rest) ← classStart verbose rest
  classBody verbose (rest.length + 1) frame [] rest

/-! ### Groups and flags -/

/-- Reads flags up to a colon or a closing parenthesis, which is left. `seen` are the flags before,
and `state` is what they are switched to. -/
def flags (seen : FlagChanges) (state lastWasMinus : Bool) : List Char → Parse (Read FlagChanges)
  | [] => .error .badFlags
  | c :: rest =>
    if c == ':' || c == ')' then
      if lastWasMinus then .error .badFlags else .ok (seen.reverse, c :: rest)
    else if c == '-' then
      if state then flags seen false true rest else .error .badFlags
    else match Flag.ofChar? c with
      | none => .error .badFlags
      | some flag =>
        if (seen.map (·.1)).contains flag then .error .badFlags
        else flags ((flag, state) :: seen) state false rest

def isNameChar (first : Bool) (c : Char) : Bool :=
  c == '_' ||
    if first then Unicode.isAlphabetic c.toNat
    else Unicode.isAlphanumeric c.toNat || c == '.' || c == '[' || c == ']'

/-- Reads the name of a group up to its closing angle bracket. -/
def groupName (rest : List Char) : Parse (Read String) :=
  let name := rest.takeWhile (· != '>')
  match name, rest.dropWhile (· != '>') with
  | first :: more, _ :: after =>
    if isNameChar true first && more.all (isNameChar false) then .ok (String.ofList name, after)
    else .error .badGroupName
  | _, _ => .error .badGroupName

/-- How a parenthesis starts: flags that stand alone, or a group with its name and flags. -/
inductive GroupStart where
  | flags (changes : FlagChanges)
  | group (name : Option String) (changes : FlagChanges)

/-- The rest after a given start. -/
def after? (start : String) (rest : List Char) : Option (List Char) :=
  if start.toList.isPrefixOf rest then some (rest.drop start.toList.length) else none

/-- Reads the start of a group after its parenthesis. -/
def groupStart (verbose : Bool) (rest : List Char) : Parse (Read GroupStart) :=
  let rest := skip verbose rest
  if ["?=", "?!", "?<=", "?<!"].any fun start => (after? start rest).isSome then
    .error .lookAround
  else match after? "?P<" rest <|> after? "?<" rest with
    | some rest => do
      let (name, rest) ← groupName rest
      return (.group (some name) [], rest)
    | none =>
      match rest with
      | '?' :: rest => do
        let (changes, rest) ← flags [] true false rest
        match rest with
        | ')' :: rest =>
          if changes.isEmpty then .error .nothingToRepeat else return (.flags changes, rest)
        | rest => return (.group none changes, rest.drop 1)
      | rest => .ok (.group none [], rest)

/-! ### Repetitions -/

/-- Whether an operator of repetition can apply to a part. -/
def isRepeatable : Ast → Bool
  | .empty => false
  | .flags _ => false
  | _ => true

/-- Reads the sign after an operator of repetition that makes it lazy. -/
def greediness (rest : List Char) : Bool × List Char :=
  match rest with
  | '?' :: rest => (false, rest)
  | rest => (true, rest)

/-- Reads a repetition count after its opening brace: the bounds, and whether it is greedy. -/
def count (verbose : Bool) (rest : List Char) : Parse (Read (Nat × Option Nat × Bool)) := do
  let (least, rest) ← decimal verbose (skip verbose rest)
  let (most, rest) ← match rest with
    | ',' :: rest =>
      match skip verbose rest with
      | '\x7d' :: rest => .ok (none, '\x7d' :: rest)
      | rest => (decimal verbose rest).map fun (most, rest) => (some most, rest)
    | rest => .ok (some least, rest)
  match rest with
  | '\x7d' :: rest =>
    let (greedy, rest) := greediness (skip verbose rest)
    if most.all (least ≤ ·) then return ((least, most, greedy), rest)
    else .error .emptyCountRange
  | _ => .error .badCount

/-! ### Patterns -/

/-- An open group, or the pattern as a whole: the choices read before, the parts of the present
choice, both last first, the flags of the group and whether the pattern around it is verbose. -/
structure OpenGroup where
  choices : List Ast
  parts : List Ast
  changes : FlagChanges
  outerVerbose : Bool

namespace OpenGroup

def add (part : Ast) (frame : OpenGroup) : OpenGroup :=
  { frame with parts := part :: frame.parts }

def nextChoice (frame : OpenGroup) : OpenGroup :=
  { frame with choices := Ast.ofParts frame.parts.reverse :: frame.choices, parts := [] }

def close (frame : OpenGroup) : Ast :=
  Ast.ofChoices (frame.nextChoice.choices.reverse)

def repeatLast (least : Nat) (most : Option Nat) (greedy : Bool) (frame : OpenGroup) :
    Except PatternError OpenGroup :=
  match frame.parts with
  | last :: parts =>
    if isRepeatable last then
      .ok { frame with parts := .repetition last least most greedy :: parts }
    else .error .nothingToRepeat
  | [] => .error .nothingToRepeat

end OpenGroup

/-- Whether the pattern is verbose after some flag changes. -/
def verboseAfter (changes : FlagChanges) (verbose : Bool) : Bool :=
  (changes.lookup .verbose).getD verbose

/-- Reads a pattern to its end. `frame` is the innermost open group, `outer` are those around it,
innermost first, and `names` are the group names used before. -/
def pattern : Nat → Bool → List String → OpenGroup → List OpenGroup → List Char →
    Except PatternError Ast
  | 0, _, _, _, _, _ => .error .unclosedGroup
  | fuel + 1, verbose, names, frame, outer, rest =>
    let operator (least : Nat) (most : Option Nat) (rest : List Char) :
        Except PatternError Ast := do
      let (greedy, rest) := greediness rest
      pattern fuel verbose names (← frame.repeatLast least most greedy) outer rest
    match skip verbose rest with
    | [] => if outer.isEmpty then .ok frame.close else .error .unclosedGroup
    | '(' :: rest => do
      match ← groupStart verbose rest with
      | (.flags changes, rest) =>
        pattern fuel (verboseAfter changes verbose) names (frame.add (.flags changes)) outer rest
      | (.group name changes, rest) =>
        if name.any names.contains then .error .duplicateGroupName
        else
          pattern fuel (verboseAfter changes verbose) (name.toList ++ names)
            ⟨[], [], changes, verbose⟩ (frame :: outer) rest
    | ')' :: rest =>
      match outer with
      | [] => .error .unopenedGroup
      | parent :: outer =>
        pattern fuel frame.outerVerbose names (parent.add (.group frame.changes frame.close)) outer
          rest
    | '|' :: rest => pattern fuel verbose names frame.nextChoice outer rest
    | '[' :: rest => do
      let (part, rest) ← bracket verbose rest
      pattern fuel verbose names (frame.add part) outer rest
    | '?' :: rest => operator 0 (some 1) rest
    | '*' :: rest => operator 0 none rest
    | '+' :: rest => operator 1 none rest
    | '\x7b' :: rest => do
      let ((least, most, greedy), rest) ← count verbose rest
      pattern fuel verbose names (← frame.repeatLast least most greedy) outer rest
    | '\\' :: rest => do
      let (atom, rest) ← escape verbose rest
      pattern fuel verbose names (frame.add (.atom atom)) outer rest
    | c :: rest =>
      let atom : Atom := match c with
        | '.' => .dot
        | '^' => .assertion .lineStart
        | '$' => .assertion .lineEnd
        | c => .literal ⟨c, false⟩
      pattern fuel verbose names (frame.add (.atom atom)) outer rest

end Parser

/-- The greatest depth to which the parts of a pattern may be nested. -/
def Ast.maxHeight : Nat := 250

def Ast.parse (source : List Char) : Except PatternError Ast := do
  let ast ← Parser.pattern (source.length + 1) false [] ⟨[], [], [], false⟩ [] source
  if ast.height ≤ Ast.maxHeight then .ok ast else .error .tooDeep

end TreeScript.Regex
