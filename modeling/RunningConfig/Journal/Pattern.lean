import RunningConfig.Text.DecimalDigit
import RunningConfig.Text.Whitespace
/-!
# Patterns

A pattern describes texts: single characters of a class, one pattern after another, a choice of
two, and repetition. `Pattern.occursIn` says whether some part of a text fits.
-/

namespace RunningConfig.Journal

/-- A class of characters: ranges, and named classes. -/
inductive CharClass where
  /-- The characters from one to another. -/
  | range (first last : Char)
  /-- The decimal digits of all scripts. -/
  | digit
  /-- The white space. -/
  | space
  /-- The letters, digits and the underscore. -/
  | word
  /-- The characters of either class. -/
  | union (left right : CharClass)
  /-- No character. -/
  | none
  /-- The characters that are not in a class. -/
  | complement (inner : CharClass)
  deriving Repr

namespace CharClass

/-- A character belongs to a class. -/
def holds : CharClass → Char → Bool
  | range first last, char => first ≤ char && char ≤ last
  | digit, char => Text.isDecimalDigit char
  | space, char => Text.isWhitespace char
  | word, char => char.isAlphanum || char = '_' || Text.isDecimalDigit char
  | union left right, char => left.holds char || right.holds char
  | none, _ => false
  | complement inner, char => !inner.holds char

/-- The class of one character. -/
def single (char : Char) : CharClass := range char char

end CharClass

/-- A pattern. -/
inductive Pattern where
  /-- The empty text. -/
  | blank
  /-- One character of a class. -/
  | one (kind : CharClass)
  /-- The start of the text. -/
  | start
  /-- The end of the text. -/
  | finish
  /-- One pattern after another. -/
  | sequence (first second : Pattern)
  /-- Either of two patterns. -/
  | choice (left right : Pattern)
  /-- At least and possibly at most a number of times. -/
  | repeated (inner : Pattern) (least : Nat) (most : Option Nat)
  deriving Repr

namespace Pattern

/-- Positions reached by up to a number of further steps from some positions. -/
def closure (step : Nat → List Nat) : Nat → List Nat → List Nat
  | 0, positions => positions
  | count + 1, positions =>
    positions ++ closure step count ((positions.flatMap step).eraseDups)

/-- Positions reached by exactly a number of steps. -/
def steps (step : Nat → List Nat) : Nat → List Nat → List Nat
  | 0, positions => positions
  | count + 1, positions => steps step count ((positions.flatMap step).eraseDups)

/-- The positions where a part of the text that fits may end, if it starts at a position. -/
def ends (text : List Char) : Pattern → Nat → List Nat
  | blank, position => [position]
  | one kind, position =>
    match text[position]? with
    | some char => if kind.holds char then [position + 1] else []
    | none => []
  | start, position => if position = 0 then [position] else []
  | finish, position => if position = text.length then [position] else []
  | sequence first second, position =>
    ((ends text first position).flatMap (ends text second)).eraseDups
  | choice left right, position => (ends text left position ++ ends text right position).eraseDups
  | repeated inner least most, position =>
    let further := match most with
      | some most => min (most - least) (text.length + 1)
      | none => text.length + 1
    (closure (ends text inner) further (steps (ends text inner) least [position])).eraseDups

/-- Some part of a text fits. -/
def occursIn (pattern : Pattern) (text : String) : Bool :=
  (List.range (text.toList.length + 1)).any fun position =>
    !(pattern.ends text.toList position).isEmpty

/-! ## Reading patterns -/

/-- The class that a letter after a backslash names. -/
def namedClass? : Char → Option CharClass
  | 'd' => some .digit
  | 'D' => some (.complement .digit)
  | 's' => some .space
  | 'S' => some (.complement .space)
  | 'w' => some .word
  | 'W' => some (.complement .word)
  | _ => none

/-- The class of what follows a backslash. -/
def escapedClass? (char : Char) : Option CharClass :=
  match namedClass? char with
  | some kind => some kind
  | none =>
    if char = 't' then some (.single '\t')
    else if char = 'n' then some (.single '\n')
    else if char = 'r' then some (.single '\r')
    else if char.isAlphanum then none
    else some (.single char)

/-- Read the members of a class up to its closing bracket. -/
def readMembers : Nat → (first : Bool) → List Char → CharClass → Option (CharClass × List Char)
  | 0, _, _, _ => none
  | fuel + 1, first, text, kind =>
    match text with
    | [] => none
    | ']' :: rest =>
      if first then readMembers fuel false rest (.union kind (.single ']')) else some (kind, rest)
    | '\\' :: char :: rest =>
      (escapedClass? char).bind fun member => readMembers fuel false rest (.union kind member)
    | low :: '-' :: high :: rest =>
      if high = ']' then readMembers fuel false ('-' :: high :: rest) (.union kind (.single low))
      else if high = '\\' || high < low then none
      else readMembers fuel false rest (.union kind (.range low high))
    | char :: rest => readMembers fuel false rest (.union kind (.single char))

/-- Read a number. -/
def readNumber (text : List Char) : Option (Nat × List Char) :=
  let digits := text.takeWhile Char.isDigit
  if digits.isEmpty then none
  else some (digits.foldl (fun value digit => value * 10 + (digit.toNat - 48)) 0,
    text.dropWhile Char.isDigit)

/-- Read the numbers of a repetition after its opening brace. -/
def readCounts (text : List Char) : Option ((Nat × Option Nat) × List Char) := do
  let (least, rest) ← readNumber text
  match rest with
  | '\x7d' :: rest => return ((least, some least), rest)
  | ',' :: '\x7d' :: rest => return ((least, none), rest)
  | ',' :: rest =>
    let (most, rest) ← readNumber rest
    match rest with
    | '\x7d' :: rest => if least ≤ most then return ((least, some most), rest) else none
    | _ => none
  | _ => none

/-- Read a repetition, if one follows; whether it is greedy does not matter. -/
def readRepetition (text : List Char) : Option (Option (Nat × Option Nat) × List Char) := do
  let (counts, rest) ← match text with
    | '*' :: rest => some (some (0, none), rest)
    | '+' :: rest => some (some (1, none), rest)
    | '?' :: rest => some (some (0, some 1), rest)
    | '\x7b' :: rest => (readCounts rest).map fun (counts, rest) => (some counts, rest)
    | rest => some (none, rest)
  match counts, rest with
  | some counts, '?' :: rest => return (some counts, rest)
  | counts, rest => return (counts, rest)

/-- Repeat a pattern for every repetition that follows. -/
def readRepetitions : Nat → Pattern → List Char → Option (Pattern × List Char)
  | 0, _, _ => none
  | fuel + 1, pattern, text => do
    match ← readRepetition text with
    | (some (least, most), rest) => readRepetitions fuel (.repeated pattern least most) rest
    | (none, rest) => return (pattern, rest)

mutual

/-- Read a choice of sequences. -/
def readChoice : Nat → List Char → Option (Pattern × List Char)
  | 0, _ => none
  | fuel + 1, text => do
    let (left, rest) ← readSequence fuel text
    match rest with
    | '|' :: rest =>
      let (right, rest) ← readChoice fuel rest
      return (.choice left right, rest)
    | rest => return (left, rest)

/-- Read patterns that follow each other. -/
def readSequence : Nat → List Char → Option (Pattern × List Char)
  | 0, _ => none
  | fuel + 1, text =>
    match text with
    | [] => some (.blank, [])
    | '|' :: _ | ')' :: _ => some (.blank, text)
    | _ => do
      let (atom, rest) ← readAtom fuel text
      let (first, rest) ← readRepetitions (rest.length + 1) atom rest
      let (second, rest) ← readSequence fuel rest
      return (.sequence first second, rest)

/-- Read a pattern that a repetition applies to. -/
def readAtom : Nat → List Char → Option (Pattern × List Char)
  | 0, _ => none
  | fuel + 1, text =>
    match text with
    | '(' :: '?' :: ':' :: rest | '(' :: rest => do
      let (inner, rest) ← readChoice fuel rest
      match rest with
      | ')' :: rest => return (inner, rest)
      | _ => none
    | '[' :: '^' :: rest => do
      let (kind, rest) ← readMembers (rest.length + 1) true rest .none
      return (.one (.complement kind), rest)
    | '[' :: rest => do
      let (kind, rest) ← readMembers (rest.length + 1) true rest .none
      return (.one kind, rest)
    | '\\' :: char :: rest => (escapedClass? char).map fun kind => (.one kind, rest)
    | '.' :: rest => some (.one (.complement (.single '\n')), rest)
    | '^' :: rest => some (.start, rest)
    | '$' :: rest => some (.finish, rest)
    | char :: rest =>
      if "\\*+?\x7b".toList.contains char then none else some (.one (.single char), rest)
    | [] => none

end

/-- The pattern of a text, if it is one. -/
def ofText? (text : String) : Option Pattern :=
  match readChoice (2 * text.length + 2) text.toList with
  | some (pattern, []) => some pattern
  | _ => none

end Pattern

end RunningConfig.Journal
