import RunningConfig.Yaml.Token
/-!
# Block scalars

A block scalar is a header and the indented lines after it. A literal one keeps its breaks, a
folded one joins lines that start with no blank. The header may give the indentation and say
what becomes of the breaks at the end: by default one is kept, `-` keeps none and `+` all.
-/

namespace RunningConfig.Yaml.Block

/-- What becomes of the breaks at the end. -/
inductive Chomping where
  /-- All of them are dropped. -/
  | strip
  /-- The first of them is kept. -/
  | clip
  /-- All of them are kept. -/
  | keep
  deriving DecidableEq, Repr

/-- The chomping that an indicator asks for. -/
def chomping? : Char → Option Chomping
  | '-' => some .strip
  | '+' => some .keep
  | _ => none

/-- The header of a block scalar. -/
structure Header where
  /-- What the header says about the breaks at the end. -/
  chomping : Chomping
  /-- The indentation relative to the parent; zero when it is left to the lines. -/
  increment : Nat
  deriving Repr

/-- An indentation indicator: a digit, which must not be zero. -/
def takeIncrement (cursor : Cursor) : Parsed (Nat × Cursor) :=
  match cursor.peek? with
  | some char =>
    if char = '0' then refuse .badBlockHeader cursor.mark
    else if char.isDigit then .ok (char.toNat - 48, cursor.skip 1)
    else .ok (0, cursor)
  | none => .ok (0, cursor)

/-- A chomping indicator. -/
def takeChomping (cursor : Cursor) : Chomping × Cursor :=
  match cursor.peek?.bind chomping? with
  | some chomping => (chomping, cursor.skip 1)
  | none => (.clip, cursor)

/-- The indicators in either order, then at most a comment, then the end of the line. -/
def takeHeader (cursor : Cursor) : Parsed (Header × Cursor) := do
  let (header, cursor) ← match cursor.peek?.bind chomping? with
    | some chomping => do
      let (increment, cursor) ← takeIncrement (cursor.skip 1)
      pure (({ chomping, increment } : Header), cursor)
    | none => do
      let (increment, cursor) ← takeIncrement cursor
      if increment = 0 then pure ({ chomping := .clip, increment }, cursor)
      else
        let (chomping, cursor) := takeChomping cursor
        pure ({ chomping, increment }, cursor)
  let cursor := cursor.skipWhile isBlank
  let cursor := if cursor.peek? = some '#' then cursor.skipLine else cursor
  if cursor.rest.head?.all isBreak then return (header, cursor.takeBreak.2)
  else refuse .badBlockHeader cursor.mark

/-- The breaks of empty lines and the indentation of the line after them. An indentation of
zero is still to be found. -/
structure Lead where
  /-- The breaks, last one first. -/
  breaks : List Char := []
  /-- The widest indentation met. -/
  widest : Nat := 0
  deriving Repr

/-- Take empty lines and indentation. -/
def takeLead (indent : Nat) : List Char → Mark → Lead → Parsed (Lead × Cursor)
  | [], mark, lead =>
    .ok ({ lead with widest := max lead.widest mark.column }, { rest := [], mark })
  | '\r' :: '\n' :: rest, mark, lead =>
    takeLead indent rest (mark.nextLine 2)
      { breaks := '\n' :: lead.breaks, widest := max lead.widest mark.column }
  | char :: rest, mark, lead =>
    let inside := indent = 0 || mark.column < indent
    if char = ' ' && inside then takeLead indent rest (mark.advance 1) lead
    else if char = '\t' && inside then refuse .tabInIndentation mark
    else
      let lead := { lead with widest := max lead.widest mark.column }
      if isBreak char then
        let kept := if char = '\u2028' || char = '\u2029' then char else '\n'
        takeLead indent rest (mark.nextLine 1) { lead with breaks := kept :: lead.breaks }
      else .ok (lead, { rest := char :: rest, mark })

/-- Lines that have been taken. -/
structure Lines where
  /-- The text so far, reversed. -/
  text : List Char := []
  /-- The break of the last line. -/
  lastBreak : List Char := []
  /-- The breaks of the empty lines after it, last one first. -/
  trailing : List Char := []
  /-- The last line starts with a blank. -/
  blank : Bool := false
  deriving Repr

/-- What joins a line to those before it: a folded break between two lines that start with no
blank gives way to the empty lines, or to a space if there are none. -/
def joint (literal : Bool) (lines : Lines) (blank : Bool) : List Char :=
  let folds := !literal && lines.lastBreak = ['\n'] && !lines.blank && !blank
  (if folds then if lines.trailing.isEmpty then [' '] else [] else lines.lastBreak)
    ++ lines.trailing.reverse

/-- Take the lines at the indentation. The first list bounds their number: there are no more
lines than characters. -/
def takeLines (literal : Bool) (indent : Nat) :
    (bound : List Char) → Cursor → Lines → Parsed (Lines × Cursor)
  | [], cursor, lines => .ok (lines, cursor)
  | _ :: bound, cursor, lines =>
    if cursor.mark.column = indent && !cursor.rest.isEmpty then do
      let blank := cursor.peek?.any isBlank
      let (line, after) := cursor.span fun char => !isBreak char
      let (lastBreak, after) := after.takeBreak
      let (lead, after) ← takeLead indent after.rest after.mark {}
      takeLines literal indent bound after {
        text := line.reverse ++ ((joint literal lines blank).reverse ++ lines.text)
        lastBreak, trailing := lead.breaks, blank }
    else .ok (lines, cursor)

/-- Take the block scalar whose indicator is at the cursor, inside a parent of the given
indentation, which is negative outside every block. -/
def take (literal : Bool) (parent : Int) (cursor : Cursor) : Parsed (List Char × Cursor) := do
  let (header, cursor) ← takeHeader (cursor.skip 1)
  let given := if header.increment = 0 then 0 else (max parent 0).toNat + header.increment
  let (lead, cursor) ← takeLead given cursor.rest cursor.mark {}
  let indent := if given = 0 then max lead.widest (max (parent + 1) 1).toNat else given
  let (lines, cursor) ← takeLines literal indent cursor.rest cursor
    { trailing := lead.breaks }
  let tail := match header.chomping with
    | .strip => []
    | .clip => lines.lastBreak
    | .keep => lines.lastBreak ++ lines.trailing.reverse
  return (lines.text.reverse ++ tail, cursor)

end RunningConfig.Yaml.Block
