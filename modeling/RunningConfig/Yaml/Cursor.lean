import RunningConfig.Yaml.Character
/-!
# Positions in yaml text

A mark is a position: how many characters precede it, and its line and column, all from zero. A
cursor is the text still to be read and the mark it starts at. A carriage return with a line
feed after it is one break.
-/

namespace RunningConfig.Yaml

/-- A position in a text. -/
structure Mark where
  /-- How many characters precede it. -/
  index : Nat := 0
  /-- How many lines precede its own. -/
  line : Nat := 0
  /-- How many characters of its line precede it. -/
  column : Nat := 0
  deriving DecidableEq, Repr, Inhabited

/-- The mark a number of characters further on the same line. -/
def Mark.advance (mark : Mark) (count : Nat) : Mark :=
  { mark with index := mark.index + count, column := mark.column + count }

/-- The mark at the start of the next line, after a break of that many characters. -/
def Mark.nextLine (mark : Mark) (count : Nat) : Mark :=
  { index := mark.index + count, line := mark.line + 1, column := 0 }

/-- The text still to be read and where it starts. -/
structure Cursor where
  /-- The text still to be read. -/
  rest : List Char
  /-- Where that text starts. -/
  mark : Mark := {}
  deriving Repr, Inhabited

namespace Cursor

/-- The next character. -/
def peek? (cursor : Cursor) : Option Char := cursor.rest.head?

/-- The character next to that. -/
def peekSecond? (cursor : Cursor) : Option Char := cursor.rest[1]?

/-- Go over a number of characters that are no breaks. -/
def skip (cursor : Cursor) (count : Nat) : Cursor :=
  { rest := cursor.rest.drop count, mark := cursor.mark.advance count }

/-- Take the characters of a class that holds no break. -/
def span (cursor : Cursor) (inClass : Char → Bool) : List Char × Cursor :=
  let taken := cursor.rest.takeWhile inClass
  (taken, { rest := cursor.rest.dropWhile inClass, mark := cursor.mark.advance taken.length })

/-- Go over the characters of a class that holds no break. -/
def skipWhile (cursor : Cursor) (inClass : Char → Bool) : Cursor := (cursor.span inClass).2

/-- Take a break. It counts as a line feed, but for the two separators, which stay. -/
def takeBreak (cursor : Cursor) : List Char × Cursor :=
  match cursor.rest with
  | '\r' :: '\n' :: rest => (['\n'], { rest, mark := cursor.mark.nextLine 2 })
  | char :: rest =>
    if isBreak char then
      (if char = '\u2028' || char = '\u2029' then [char] else ['\n'],
        { rest, mark := cursor.mark.nextLine 1 })
    else ([], cursor)
  | [] => ([], cursor)

/-- Go over the rest of the line, up to its break. -/
def skipLine (cursor : Cursor) : Cursor := cursor.skipWhile fun char => !isBreak char

/-- The cursor is at the start of a line, at three of a character with a gap after them. -/
def atMarker (cursor : Cursor) (char : Char) : Bool :=
  cursor.mark.column = 0 &&
    match cursor.rest with
    | first :: second :: third :: rest =>
      first = char && second = char && third = char && atGap rest
    | _ => false

/-- The cursor is at a marker that starts or ends a document. -/
def atDocumentMarker (cursor : Cursor) : Bool := cursor.atMarker '-' || cursor.atMarker '.'

end Cursor

end RunningConfig.Yaml
