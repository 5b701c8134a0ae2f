import RunningConfig.Yaml.Gap
/-!
# Plain scalars

A plain scalar is words with gaps between them. A word ends before a gap, before a colon with a
gap after it and, in a flow collection, before an indicator of flow collections. The scalar ends
where no word follows, at a comment, at the marker of a document and, in a block, at a line that
is not indented far enough.
-/

namespace RunningConfig.Yaml.Plain

/-- In a flow collection, an indicator may not stand right after a colon. -/
def isStrayColon (flow : Bool) : List Char → Bool
  | ':' :: next :: _ => flow && (isFlowIndicator next || next = '?')
  | _ => false

/-- Take a word. -/
def takeWord (flow : Bool) : List Char → List Char → List Char × List Char
  | [], taken => (taken.reverse, [])
  | char :: rest, taken =>
    if isGap char || (char = ':' && atGap rest) || (flow && isFlowIndicator char)
        || isStrayColon flow (char :: rest) then
      (taken.reverse, char :: rest)
    else takeWord flow rest (char :: taken)

/-- A plain scalar that has been taken. -/
structure Taken where
  /-- The characters of the scalar. -/
  text : List Char
  /-- Where the last word stops. -/
  stop : Mark
  /-- What follows the scalar and the gap after it. -/
  cursor : Cursor
  /-- The gap after the scalar holds a break. -/
  broken : Bool
  deriving Repr

/-- Take further words. The first list bounds their number: there are no more words than
characters. `text` is reversed. -/
def takeWords (flow : Bool) (floor : Nat) :
    (bound : List Char) → Cursor → (text : List Char) → Gap → Mark → Parsed Taken
  | [], cursor, text, gap, stop =>
    .ok { text := text.reverse, stop, cursor, broken := gap.broken }
  | _ :: bound, cursor, text, gap, stop =>
    let (word, rest) := takeWord flow cursor.rest []
    let after : Cursor := { rest, mark := cursor.mark.advance word.length }
    if cursor.atDocumentMarker || cursor.peek? = some '#' then
      .ok { text := text.reverse, stop, cursor, broken := gap.broken }
    else if isStrayColon flow rest then refuse .strayColon after.mark
    else if word.isEmpty then
      .ok { text := text.reverse, stop, cursor, broken := gap.broken }
    else
      let text := word.reverse ++ (gap.text.reverse ++ text)
      if rest.isEmpty || !atGap rest then
        .ok { text := text.reverse, stop := after.mark, cursor := after, broken := false }
      else
        let (gap, next) := Gap.take floor after.rest after.mark {}
        match gap.badTab with
        | some mark => refuse .tabInIndentation mark
        | none =>
          if !flow && next.mark.column < floor then
            .ok { text := text.reverse, stop := after.mark, cursor := next, broken := gap.broken }
          else takeWords flow floor bound next text gap after.mark

/-- Take the plain scalar at a cursor; in a block its lines reach at least the floor. -/
def take (flow : Bool) (floor : Nat) (cursor : Cursor) : Parsed Taken :=
  takeWords flow floor cursor.rest cursor [] {} cursor.mark

end RunningConfig.Yaml.Plain
