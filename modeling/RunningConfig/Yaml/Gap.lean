import RunningConfig.Yaml.Token
/-!
# Gaps inside flowing scalars

Between the words of a plain or quoted scalar stand blanks and breaks. Blanks alone are kept. A
single line feed folds to a space, further breaks are kept, and so are the separators; blanks
around breaks are dropped.
-/

namespace RunningConfig.Yaml

/-- What stands between two words. -/
structure Gap where
  /-- The blanks before the first break. -/
  blanks : List Char := []
  /-- The first break. -/
  first : List Char := []
  /-- The breaks after it, last one first. -/
  later : List Char := []
  /-- A break has been met, or its escape. -/
  broken : Bool := false
  /-- Where a tab stands in the indentation of a later line. -/
  badTab : Option Mark := none
  deriving Repr, Inhabited

namespace Gap

/-- A gap with one more blank; blanks after a break are dropped. -/
def addBlank (gap : Gap) (floor : Nat) (char : Char) (mark : Mark) : Gap :=
  if gap.broken then
    if char = '\t' && mark.column < floor && gap.badTab.isNone then
      { gap with badTab := some mark }
    else gap
  else { gap with blanks := char :: gap.blanks }

/-- A gap with one more break; blanks before the first break are dropped. -/
def addBreak (gap : Gap) (char : Char) : Gap :=
  if gap.broken then { gap with later := char :: gap.later }
  else { gap with blanks := [], first := [char], broken := true }

/-- The character that stays of a break. -/
def breakChar (char : Char) : Char := if char = '\u2028' || char = '\u2029' then char else '\n'

/-- Take the blanks and breaks that come next. A tab left of the floor on a later line is
noted. -/
def take (floor : Nat) : List Char → Mark → Gap → Gap × Cursor
  | [], mark, gap => (gap, { rest := [], mark })
  | '\r' :: '\n' :: rest, mark, gap => take floor rest (mark.nextLine 2) (gap.addBreak '\n')
  | char :: rest, mark, gap =>
    if isBlank char then take floor rest (mark.advance 1) (gap.addBlank floor char mark)
    else if isBreak char then take floor rest (mark.nextLine 1) (gap.addBreak (breakChar char))
    else (gap, { rest := char :: rest, mark })

/-- What stays of a gap in the text of the scalar. -/
def text (gap : Gap) : List Char :=
  if gap.broken then
    if gap.first = ['\n'] then if gap.later.isEmpty then [' '] else gap.later.reverse
    else gap.first ++ gap.later.reverse
  else gap.blanks.reverse

end Gap

end RunningConfig.Yaml
