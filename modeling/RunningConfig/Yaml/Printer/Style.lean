import RunningConfig.Yaml.Scalar
import RunningConfig.Yaml.Token
/-!
# The style a text is written in

A text is plain where that reads back as the text; otherwise it is quoted, or literal if it has
line feeds. What cannot be shown is escaped in double quotes.
-/

namespace RunningConfig.Yaml.Printer

/-- A character that is written as itself. -/
def isShown (char : Char) : Bool :=
  char = '\n' || (0x20 ≤ char.toNat && char.toNat ≤ 0x7E)
    || (0xA0 ≤ char.toNat && char.toNat ≤ 0xFFFD && char ≠ '\uFEFF') || 0x10000 ≤ char.toNat

/-- A space with a break after it. -/
def spaceBeforeBreak : List Char → Bool
  | first :: second :: rest =>
    (first = ' ' && isBreak second) || spaceBeforeBreak (second :: rest)
  | _ => false

/-- A break with a space after it. -/
def spaceAfterBreak : List Char → Bool
  | first :: second :: rest =>
    (isBreak first && second = ' ') || spaceAfterBreak (second :: rest)
  | _ => false

/-- An indicator at the start of a text, where a hyphen, a question mark or a colon counts only
with a gap after it. -/
def startsWithIndicator : List Char → Bool
  | [] => false
  | first :: rest =>
    if first = '-' || first = '?' || first = ':' then atGap rest else isIndicator first

/-- An indicator inside a text: a colon with a gap after it, or a comment. -/
def holdsIndicator : (afterGap : Bool) → List Char → Bool
  | _, [] => false
  | afterGap, char :: rest =>
    (char = ':' && atGap rest) || (char = '#' && afterGap) || holdsIndicator (isGap char) rest

/-- A text that starts like the marker of a document. -/
def startsWithMarker (text : List Char) : Bool :=
  "---".toList.isPrefixOf text || "...".toList.isPrefixOf text

/-- A text that can be plain, but for the meaning it would have. -/
def fitsPlain (text : List Char) : Bool :=
  let outside (char? : Option Char) : Bool := char?.any (· = ' ')
  text.all (fun char => isShown char && !isBreak char)
    && !outside text.head? && !outside text.getLast? && !startsWithMarker text
    && !startsWithIndicator text && !holdsIndicator false text

/-- A text that can stand in single quotes. -/
def fitsSingleQuotes (text : List Char) : Bool :=
  text.all isShown && !spaceBeforeBreak text && !spaceAfterBreak text

/-- A text that can be literal. -/
def fitsLiteral (text : List Char) : Bool :=
  text.all isShown && !spaceBeforeBreak text && text.getLast? ≠ some ' '

/-- A plain scalar of this text is read as something else, or looks like a number. -/
def isAmbiguous (text : String) : Bool :=
  Scalar.isZeroPadded text.toList ||
    match Scalar.resolve text with
    | .text _ => false
    | _ => true

/-- The style a text is written in. -/
def style (text : String) : ScalarStyle :=
  let chars := text.toList
  if chars.contains '\n' then if fitsLiteral chars then .literal else .doubleQuoted
  else if fitsPlain chars && !isAmbiguous text then .plain
  else if fitsSingleQuotes chars then .singleQuoted
  else .doubleQuoted

end RunningConfig.Yaml.Printer
