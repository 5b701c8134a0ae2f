import RunningConfig.Yaml.Printer.Style
/-!
# Writing scalars

A text in single quotes or in literal style keeps its breaks, and what follows a break is
indented. In double quotes every character that cannot be shown is escaped.
-/

namespace RunningConfig.Yaml.Printer

/-- Spaces up to a column. -/
def spaces (column : Nat) : List Char := List.replicate column ' '

/-- The inside of single quotes: a quote is written twice, and what follows breaks is
indented. -/
def singleQuoted (indent : Nat) : (afterBreak : Bool) → List Char → List Char
  | afterBreak, [] => if afterBreak then spaces indent else []
  | afterBreak, char :: rest =>
    if isBreak char then char :: singleQuoted indent true rest
    else
      (if afterBreak then spaces indent else [])
        ++ (if char = '\x27' then ['\x27', '\x27'] else [char])
        ++ singleQuoted indent false rest

/-- The letters that stand for characters after a backslash. -/
def escapeLetters : List (Char × Char) := [
  ('\x00', '0'), ('\x07', 'a'), ('\x08', 'b'), ('\t', 't'), ('\n', 'n'), ('\x0b', 'v'),
  ('\x0c', 'f'), ('\r', 'r'), ('\x1b', 'e'), ('"', '"'), ('\\', '\\'), ('\u0085', 'N'),
  ('\u2028', 'L'), ('\u2029', 'P')]

/-- A number in hexadecimal with a number of digits, in upper case. -/
def hexadecimalDigits : (count : Nat) → Nat → List Char
  | 0, _ => []
  | count + 1, value =>
    hexadecimalDigits count (value / 16) ++ [(Nat.digitChar (value % 16)).toUpper]

/-- An escaped character. -/
def escape (char : Char) : List Char :=
  '\\' :: match escapeLetters.lookup char with
    | some letter => [letter]
    | none =>
      if char.toNat ≤ 0xFF then 'x' :: hexadecimalDigits 2 char.toNat
      else if char.toNat ≤ 0xFFFF then 'u' :: hexadecimalDigits 4 char.toNat
      else 'U' :: hexadecimalDigits 8 char.toNat

/-- The inside of double quotes. -/
def doubleQuoted (text : List Char) : List Char :=
  text.flatMap fun char =>
    if isShown char && !isBreak char && char ≠ '"' && char ≠ '\\' then [char] else escape char

/-- The lines of a literal scalar: what follows a break is indented. -/
def literalLines (indent : Nat) : (afterBreak : Bool) → List Char → List Char
  | _, [] => []
  | afterBreak, char :: rest =>
    if isBreak char then char :: literalLines indent true rest
    else (if afterBreak then spaces indent else []) ++ char :: literalLines indent false rest

/-- The header of a literal scalar. The indentation is given if the text does not start with
it; the last break is dropped, kept or one of several. -/
def literalHeader (text : List Char) : List Char :=
  let increment := if text.head?.any fun char => char = ' ' || isBreak char then ['2'] else []
  let chomping := match text.reverse with
    | [] => ['-']
    | [only] => if isBreak only then ['+'] else ['-']
    | last :: before :: _ =>
      if !isBreak last then ['-'] else if isBreak before then ['+'] else []
  '|' :: increment ++ chomping

/-- A text and the end of its line, at an indentation for its further lines. -/
def scalar (indent : Nat) (text : String) : List Char :=
  let chars := text.toList
  match style text with
  | .plain => chars ++ ['\n']
  | .singleQuoted => '\x27' :: singleQuoted indent false chars ++ ['\x27', '\n']
  | .literal =>
    literalHeader chars ++ '\n' :: literalLines indent true chars
      ++ if chars.getLast?.any isBreak then [] else ['\n']
  | .doubleQuoted | .folded => '"' :: doubleQuoted chars ++ ['"', '\n']

end RunningConfig.Yaml.Printer
