import RunningConfig.Yaml.Gap
/-!
# Quoted scalars

In single quotes a quote is written twice. In double quotes a backslash starts an escape: a
letter for a common character, a code point in hexadecimal, or a break, which is dropped.
-/

namespace RunningConfig.Yaml.Quoted

/-- The escapes of one letter. -/
def letterEscapes : List (Char × Char) := [
  ('0', '\x00'), ('a', '\x07'), ('b', '\x08'), ('t', '\t'), ('\t', '\t'), ('n', '\n'),
  ('v', '\x0b'), ('f', '\x0c'), ('r', '\r'), ('e', '\x1b'), (' ', ' '), ('"', '"'), ('/', '/'),
  ('\\', '\\'), ('N', '\u0085'), ('_', '\u00a0'), ('L', '\u2028'), ('P', '\u2029')]

/-- How many hexadecimal digits follow a letter. -/
def digitCount? : Char → Option Nat
  | 'x' => some 2
  | 'u' => some 4
  | 'U' => some 8
  | _ => none

/-- The character of a code point; the surrogates are none. -/
def charOfCode? (code : Nat) : Option Char :=
  if code.isValidChar then some (Char.ofNat code) else none

/-- Read what follows a backslash: the character meant and how many characters spell it. -/
def escape? (rest : List Char) : Option (Char × Nat) :=
  match rest with
  | [] => none
  | letter :: digits =>
    match digitCount? letter with
    | some count => do
      if digits.length < count then none
      let char ← charOfCode? (← hexadecimal? (digits.take count))
      return (char, count + 1)
    | none => (letterEscapes.lookup letter).map (·, 1)

/-- Characters up to a gap, the closing quote or the end; `taken` is reversed. The flag says
that an escaped break ended them. The first list is as long as what is left, or longer. -/
def takeWord (single : Bool) :
    (bound : List Char) → Cursor → List Char → Parsed (List Char × Cursor × Bool)
  | [], cursor, taken => .ok (taken, cursor, false)
  | _ :: bound, cursor, taken =>
    match cursor.rest with
    | [] => .ok (taken, cursor, false)
    | char :: rest =>
      if isGap char then .ok (taken, cursor, false)
      else if single then
        if char ≠ '\x27' then takeWord single bound (cursor.skip 1) (char :: taken)
        else if rest.head? = some '\x27' then takeWord single bound (cursor.skip 2) (char :: taken)
        else .ok (taken, cursor, false)
      else if char = '"' then .ok (taken, cursor, false)
      else if char = '\\' then
        if rest.head?.any isBreak then .ok (taken, (cursor.skip 1).takeBreak.2, true)
        else
          match escape? rest with
          | some (meant, count) =>
            takeWord single bound (cursor.skip (count + 1)) (meant :: taken)
          | none => refuse .badEscape cursor.mark
      else takeWord single bound (cursor.skip 1) (char :: taken)

/-- Words and gaps up to and with the closing quote; `taken` is reversed. The first list is as
long as what is left, or longer. -/
def takeWords (single : Bool) :
    (bound : List Char) → Cursor → List Char → Parsed (List Char × Cursor)
  | [], cursor, _ => refuse .unclosedQuote cursor.mark
  | _ :: bound, cursor, taken =>
    if cursor.atDocumentMarker then refuse .markerInQuote cursor.mark
    else if cursor.rest.isEmpty then refuse .unclosedQuote cursor.mark
    else do
      let (taken, after, broken) ← takeWord single cursor.rest cursor taken
      if after.peek? = some (if single then '\x27' else '"') then
        return (taken.reverse, after.skip 1)
      else
        let (gap, next) := Gap.take 0 after.rest after.mark { broken }
        takeWords single bound next (gap.text.reverse ++ taken)

/-- Take the quoted scalar whose opening quote is at the cursor. -/
def take (single : Bool) (cursor : Cursor) : Parsed (List Char × Cursor) :=
  takeWords single cursor.rest (cursor.skip 1) []

end RunningConfig.Yaml.Quoted
