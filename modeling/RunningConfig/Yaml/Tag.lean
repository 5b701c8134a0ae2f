import RunningConfig.Yaml.Token
/-!
# Tags, anchors and directives

A tag is given in full between angle brackets, or as a handle and a suffix; a percent sign in a
tag starts an octet in hexadecimal. An anchor names a node. A directive stands on a line of its
own in front of a document and gives the version or what a handle stands for.
-/

namespace RunningConfig.Yaml

/-- An octet in hexadecimal after a percent sign. -/
def takeOctet? : List Char → Option (Nat × List Char)
  | '%' :: high :: low :: rest => do
    let high ← hexadecimalValue? high
    let low ← hexadecimalValue? low
    return (high * 16 + low, rest)
  | _ => none

/-- The further octets of a character, each of six bits. -/
def takeContinuation? : Nat → Nat → List Char → Option (Nat × List Char)
  | 0, code, rest => some (code, rest)
  | count + 1, code, rest => do
    let (octet, rest) ← takeOctet? rest
    if octet / 64 = 2 then takeContinuation? count (code * 64 + octet % 64) rest else none

/-- A character spelled as octets, each after a percent sign. -/
def takeEscapedChar? (rest : List Char) : Option (Char × List Char) := do
  let (octet, rest) ← takeOctet? rest
  let (code, rest) ←
    if octet < 128 then some (octet, rest)
    else if octet / 32 = 6 then takeContinuation? 1 (octet % 32) rest
    else if octet / 16 = 14 then takeContinuation? 2 (octet % 16) rest
    else if octet / 8 = 30 then takeContinuation? 3 (octet % 8) rest
    else none
  if code.isValidChar then some (Char.ofNat code, rest) else none

/-- Take the characters of a tag. In full, the indicators of flow sequences and the comma may
stand in it too. The first list is as long as what is left, or longer. -/
def takeTagText (full : Bool) :
    (bound : List Char) → Cursor → List Char → Parsed (List Char × Cursor)
  | [], cursor, taken => .ok (taken.reverse, cursor)
  | _ :: bound, cursor, taken =>
    match cursor.rest with
    | [] => .ok (taken.reverse, cursor)
    | char :: _ =>
      if char = '%' then
        match takeEscapedChar? cursor.rest with
        | some (meant, rest) =>
          takeTagText full bound (cursor.skip (cursor.rest.length - rest.length)) (meant :: taken)
        | none => refuse .badTag cursor.mark
      else if isTagChar char || (full && (char = ',' || char = '[' || char = ']')) then
        takeTagText full bound (cursor.skip 1) (char :: taken)
      else .ok (taken.reverse, cursor)

/-- Take the characters of a tag from a cursor. -/
def Cursor.takeTagText (cursor : Cursor) (full : Bool) : Parsed (List Char × Cursor) :=
  Yaml.takeTagText full cursor.rest cursor []

/-- Take what may be a handle: an exclamation mark, name characters and another one. -/
def Cursor.takeHandle (cursor : Cursor) : List Char × Cursor :=
  let (name, after) := (cursor.skip 1).span isNameChar
  if after.peek? = some '!' then ('!' :: name ++ ['!'], after.skip 1) else ('!' :: name, after)

/-- Take the tag whose exclamation mark is at the cursor: its handle and its suffix. -/
def Cursor.takeTag (cursor : Cursor) : Parsed ((String × String) × Cursor) := do
  let (tag, after) ←
    if cursor.peekSecond? = some '<' then do
      let (text, after) ← (cursor.skip 2).takeTagText true
      if text.isEmpty || after.peek? ≠ some '>' then refuse .badTag after.mark
      else pure (("", String.ofList text), after.skip 1)
    else do
      let (handle, after) := cursor.takeHandle
      let (text, rest) ← after.takeTagText false
      if 1 < handle.length && handle.getLast? = some '!' then
        if text.isEmpty then refuse .badTag rest.mark
        else pure ((String.ofList handle, String.ofList text), rest)
      else
        let suffix := handle.drop 1 ++ text
        if suffix.isEmpty then pure (("", "!"), rest) else pure (("!", String.ofList suffix), rest)
  if atGap after.rest then return (tag, after) else refuse .badTag after.mark

/-- Take a name after the indicator at the cursor. -/
def Cursor.takeName (cursor : Cursor) : Parsed (String × Cursor) :=
  let (name, after) := (cursor.skip 1).span isNameChar
  let ends := atGap after.rest || after.peek?.any "?:,]\x7d%@`".toList.contains
  if name.isEmpty || !ends then refuse .badAnchor after.mark
  else .ok (String.ofList name, after)

/-- Take a number of at most nine digits. -/
def Cursor.takeNumber (cursor : Cursor) : Parsed (Nat × Cursor) :=
  let (digits, after) := cursor.span Char.isDigit
  if digits.isEmpty || 9 < digits.length then refuse .badDirective after.mark
  else .ok (digits.foldl (fun value digit => value * 10 + (digit.toNat - 48)) 0, after)

/-- Take the major and minor number of a version. -/
def Cursor.takeVersion (cursor : Cursor) : Parsed (TokenKind × Cursor) := do
  let (major, after) ← (cursor.skipWhile isBlank).takeNumber
  if after.peek? ≠ some '.' then refuse .badDirective after.mark
  else
    let (minor, after) ← (after.skip 1).takeNumber
    return (.versionDirective major minor, after)

/-- Take a handle and what it stands for. -/
def Cursor.takeTagDirective (cursor : Cursor) : Parsed (TokenKind × Cursor) := do
  let cursor := cursor.skipWhile isBlank
  if cursor.peek? ≠ some '!' then refuse .badDirective cursor.mark
  else
    let (handle, after) := cursor.takeHandle
    let whole := handle.length = 1 || handle.getLast? = some '!'
    if !whole || !after.peek?.any isBlank then refuse .badDirective after.mark
    else
      let (text, after) ← (after.skipWhile isBlank).takeTagText true
      if text.isEmpty || !atGap after.rest then refuse .badDirective after.mark
      else return (.tagDirective (String.ofList handle) (String.ofList text), after)

/-- Take the directive whose percent sign is at the cursor, with the rest of its line. -/
def Cursor.takeDirective (cursor : Cursor) : Parsed (Token × Cursor) := do
  let (name, after) := (cursor.skip 1).span isNameChar
  if name.isEmpty || !atGap after.rest then refuse .badDirective after.mark
  else
    let (kind, after) ←
      if name = "YAML".toList then after.takeVersion
      else if name = "TAG".toList then after.takeTagDirective
      else refuse .badDirective after.mark
    let token : Token := { kind, start := cursor.mark, stop := after.mark }
    let after := after.skipWhile isBlank
    let after := if after.peek? = some '#' then after.skipLine else after
    if after.rest.head?.all isBreak then return (token, after.takeBreak.2)
    else refuse .badDirective after.mark

end RunningConfig.Yaml
