/-!
# Character classes of yaml

The classes of characters that yaml text is cut up by. The class of breaks holds the line feed,
the carriage return, the next line, and the line and paragraph separators.
-/

namespace RunningConfig.Yaml

/-- A space or a tab. -/
def isBlank (char : Char) : Bool := char = ' ' || char = '\t'

/-- A character that ends a line. -/
def isBreak (char : Char) : Bool :=
  char = '\n' || char = '\r' || char = '\u0085' || char = '\u2028' || char = '\u2029'

/-- A blank or a break. -/
def isGap (char : Char) : Bool := isBlank char || isBreak char

/-- The text is at its end, or a blank or a break comes next. -/
def atGap : List Char → Bool
  | [] => true
  | char :: _ => isGap char

/-- A character that a name may hold: an ASCII letter, a digit, a hyphen or an underscore. -/
def isNameChar (char : Char) : Bool := char.isAlphanum || char = '-' || char = '_'

/-- An indicator of a flow collection. -/
def isFlowIndicator (char : Char) : Bool :=
  char = ',' || char = '[' || char = ']' || char = '\x7b' || char = '\x7d'

/-- A character that no plain scalar starts with. -/
def isIndicator (char : Char) : Bool :=
  "-?:,[]\x7b\x7d#&*!|>'\"%@`".toList.contains char

/-- A character that may stand in a tag. -/
def isTagChar (char : Char) : Bool :=
  isNameChar char || ";/?:@&=+$.!~*'()%".toList.contains char

/-- A character that may stand in yaml text at all. -/
def isAllowed (char : Char) : Bool :=
  char = '\t' || char = '\n' || char = '\r' || char = '\u0085'
    || (0x20 ≤ char.toNat && char.toNat ≤ 0x7E)
    || (0xA0 ≤ char.toNat && char.toNat ≤ 0xFFFD) || 0x10000 ≤ char.toNat

/-- The value of a hexadecimal digit. -/
def hexadecimalValue? (char : Char) : Option Nat :=
  if char.isDigit then some (char.toNat - 48)
  else if 'a' ≤ char && char ≤ 'f' then some (char.toNat - 87)
  else if 'A' ≤ char && char ≤ 'F' then some (char.toNat - 55)
  else none

/-- The value of hexadecimal digits, most significant first. -/
def hexadecimal? (digits : List Char) : Option Nat :=
  digits.foldlM (fun value digit => (hexadecimalValue? digit).map (value * 16 + ·)) 0

end RunningConfig.Yaml
