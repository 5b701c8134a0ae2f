import RunningConfig.Text.Unprintable
/-!
# Quoted text

A text inside double quotes, as messages show it: quotes and backslashes are escaped, common
controls by a letter, and every other character that cannot be shown by its code point.
-/

namespace RunningConfig.Text

/-- The hexadecimal digits of a number, lower case, without leading zeros. -/
def hexadecimal (number : Nat) : String := String.ofList (Nat.toDigits 16 number)

/-- One character inside the quotes. -/
def escape (char : Char) : String :=
  if char = '"' then "\\\""
  else if char = '\\' then "\\\\"
  else if char = '\n' then "\\n"
  else if char = '\r' then "\\r"
  else if char = '\t' then "\\t"
  else if char.toNat = 0 then "\\0"
  else if isUnprintable char then "\\u\x7b" ++ hexadecimal char.toNat ++ "\x7d"
  else char.toString

/-- A text in quotes. -/
def quoted (text : String) : String :=
  "\"" ++ String.join (text.toList.map escape) ++ "\""

end RunningConfig.Text
