import RunningConfig.Text.Split
/-!
# Network addresses

An address is a 32-bit word, written as four decimal octets with dots between them, most
significant octet first. Reading takes exactly that form: one to three digits an octet, no
leading zero, no octet above 255.
-/

namespace RunningConfig

/-- A 32-bit network address. -/
structure Address where
  /-- The word, the first octet in its highest bits. -/
  word : UInt32
  deriving DecidableEq, Repr, Inhabited

namespace Address

/-- The address of four octets, most significant first. -/
def ofOctets (first second third fourth : Nat) : Address :=
  ⟨.ofNat (((first * 256 + second) * 256 + third) * 256 + fourth)⟩

/-- The octet that starts the given number of bits above the lowest. -/
def octet (address : Address) (shift : Nat) : Nat := address.word.toNat >>> shift % 256

/-- The dotted quad of an address. -/
def toText (address : Address) : String :=
  toString (address.octet 24) ++ "." ++ toString (address.octet 16) ++ "."
    ++ toString (address.octet 8) ++ "." ++ toString (address.octet 0)

/-- The value of decimal digits, most significant first. -/
def digitsValue (digits : List Char) : Nat :=
  digits.foldl (fun value digit => value * 10 + (digit.toNat - 48)) 0

/-- Read one octet: one to three digits, no leading zero, at most 255. -/
def octet? (digits : List Char) : Option Nat :=
  if digits.isEmpty || 3 < digits.length || !digits.all Char.isDigit then none
  else if digits.head? = some '0' && 1 < digits.length then none
  else if 255 < digitsValue digits then none
  else some (digitsValue digits)

/-- Read a dotted quad. -/
def ofText? (text : String) : Option Address :=
  match Text.splitOn '.' text.toList with
  | [first, second, third, fourth] => do
    return ofOctets (← octet? first) (← octet? second) (← octet? third) (← octet? fourth)
  | _ => none

end Address

end RunningConfig
