import RunningConfig.Schema.Fault
import RunningConfig.Yaml.Character
/-!
# What plain scalars mean

A plain scalar without a tag is null, a boolean, a number or text, as its spelling says. An
integer is written in decimal without leading zeros, or with a letter for another base; any
other digits with leading zeros are text. A decimal fraction or exponent makes a float.
-/

namespace RunningConfig.Yaml.Scalar

open Schema (Found)

/-- The words for null. -/
def isNullWord (text : String) : Bool := ["null", "Null", "NULL", "~"].contains text

/-- Nothing, or a word for null. -/
def isNull (text : String) : Bool := text.isEmpty || isNullWord text

/-- The boolean of a word. -/
def boolean? (text : String) : Option Bool :=
  if ["true", "True", "TRUE"].contains text then some true
  else if ["false", "False", "FALSE"].contains text then some false
  else none

/-- A sign in front of a number: whether it is negative, and what follows. -/
def takeSign : List Char → Bool × List Char
  | '-' :: rest => (true, rest)
  | '+' :: rest => (false, rest)
  | rest => (false, rest)

/-- Digits of which the first of several is a zero. -/
def isZeroPadded (text : List Char) : Bool :=
  match (takeSign text).2 with
  | '0' :: digit :: rest => (digit :: rest).all Char.isDigit
  | _ => false

/-- The value of a digit in a base. -/
def digitValue? (base : Nat) (char : Char) : Option Nat :=
  (hexadecimalValue? char).filter (· < base)

/-- The number that digits in a base stand for; there must be one. -/
def digits? (base : Nat) (digits : List Char) : Option Nat :=
  if digits.isEmpty then none
  else digits.foldlM (fun value digit => (digitValue? base digit).map (value * base + ·)) 0

/-- An integer as it is written: a sign and a magnitude. -/
structure IntegerLiteral where
  /-- The sign is a hyphen. -/
  negative : Bool
  /-- The number without its sign. -/
  magnitude : Nat
  deriving DecidableEq, Repr

/-- The integer of a literal. -/
def IntegerLiteral.value (literal : IntegerLiteral) : Int :=
  if literal.negative then -literal.magnitude else literal.magnitude

/-- The magnitude of an integer without its sign. -/
def magnitude? : List Char → Option Nat
  | '0' :: 'x' :: digits => digits? 16 digits
  | '0' :: 'o' :: digits => digits? 8 digits
  | '0' :: 'b' :: digits => digits? 2 digits
  | digits => if isZeroPadded digits then none else digits? 10 digits

/-- The integer that a text writes. -/
def integerLiteral? (text : String) : Option IntegerLiteral :=
  let (negative, rest) := takeSign text.toList
  (magnitude? rest).map ({ negative, magnitude := · })

/-- The largest integer of 64 bits without a sign. -/
def largest64 : Nat := 0xFFFFFFFFFFFFFFFF

/-- The largest integer of 128 bits without a sign. -/
def largest128 : Nat := 0xFFFFFFFFFFFFFFFFFFFFFFFFFFFFFFFF

/-- The magnitude of the least integer of as many bits, one of them for the sign. -/
def half (largest : Nat) : Nat := largest / 2 + 1

/-- An integer without a minus sign, of at most 64 bits. -/
def unsigned? (text : String) : Option Int :=
  (integerLiteral? text).bind fun literal =>
    if !literal.negative && literal.magnitude ≤ largest64 then some literal.value else none

/-- An integer of at most 64 bits, one of them for the sign. -/
def signed? (text : String) : Option Int :=
  (integerLiteral? text).bind fun literal =>
    if literal.magnitude < half largest64
        || (literal.negative && literal.magnitude = half largest64) then
      some literal.value
    else none

/-- An integer of at most 128 bits. -/
def integer? (text : String) : Option Found :=
  (integerLiteral? text).bind fun literal =>
    let limit (largest : Nat) := if literal.negative then half largest else largest
    if literal.magnitude ≤ limit largest64 then some (.integer literal.value)
    else if literal.magnitude ≤ limit largest128 then
      some (.wideInteger literal.value (if literal.negative then "i128" else "u128"))
    else none

/-- The exponent of a decimal: none, or a letter, a sign and digits. -/
def exponent? : List Char → Option Int
  | [] => some 0
  | letter :: rest =>
    if letter = 'e' || letter = 'E' then
      let (negative, digits) := takeSign rest
      (digits? 10 digits).map fun value => if negative then -value else value
    else none

/-- A decimal without its sign: digits with a point among them or not, and an exponent. -/
def decimal? (negative : Bool) (text : List Char) : Option Binary64 :=
  let whole := text.takeWhile Char.isDigit
  let rest := text.dropWhile Char.isDigit
  let (fraction, rest) := match rest with
    | '.' :: rest => (rest.takeWhile Char.isDigit, rest.dropWhile Char.isDigit)
    | rest => ([], rest)
  match digits? 10 (whole ++ fraction), exponent? rest with
  | some digits, some exponent => some (.nearest negative digits (exponent - fraction.length))
  | _, _ => none

/-- The float that a text writes, among them infinities and no number. -/
def float? (text : String) : Option Binary64 :=
  let (negative, rest) := takeSign text.toList
  if [".inf", ".Inf", ".INF"].contains (String.ofList rest) then some (.infinite negative)
  else if [".nan", ".NaN", ".NAN"].contains text then some .notANumber
  else
    match decimal? negative rest with
    | some (.finite negative mantissa exponent) => some (.finite negative mantissa exponent)
    | _ => none

/-- What a plain scalar stands for. -/
def resolve (text : String) : Found :=
  if isNull text then .unit
  else
    match boolean? text with
    | some value => .boolean value
    | none =>
      match integer? text with
      | some found => found
      | none =>
        match if isZeroPadded text.toList then none else float? text with
        | some value => .float value
        | none => .text text

end RunningConfig.Yaml.Scalar
