/-!
# Double precision numbers

A double is a signed mantissa times a power of two, an infinity, or no number. `nearest` is the
double nearest to a decimal, an even mantissa deciding between two that are equally near.
`toText` writes the fewest digits that are nearer to the double than to any other, positionally
and with at least one digit after the point. All arithmetic is exact.
-/

namespace RunningConfig

/-- A double precision number. -/
inductive Binary64 where
  /-- A finite number: mantissa times two to the exponent. -/
  | finite (negative : Bool) (mantissa : Nat) (exponent : Int)
  /-- The infinity of a sign. -/
  | infinite (negative : Bool)
  /-- No number at all. -/
  | notANumber
  deriving DecidableEq, Repr, Inhabited

namespace Binary64

/-- A nonnegative rational scaled by a power of a base, as numerator and denominator. -/
def scale (base : Nat) (exponent : Int) (numerator denominator : Nat) : Nat × Nat :=
  if exponent < 0 then (numerator, denominator * Nat.pow base (-exponent).toNat)
  else (numerator * Nat.pow base exponent.toNat, denominator)

/-- The integer nearest to a quotient, the even one of two that are equally near. -/
def roundDiv (numerator denominator : Nat) : Nat :=
  let quotient := numerator / denominator
  let twice := 2 * (numerator % denominator)
  if twice < denominator then quotient
  else if denominator < twice then quotient + 1
  else quotient + quotient % 2

/-- The lowest exponent of a double. -/
def lowestExponent : Int := -1074

/-- The highest exponent of a double. -/
def highestExponent : Int := 971

/-- Every mantissa is less than two to the 53rd. -/
def mantissaLimit : Nat := 0x20000000000000

/-- The least mantissa of a double that is not near zero. -/
def leastMantissa : Nat := mantissaLimit / 2

/-- The double nearest to a positive quotient. -/
def ofQuotient (negative : Bool) (numerator denominator : Nat) : Binary64 :=
  let estimate := max lowestExponent
    ((numerator.log2 : Int) - (denominator.log2 : Int) - 53)
  let (top, bottom) := scale 2 (-estimate) numerator denominator
  let exponent := if top / bottom < mantissaLimit then estimate else estimate + 1
  let (top, bottom) := scale 2 (-exponent) numerator denominator
  let mantissa := roundDiv top bottom
  let (mantissa, exponent) :=
    if mantissa = mantissaLimit then (leastMantissa, exponent + 1) else (mantissa, exponent)
  if highestExponent < exponent then infinite negative else finite negative mantissa exponent

/-- The double nearest to a decimal, given by its digits as an integer and the power of ten it
is multiplied with. A decimal far above or below every double is not computed. -/
def nearest (negative : Bool) (digits : Nat) (exponent : Int) : Binary64 :=
  let magnitude := ((toString digits).length : Int) + exponent
  if digits = 0 || magnitude < -400 then finite negative 0 lowestExponent
  else if 400 < magnitude then infinite negative
  else
    let (numerator, denominator) := scale 10 exponent digits 1
    ofQuotient negative numerator denominator

/-- The decimals with a given number of digits that stand just below and just above a positive
quotient whose integer part has a given number of digits. -/
def neighbours (numerator denominator : Nat) (position : Int) (count : Nat) : List Nat :=
  let (top, bottom) := scale 10 ((count : Int) - position) numerator denominator
  [top / bottom, top / bottom + 1]

/-- The quarter units of the lowest mantissa bit between the ends of the interval of reals that
round to a double, and the double itself: low end, double, high end. -/
def interval (mantissa : Nat) (exponent : Int) : Nat × Nat × Nat :=
  let below := if mantissa = leastMantissa && lowestExponent < exponent then 1 else 2
  (4 * mantissa - below, 4 * mantissa, 4 * mantissa + 2)

/-- The fewest digits that read back as a positive double, and how many of them stand before
the point. Of two candidates the nearer is taken, and the upper one of two equally near. -/
def shortest (mantissa : Nat) (exponent : Int) : Nat × Int :=
  let (low, value, high) := interval mantissa exponent
  let (numerator, denominator) := scale 2 (exponent - 2) value 1
  let (large, small) := scale 10 400 numerator denominator
  let position : Int := ((toString (large / small)).length : Int) - 400
  let even := mantissa % 2 = 0
  let admits (count digits : Nat) : Bool :=
    let (top, bottom) := scale 10 (position - (count : Int)) digits 1
    let (lowTop, lowBottom) := scale 2 (exponent - 2) low 1
    let (highTop, highBottom) := scale 2 (exponent - 2) high 1
    let left := lowTop * bottom
    let right := top * lowBottom
    let left' := top * highBottom
    let right' := highTop * bottom
    if even then left ≤ right && left' ≤ right' else left < right && left' < right'
  let distance (count digits : Nat) : Nat :=
    let (top, bottom) := scale 10 (position - (count : Int)) digits 1
    let left := top * denominator
    let right := numerator * bottom
    max left right - min left right
  let pick (count : Nat) : Option (Nat × Int) :=
    match (neighbours numerator denominator position count).filter (admits count) with
    | [] => none
    | [digits] => some (digits, position)
    | first :: second :: _ =>
      some (if distance count first < distance count second then first else second, position)
  match (List.range 17).findSome? fun count => (pick (count + 1)).map (count + 1, ·) with
  | some (count, digits, position) =>
    if digits = Nat.pow 10 count then (1, position + 1) else (digits, position)
  | none => (value, position)

/-- Digits with a point after the given number of them. -/
def layOut (digits : Nat) (position : Int) : String :=
  let text := toString digits
  if position ≤ 0 then "0." ++ "".pushn '0' (-position).toNat ++ text
  else if position < text.length then
    String.ofList (text.toList.take position.toNat) ++ "."
      ++ String.ofList (text.toList.drop position.toNat)
  else text ++ "".pushn '0' (position.toNat - text.length) ++ ".0"

/-- Drop the zeros at the end of a number's digits. -/
def dropZeros (digits : Nat) : Nat :=
  if h : digits = 0 then 0
  else if digits % 10 = 0 then dropZeros (digits / 10) else digits
  termination_by digits
  decreasing_by omega

/-- The text of a double. -/
def toText : Binary64 → String
  | finite negative mantissa exponent =>
    let sign := if negative then "-" else ""
    if mantissa = 0 then sign ++ "0.0"
    else
      let (digits, position) := shortest mantissa exponent
      sign ++ layOut (dropZeros digits) position
  | infinite negative => if negative then "-inf" else "inf"
  | notANumber => "NaN"

end Binary64

end RunningConfig
