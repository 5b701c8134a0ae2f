import RunningConfig.Proofs.Text.Decimal
import RunningConfig.Proofs.Yaml.Plain
/-!
# Integers that are printed

An integer is written as its digits, with a hyphen in front of them when it is negative. No other
number starts with a zero, so the text is neither padded nor in another base and reads back as the
integer; and it can stand as a plain scalar.
-/

namespace RunningConfig.Yaml

/-- The text of an integer: a hyphen for a negative one, and digits. -/
theorem toList_toString (value : Int) :
    (toString value).toList =
      (if 0 ≤ value then [] else ['-']) ++ Nat.toDigits 10 value.natAbs := by
  rw [Int.toString_eq_repr, Int.repr_eq_if]
  split
  case isTrue nonnegative =>
    rw [Nat.toList_repr, List.nil_append, show value.toNat = value.natAbs by omega]
  case isFalse negative =>
    rw [String.toList_append, Nat.toList_repr, show (-value).toNat = value.natAbs by omega]
    rfl

/-- Only the digits of zero start with a zero. -/
theorem eq_zero_of_head?_toDigits {number : Nat}
    (starts : (Nat.toDigits 10 number).head? = some '0') : number = 0 := by
  induction number using Nat.strongRecOn with
  | _ number ih =>
    rw [Nat.toDigits_eq_if (by decide)] at starts
    split at starts
    case isTrue small => simpa using starts
    case isFalse large =>
      rw [List.head?_append, List.head?_eq_some_head Nat.toDigits_ne_nil, Option.some_or,
        ← List.head?_eq_some_head] at starts
      have tenth := ih (number / 10) (by omega) starts
      omega

/-- Every digit of a number is a decimal digit. -/
theorem isDigit_of_mem_toDigits (number : Nat) :
    ∀ char ∈ Nat.toDigits 10 number, char.isDigit = true :=
  fun _ member => Nat.isDigit_of_mem_toDigits (by decide) (by decide) member

namespace Scalar

/-- Digits have no sign in front of them. -/
theorem takeSign_digits {digits : List Char} (each : ∀ char ∈ digits, char.isDigit = true) :
    takeSign digits = (false, digits) := by
  unfold takeSign
  split
  case h_1 => exact absurd (each '-' List.mem_cons_self) (by decide)
  case h_2 => exact absurd (each '+' List.mem_cons_self) (by decide)
  case h_3 => rfl

/-- The digits of a number are not padded. -/
theorem isZeroPadded_toDigits (number : Nat) : isZeroPadded (Nat.toDigits 10 number) = false := by
  unfold isZeroPadded
  rw [takeSign_digits (isDigit_of_mem_toDigits number)]
  split
  case h_1 digit rest same =>
    dsimp only at same
    have starts : (Nat.toDigits 10 number).head? = some '0' := by
      rw [same]
      rfl
    have zero := eq_zero_of_head?_toDigits starts
    rw [zero, Nat.toDigits_zero] at same
    simp at same
  case h_2 => rfl

/-- A decimal digit has its value in base ten. -/
theorem digitValue?_ten {char : Char} (digit : char.isDigit = true) :
    digitValue? 10 char = some (char.toNat - 48) := by
  have below : char.toNat - 48 < 10 := by
    simp only [Char.isDigit, Bool.and_eq_true, decide_eq_true_eq] at digit
    have upper : char.toNat ≤ 57 := digit.2
    omega
  simp [digitValue?, hexadecimalValue?, digit, below]

/-- Decimal digits are folded to the number they stand for. -/
theorem foldlM_digits {digits : List Char} (each : ∀ char ∈ digits, char.isDigit = true)
    (value : Nat) :
    digits.foldlM (fun value digit => (digitValue? 10 digit).map (value * 10 + ·)) value =
      some (Nat.ofDigitChars 10 digits value) := by
  induction digits generalizing value with
  | nil => simp
  | cons digit digits ih =>
    obtain ⟨first, others⟩ := List.forall_mem_cons.mp each
    rw [List.foldlM_cons, digitValue?_ten first, Nat.ofDigitChars_cons, Nat.mul_comm 10]
    exact ih others _

/-- The digits of a number stand for it. -/
theorem digits?_toDigits (number : Nat) : digits? 10 (Nat.toDigits 10 number) = some number := by
  unfold digits?
  rw [foldlM_digits (isDigit_of_mem_toDigits number), Nat.ofDigitChars_ten_toDigits]
  simp [Nat.toDigits_ne_nil]

/-- The magnitude of the digits of a number is the number. -/
theorem magnitude?_toDigits (number : Nat) : magnitude? (Nat.toDigits 10 number) = some number := by
  have each := isDigit_of_mem_toDigits number
  have padded := isZeroPadded_toDigits number
  have digits := digits?_toDigits number
  unfold magnitude?
  split
  case h_1 same => exact absurd (each 'x' (by simp [same])) (by decide)
  case h_2 same => exact absurd (each 'o' (by simp [same])) (by decide)
  case h_3 same => exact absurd (each 'b' (by simp [same])) (by decide)
  case h_4 => rw [padded, digits]; rfl

/-- The literal of an integer is read back from its text. -/
theorem integerLiteral?_toString (value : Int) :
    integerLiteral? (toString value) =
      some { negative := value < 0, magnitude := value.natAbs } := by
  unfold integerLiteral?
  rw [toList_toString]
  by_cases nonnegative : 0 ≤ value
  · rw [if_pos nonnegative, List.nil_append, takeSign_digits (isDigit_of_mem_toDigits _)]
    simp [magnitude?_toDigits, nonnegative]
  · rw [if_neg nonnegative]
    simp [takeSign, magnitude?_toDigits]
    omega

/-- An integer that 64 bits hold without a sign is read back. -/
theorem unsigned?_toString {value : Int} (nonnegative : 0 ≤ value) (held : value ≤ largest64) :
    unsigned? (toString value) = some value := by
  have held' : value.natAbs ≤ largest64 := by omega
  have positive : ¬ value < 0 := by omega
  simp only [unsigned?, integerLiteral?_toString, Option.bind_some, IntegerLiteral.value, positive,
    decide_false, Bool.not_false, Bool.true_and, decide_eq_true_eq, held', if_true]
  rw [if_neg Bool.false_ne_true, Int.natAbs_of_nonneg nonnegative]

/-- An integer that 64 bits hold with a sign is read back. -/
theorem signed?_toString {value : Int} (held : value.natAbs < half largest64) :
    signed? (toString value) = some value := by
  have whole : (if decide (value < 0) = true then -(value.natAbs : Int) else value.natAbs) =
      value := by
    simp only [decide_eq_true_eq]
    split <;> omega
  simp only [signed?, integerLiteral?_toString, Option.bind_some, IntegerLiteral.value, whole]
  rw [if_pos (by simp [held])]

end Scalar

namespace Printer

/-- A text without colons and hashes holds no indicator. -/
theorem holdsIndicator_eq_false {afterGap : Bool} {text : List Char} (colon : ':' ∉ text)
    (hash : '#' ∉ text) : holdsIndicator afterGap text = false := by
  induction text generalizing afterGap with
  | nil => rfl
  | cons char text ih =>
    rw [List.mem_cons, not_or] at colon hash
    simp [holdsIndicator, Ne.symm colon.1, Ne.symm hash.1, ih colon.2 hash.2]

/-- A character that a sign and digits hold is shown, and it ends no word. -/
theorem isShown_of_isDigit {char : Char} (number : char.isDigit = true ∨ char = '-') :
    isShown char = true ∧ isGap char = false := by
  rcases number with digit | rfl
  · have named : isNameChar char = true := by simp [isNameChar, Char.isAlphanum, digit]
    refine ⟨?_, Plain.isGap_of_isNameChar named⟩
    simp only [Char.isDigit, Bool.and_eq_true, decide_eq_true_eq] at digit
    have lower : 48 ≤ char.toNat := digit.1
    have upper : char.toNat ≤ 57 := digit.2
    have shown : 0x20 ≤ char.toNat ∧ char.toNat ≤ 0x7E := by omega
    simp [isShown, shown]
  · decide

/-- A character of a text without spaces is no space. -/
theorem any_space_eq_false {text : List Char} {found : Option Char} (space : ' ' ∉ text)
    (within : ∀ char ∈ found, char ∈ text) : found.any (· = ' ') = false := by
  cases found with
  | none => rfl
  | some char =>
    have other : char ≠ ' ' := fun same => space (same ▸ within char rfl)
    simp [other]

/-- A sign and digits can be plain. -/
theorem fitsPlain_digits {sign digits : List Char} (signs : sign = [] ∨ sign = ['-'])
    (each : ∀ char ∈ digits, char.isDigit = true) (nonempty : digits ≠ []) :
    fitsPlain (sign ++ digits) = true := by
  have chars : ∀ char ∈ sign ++ digits, char.isDigit = true ∨ char = '-' := by
    intro char member
    rcases signs with rfl | rfl
    · exact Or.inl (each char member)
    · rcases List.mem_cons.mp member with rfl | member
      · exact Or.inr rfl
      · exact Or.inl (each char member)
  have absent (char : Char) (other : char.isDigit = false ∧ char ≠ '-') :
      char ∉ sign ++ digits := by
    intro member
    rcases chars char member with digit | hyphen
    · rw [other.1] at digit
      contradiction
    · exact other.2 hyphen
  obtain ⟨digit, others, rfl⟩ := List.exists_cons_of_ne_nil nonempty
  have first := each digit List.mem_cons_self
  have hyphen : digit ≠ '-' := by rintro rfl; exact absurd first (by decide)
  have dot : digit ≠ '.' := by rintro rfl; exact absurd first (by decide)
  have special : digit ≠ '?' ∧ digit ≠ ':' := by
    constructor <;> (rintro rfl; exact absurd first (by decide))
  have alphanum : digit.isAlphanum = true := by simp [Char.isAlphanum, first]
  have plain := Plain.isIndicator_of_isAlphanum alphanum
  have solid := (isShown_of_isDigit (Or.inl first)).2
  have shown :
      (sign ++ digit :: others).all (fun char => isShown char && !isBreak char) = true := by
    refine List.all_eq_true.mpr fun char member => ?_
    obtain ⟨shown, solid⟩ := isShown_of_isDigit (chars char member)
    simp [shown, (Bool.or_eq_false_iff.mp solid).2]
  have space : ' ' ∉ sign ++ digit :: others := absent ' ' (by decide)
  have head : (sign ++ digit :: others).head?.any (· = ' ') = false :=
    any_space_eq_false space fun _ => List.mem_of_mem_head?
  have last : (sign ++ digit :: others).getLast?.any (· = ' ') = false :=
    any_space_eq_false space fun _ => List.mem_of_getLast?
  have marker : startsWithMarker (sign ++ digit :: others) = false := by
    rcases signs with rfl | rfl <;>
      simp [startsWithMarker, List.isPrefixOf, Ne.symm hyphen, Ne.symm dot]
  have indicator : startsWithIndicator (sign ++ digit :: others) = false := by
    rcases signs with rfl | rfl
    · simp [startsWithIndicator, hyphen, special, plain]
    · simp [startsWithIndicator, atGap, solid]
  simp only [fitsPlain, shown, head, last, marker, indicator,
    holdsIndicator_eq_false (absent ':' (by decide)) (absent '#' (by decide))]
  rfl

/-- The text of an integer can be plain. -/
theorem fitsPlain_integer (value : Int) : fitsPlain (toString value).toList = true := by
  rw [toList_toString]
  refine fitsPlain_digits ?_ (isDigit_of_mem_toDigits _) Nat.toDigits_ne_nil
  split
  · exact Or.inl rfl
  · exact Or.inr rfl

/-- The text of an integer is not empty. -/
theorem toList_integer_ne_nil (value : Int) : (toString value).toList ≠ [] := by
  rw [toList_toString]
  simp [Nat.toDigits_ne_nil]

end Printer

end RunningConfig.Yaml
