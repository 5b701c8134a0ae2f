/-!
# Numbers as text

The text of a natural number is its decimal digits: there is at least one, nothing else is in it,
and it belongs to that number only.
-/

namespace RunningConfig.Text

/-- The text of a number holds digits only. -/
theorem isDigit_of_mem_toString {number : Nat} {char : Char}
    (member : char ∈ (toString number).toList) : char.isDigit = true := by
  rw [Nat.toString_eq_ofList_toDigits, String.toList_ofList] at member
  exact Nat.isDigit_of_mem_toDigits (by decide) (by decide) member

/-- A character that is no digit is in the text of no number. -/
theorem not_mem_toString {char : Char} (other : char.isDigit = false) (number : Nat) :
    char ∉ (toString number).toList := by
  intro member
  rw [isDigit_of_mem_toString member] at other
  contradiction

/-- The text of a number is not empty. -/
theorem toString_ne_empty (number : Nat) : toString number ≠ "" := by
  rw [Nat.toString_eq_repr]
  exact Nat.repr_ne_empty

/-- Numbers with the same text are the same. -/
theorem toString_inj {left right : Nat} (same : toString left = toString right) : left = right := by
  have digits : Nat.toDigits 10 left = Nat.toDigits 10 right := by
    simpa only [Nat.toString_eq_ofList_toDigits, String.toList_ofList] using
      congrArg String.toList same
  have value := Nat.ofDigitChars_ten_toDigits (n := left)
  rw [digits, Nat.ofDigitChars_ten_toDigits] at value
  exact value.symm

end RunningConfig.Text
