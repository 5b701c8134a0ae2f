/-!
# White space

The characters with the property of white space, and trimming them off a text.
-/

namespace RunningConfig.Text

/-- The ranges of white space, first and last code point. -/
def whitespaceRanges : List (Nat × Nat) := [
  (0x09, 0x0D), (0x20, 0x20), (0x85, 0x85), (0xA0, 0xA0), (0x1680, 0x1680), (0x2000, 0x200A),
  (0x2028, 0x2029), (0x202F, 0x202F), (0x205F, 0x205F), (0x3000, 0x3000)]

/-- A character is white space. -/
def isWhitespace (char : Char) : Bool :=
  whitespaceRanges.any fun (first, last) => first ≤ char.toNat && char.toNat ≤ last

/-- What core calls white space is white space. -/
theorem isWhitespace_of_isWhitespace {char : Char} (space : char.isWhitespace = true) :
    isWhitespace char = true := by
  simp only [Char.isWhitespace, Bool.or_eq_true, decide_eq_true_eq] at space
  rcases space with ((rfl | rfl) | rfl) | rfl <;> decide

/-- A text without the white space at its ends. -/
def trim (text : List Char) : List Char :=
  ((text.dropWhile isWhitespace).reverse.dropWhile isWhitespace).reverse

end RunningConfig.Text
