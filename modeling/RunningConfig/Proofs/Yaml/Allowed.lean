import RunningConfig.Proofs.Yaml.Values
/-!
# What is printed may be read

The printer writes no character that yaml text may not hold: what cannot be shown is escaped, and
escapes are plain letters and digits.
-/

namespace RunningConfig.Yaml.Printer

/-- A text of characters that yaml text may hold. -/
def Allowed (text : List Char) : Prop := ∀ char ∈ text, isAllowed char = true

/-- The empty text is allowed. -/
theorem allowed_nil : Allowed [] := by simp [Allowed]

/-- A text is allowed when its first character and the others are. -/
theorem allowed_cons {char : Char} {text : List Char} :
    Allowed (char :: text) ↔ isAllowed char = true ∧ Allowed text := by
  simp [Allowed]

/-- Two texts in a row are allowed when both are. -/
theorem allowed_append {first second : List Char} :
    Allowed (first ++ second) ↔ Allowed first ∧ Allowed second := by
  simp [Allowed, or_imp, forall_and]

/-- Spaces are allowed. -/
theorem allowed_spaces (count : Nat) : Allowed (spaces count) := by
  intro char member
  rw [List.eq_of_mem_replicate member]
  decide

/-- What is shown is allowed. -/
theorem allowed_of_shown {text : List Char} (shown : ∀ char ∈ text, isShown char = true) :
    Allowed text :=
  fun char member => isAllowed_of_isShown (shown char member)

/-- Between single quotes nothing else than the text, quotes and spaces is written. -/
theorem allowed_singleQuoted (indent : Nat) (afterBreak : Bool) {text : List Char}
    (allowed : Allowed text) : Allowed (singleQuoted indent afterBreak text) := by
  have indentation : Allowed (if afterBreak then spaces indent else []) := by
    split
    · exact allowed_spaces indent
    · exact allowed_nil
  induction text generalizing afterBreak with
  | nil => exact indentation
  | cons char text ih =>
    obtain ⟨first, others⟩ := allowed_cons.mp allowed
    have quoted : Allowed (if char = '\x27' then ['\x27', '\x27'] else [char]) := by
      split
      · exact List.all_eq_true.mp (by decide : ['\x27', '\x27'].all isAllowed = true)
      · exact allowed_cons.mpr ⟨first, allowed_nil⟩
    rw [singleQuoted]
    split
    · exact allowed_cons.mpr ⟨first, ih true others (allowed_spaces indent)⟩
    · exact allowed_append.mpr ⟨allowed_append.mpr ⟨indentation, quoted⟩,
        ih false others allowed_nil⟩

/-- In a literal scalar nothing else than the text and spaces is written. -/
theorem allowed_literalLines {indent : Nat} {afterBreak : Bool} {text : List Char}
    (allowed : Allowed text) : Allowed (literalLines indent afterBreak text) := by
  induction text generalizing afterBreak with
  | nil => exact allowed_nil
  | cons char text ih =>
    obtain ⟨first, others⟩ := allowed_cons.mp allowed
    rw [literalLines]
    split
    · exact allowed_cons.mpr ⟨first, ih others⟩
    · refine allowed_append.mpr ⟨?_, allowed_cons.mpr ⟨first, ih others⟩⟩
      split
      · exact allowed_spaces indent
      · exact allowed_nil

/-- Hexadecimal digits are allowed. -/
theorem allowed_hexadecimalDigits (count value : Nat) :
    Allowed (hexadecimalDigits count value) := by
  have digits : ∀ digit < 16, isAllowed (Nat.digitChar digit).toUpper = true := by decide
  induction count generalizing value with
  | zero => exact allowed_nil
  | succ count ih =>
    rw [hexadecimalDigits]
    exact allowed_append.mpr ⟨ih _, allowed_cons.mpr
      ⟨digits _ (Nat.mod_lt _ (by decide)), allowed_nil⟩⟩

/-- The letters of escapes are allowed. -/
theorem isAllowed_escapeLetter {char letter : Char}
    (found : escapeLetters.lookup char = some letter) : isAllowed letter = true := by
  have letters : ∀ pair ∈ escapeLetters, isAllowed pair.2 = true := by decide
  obtain ⟨before, after, split, -⟩ := List.lookup_eq_some_iff.mp found
  exact letters (char, letter) (by simp [split])

/-- An escape is allowed. -/
theorem allowed_escape (char : Char) : Allowed (escape char) := by
  unfold escape
  refine allowed_cons.mpr ⟨by decide, ?_⟩
  split
  case h_1 letter found => exact allowed_cons.mpr ⟨isAllowed_escapeLetter found, allowed_nil⟩
  case h_2 =>
    split
    · exact allowed_cons.mpr ⟨by decide, allowed_hexadecimalDigits _ _⟩
    · split <;> exact allowed_cons.mpr ⟨by decide, allowed_hexadecimalDigits _ _⟩

/-- Between double quotes what cannot be shown is escaped. -/
theorem allowed_doubleQuoted (text : List Char) : Allowed (doubleQuoted text) := by
  intro other member
  obtain ⟨char, -, written⟩ := List.mem_flatMap.mp member
  split at written
  case isTrue literal =>
    simp only [Bool.and_eq_true] at literal
    rw [List.mem_singleton.mp written]
    exact isAllowed_of_isShown literal.1.1.1
  case isFalse => exact allowed_escape char other written

/-- The header of a literal scalar is allowed. -/
theorem allowed_literalHeader (text : List Char) : Allowed (literalHeader text) := by
  rw [Block.literalHeader_eq]
  refine allowed_cons.mpr ⟨by decide, allowed_append.mpr ⟨?_, ?_⟩⟩
  · split <;> simp [Allowed, isAllowed]
  · cases Block.chompingOf text <;> simp [Allowed, Block.Chomping.indicator, isAllowed]

/-- A text is written in characters that are allowed. -/
theorem allowed_scalar (indent : Nat) (text : String) : Allowed (scalar indent text) := by
  have feed : Allowed ['\n'] := by simp [Allowed, isAllowed]
  unfold scalar
  dsimp only
  split
  case h_1 plain =>
    have fits := (plain_of_style plain).1
    simp only [fitsPlain, Bool.and_eq_true, List.all_eq_true] at fits
    exact allowed_append.mpr ⟨allowed_of_shown fun char member =>
      (fits.1.1.1.1.1 char member).1, feed⟩
  case h_2 single =>
    have quote : Allowed ['\x27', '\n'] := by simp [Allowed, isAllowed]
    exact allowed_cons.mpr ⟨by decide, allowed_append.mpr
      ⟨allowed_singleQuoted _ _ (allowed_of_shown (singleQuoted_of_style single).shown), quote⟩⟩
  case h_3 literal =>
    refine allowed_append.mpr ⟨allowed_append.mpr ⟨allowed_literalHeader _, allowed_cons.mpr
      ⟨by decide, allowed_literalLines (allowed_of_shown (literal_of_style literal).1)⟩⟩, ?_⟩
    split
    · exact allowed_nil
    · exact feed
  all_goals
    have quote : Allowed ['"', '\n'] := by simp [Allowed, isAllowed]
    exact allowed_cons.mpr ⟨by decide, allowed_append.mpr ⟨allowed_doubleQuoted _, quote⟩⟩

/-- An integer is written in characters that are allowed. -/
theorem allowed_integer (value : Int) : Allowed (toString value).toList := by
  have fits := fitsPlain_integer value
  simp only [fitsPlain, Bool.and_eq_true, List.all_eq_true] at fits
  exact allowed_of_shown fun char member => (fits.1.1.1.1.1 char member).1

/-- A name is written in characters that are allowed. -/
theorem allowed_key {name : List Char} (key : Plain.IsKey name) : Allowed name := by
  intro char member
  have named := key.chars char member
  simp only [isNameChar, Char.isAlphanum, Bool.or_eq_true, decide_eq_true_eq] at named
  have between {low high : UInt32} (range : low ≤ char.val ∧ char.val ≤ high)
      (printable : 0x20 ≤ low ∧ high ≤ 0x7E) : 0x20 ≤ char.toNat ∧ char.toNat ≤ 0x7E :=
    ⟨Nat.le_trans printable.1 range.1, Nat.le_trans range.2 printable.2⟩
  have ascii : 0x20 ≤ char.toNat ∧ char.toNat ≤ 0x7E := by
    rcases named with ((letter | digit) | rfl) | rfl
    · rcases Bool.or_eq_true_iff.mp letter with upper | lower
      · exact between (of_decide_eq_true upper) (by decide)
      · obtain ⟨above, below⟩ := Bool.and_eq_true_iff.mp lower
        exact between ⟨of_decide_eq_true above, of_decide_eq_true below⟩ (by decide)
    · obtain ⟨above, below⟩ := Bool.and_eq_true_iff.mp digit
      exact between ⟨of_decide_eq_true above, of_decide_eq_true below⟩ (by decide)
    · decide
    · decide
  simp [isAllowed, ascii]

/-- A value that stands on a line is written in characters that are allowed. -/
theorem allowed_onLine (indent : Nat) {value : Value} (decimal : ∀ number, value ≠ .float number) :
    Allowed (onLine indent value) := by
  have feed : Allowed ['\n'] := by simp [Allowed, isAllowed]
  cases value with
  | null => exact List.all_eq_true.mp (by decide : "null\n".toList.all isAllowed = true)
  | boolean value =>
    refine allowed_append.mpr ⟨?_, feed⟩
    cases value
    · exact List.all_eq_true.mp (by decide : "false".toList.all isAllowed = true)
    · exact List.all_eq_true.mp (by decide : "true".toList.all isAllowed = true)
  | integer value => exact allowed_append.mpr ⟨allowed_integer value, feed⟩
  | float number => exact absurd rfl (decimal number)
  | text text => exact allowed_scalar indent text
  | list => exact List.all_eq_true.mp (by decide : "[]\n".toList.all isAllowed = true)
  | object => exact List.all_eq_true.mp (by decide : "\x7b\x7d\n".toList.all isAllowed = true)

/-- The items of a list are written in characters that are allowed, if each is. -/
theorem allowed_listItems {items : List Value}
    (each : ∀ item ∈ items, ∀ column, Allowed (afterHyphen column item)) (column : Nat) :
    Allowed (listItems column items) := by
  induction items with
  | nil => exact allowed_nil
  | cons item items ih =>
    obtain ⟨first, others⟩ := List.forall_mem_cons.mp each
    rw [listItems]
    exact allowed_append.mpr ⟨allowed_append.mpr ⟨allowed_spaces column,
      allowed_cons.mpr ⟨by decide, first column⟩⟩, ih others⟩

/-- The entries of an object are written in characters that are allowed, if each value is. -/
theorem allowed_objectEntries {entries : List (String × Value)}
    (each : ∀ entry ∈ entries, ∀ column, Allowed (afterKey column entry.2))
    (keys : ∀ entry ∈ entries, Plain.IsKey entry.1.toList) (column : Nat) :
    Allowed (objectEntries column entries) := by
  induction entries with
  | nil => exact allowed_nil
  | cons entry entries ih =>
    obtain ⟨key, value⟩ := entry
    obtain ⟨first, others⟩ := List.forall_mem_cons.mp each
    obtain ⟨name, names⟩ := List.forall_mem_cons.mp keys
    rw [objectEntries]
    refine allowed_append.mpr ⟨allowed_append.mpr ⟨allowed_append.mpr ⟨allowed_key name,
      allowed_cons.mpr ⟨by decide, first column⟩⟩, ?_⟩, ih others names⟩
    split
    · exact allowed_nil
    · exact allowed_spaces column

/-- A printable value is written in characters that are allowed, under a key and in a list. -/
theorem allowed_value {value : Value} (printable : Printable value) (column : Nat) :
    Allowed (afterKey column value) ∧ Allowed (afterHyphen column value) := by
  have line {value : Value} (decimal : ∀ number, value ≠ .float number) (column : Nat) :
      Allowed (' ' :: onLine (column + 2) value) :=
    allowed_cons.mpr ⟨by decide, allowed_onLine _ decimal⟩
  induction printable generalizing column with
  | null | boolean | integer | text => exact ⟨line (by simp) column, line (by simp) column⟩
  | @list items each flat ih =>
    cases items with
    | nil => exact ⟨line (by simp) column, line (by simp) column⟩
    | cons first items =>
      have items' := fun item member column => (ih item member column).2
      refine ⟨allowed_cons.mpr ⟨by decide, allowed_listItems items' column⟩, ?_⟩
      obtain ⟨one, others⟩ := List.forall_mem_cons.mp items'
      exact allowed_cons.mpr ⟨by decide, allowed_append.mpr ⟨allowed_cons.mpr
        ⟨by decide, one (column + 2)⟩, allowed_listItems others (column + 2)⟩⟩
  | @object entries each keys ih =>
    cases entries with
    | nil => exact ⟨line (by simp) column, line (by simp) column⟩
    | cons first entries =>
      have entries' := fun entry member column => (ih entry member column).1
      have inner := allowed_objectEntries entries' keys (column + 2)
      refine ⟨?_, allowed_cons.mpr ⟨by decide, inner⟩⟩
      exact allowed_cons.mpr ⟨by decide, allowed_append.mpr ⟨allowed_spaces _, inner⟩⟩

end RunningConfig.Yaml.Printer
