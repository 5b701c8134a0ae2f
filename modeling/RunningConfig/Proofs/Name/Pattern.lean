import Mathlib
import RunningConfig.Proofs.Config.Accepted
import RunningConfig.Proofs.Journal.Pattern
import RunningConfig.Proofs.Name
import RunningConfig.Text.Whitespace
/-!
# The patterns of names

Each kind of name has a pattern that all of a text has to fit. The texts that fit are those of the
grammar of the names, so the checks of names say what the patterns say. A text with white space in
it, be it a line feed at its end, fits neither.
-/

namespace RunningConfig

namespace Text

/-- A character outside of all ranges of white space is none. -/
theorem isWhitespace_eq_false {char : Char}
    (outside : ∀ range ∈ whitespaceRanges, char.toNat < range.1 ∨ range.2 < char.toNat) :
    isWhitespace char = false := by
  apply List.any_eq_false.mpr
  intro range listed inside
  simp only [Bool.and_eq_true, decide_eq_true_eq] at inside
  have apart := outside range listed
  omega

/-- No decimal digit is white space. -/
theorem isWhitespace_eq_false_of_isDecimalDigit {char : Char}
    (digit : isDecimalDigit char = true) : isWhitespace char = false := by
  have apart : ∀ lowest ∈ decimalZeros, ∀ range ∈ whitespaceRanges,
      range.2 < lowest ∨ lowest + 10 ≤ range.1 := by decide
  obtain ⟨lowest, zero, within⟩ := List.any_eq_true.mp digit
  simp only [Bool.and_eq_true, decide_eq_true_eq] at within
  apply isWhitespace_eq_false
  intro range listed
  have beside := apart lowest zero range listed
  omega

end Text

namespace Name

open Text
open Journal (Pattern CharClass)
open Journal.Pattern

/-! ## The patterns -/

/-- One or more decimal digits. -/
def digits : Pattern := .repeated (.one .digit) 1 none

/-- A character and digits behind it. -/
def digitsBehind (separator : Char) : Pattern := inOrder [.one (.single separator), digits]

/-- The pattern of port indexes. -/
def portIndexPattern : Pattern :=
  anchored [digits, .repeated (digitsBehind '/') 0 none, .repeated (digitsBehind '.') 0 (some 1)]

/-- The class of the characters in names of method lists. -/
def methodListClass : CharClass :=
  [.range 'A' 'Z', .range 'a' 'z', .range '0' '9', .single '_', .single '-', .single '.'].foldl
    .union .none

/-- The pattern of names of method lists. -/
def methodListPattern : Pattern :=
  anchored [.repeated (.one methodListClass) 1 (some longestMethodList)]

/-! ## Port indexes -/

variable {before part after : List Char} {text : String}

/-- Digits fit the runs of decimal digits. -/
theorem fits_digits : digits.Fits before part after ↔ IsRun isDecimalDigit part := by
  unfold digits
  rw [fits_repeated_one, Nat.succ_le_iff, List.length_pos_iff]
  constructor
  · rintro ⟨some, -, members⟩
    exact ⟨some, members⟩
  · rintro ⟨some, members⟩
    exact ⟨some, nofun, members⟩

/-- A separator and digits behind it fit the runs with the separator in front. -/
theorem fits_digitsBehind {separator : Char} : (digitsBehind separator).Fits before part after ↔
    ∃ run, IsRun isDecimalDigit run ∧ part = separator :: run := by
  constructor
  · rintro ⟨_, back, rfl, ⟨char, member, rfl⟩, rest⟩
    obtain rfl := holds_single_iff.mp member
    exact ⟨back, fits_digits.mp (joined_blank.mp rest), rfl⟩
  · rintro ⟨run, number, rfl⟩
    refine ⟨[separator], run, rfl, ⟨separator, holds_single_iff.mpr rfl, rfl⟩, ?_⟩
    exact joined_blank.mpr (fits_digits.mpr number)

/-- A row of these is as many runs with the separator in front of each. -/
theorem row_digitsBehind {separator : Char} {count : Nat} :
    Row (digitsBehind separator).Fits count before part after ↔
      ∃ runs : List (List Char), runs.length = count ∧ (∀ run ∈ runs, IsRun isDecimalDigit run) ∧
        part = runs.flatMap (separator :: ·) := by
  induction count generalizing before part with
  | zero =>
    show part = [] ↔ _
    constructor
    · rintro rfl
      exact ⟨[], rfl, nofun, rfl⟩
    · rintro ⟨runs, length, -, rfl⟩
      rw [List.length_eq_zero_iff.mp length]
      rfl
  | succ count ih =>
    constructor
    · rintro ⟨front, back, rfl, first, row⟩
      obtain ⟨run, number, rfl⟩ := fits_digitsBehind.mp first
      obtain ⟨runs, rfl, each, rfl⟩ := ih.mp row
      exact ⟨run :: runs, rfl, List.forall_mem_cons.mpr ⟨number, each⟩, rfl⟩
    · rintro ⟨runs, length, each, rfl⟩
      cases runs with
      | nil => contradiction
      | cons run runs =>
        obtain ⟨number, others⟩ := List.forall_mem_cons.mp each
        refine ⟨separator :: run, runs.flatMap (separator :: ·), rfl, ?_, ?_⟩
        · exact fits_digitsBehind.mpr ⟨run, number, rfl⟩
        · exact ih.mpr ⟨runs, Nat.succ.inj length, others, rfl⟩

/-- Any number of slashes with digits behind them fits any number of such runs. -/
theorem fits_slots : (Pattern.repeated (digitsBehind '/') 0 none).Fits before part after ↔
    ∃ runs : List (List Char), (∀ run ∈ runs, IsRun isDecimalDigit run) ∧
      part = runs.flatMap ('/' :: ·) := by
  constructor
  · rintro ⟨more, -, row⟩
    obtain ⟨runs, -, each, rfl⟩ := row_digitsBehind.mp row
    exact ⟨runs, each, rfl⟩
  · rintro ⟨runs, each, rfl⟩
    exact ⟨runs.length, nofun, row_digitsBehind.mpr ⟨runs, (Nat.zero_add _).symm, each, rfl⟩⟩

/-- At most one dot with digits behind it fits at most one such run. -/
theorem fits_unit : (Pattern.repeated (digitsBehind '.') 0 (some 1)).Fits before part after ↔
    ∃ last : Option (List Char), (∀ run, last = some run → IsRun isDecimalDigit run) ∧
      part = (last.map ('.' :: ·)).getD [] := by
  constructor
  · rintro ⟨more, bounded, row⟩
    have single : more ≤ 1 := bounded 1 rfl
    obtain ⟨runs, length, each, rfl⟩ := row_digitsBehind.mp row
    cases runs with
    | nil => exact ⟨none, nofun, rfl⟩
    | cons run runs =>
      have none : runs = [] := by
        rw [← List.length_eq_zero_iff]
        rw [List.length_cons] at length
        omega
      subst none
      refine ⟨some run, ?_, List.append_nil _⟩
      rintro _ ⟨⟩
      exact each run List.mem_cons_self
  · rintro ⟨last, number, rfl⟩
    cases last with
    | none => exact ⟨0, fun _ _ => Nat.zero_le _, rfl⟩
    | some run =>
      have row : Row (digitsBehind '.').Fits 1 before ('.' :: run) after := by
        apply row_digitsBehind.mpr
        exact ⟨[run], rfl, List.forall_mem_singleton.mpr (number run rfl), (List.append_nil _).symm⟩
      refine ⟨1, ?_, row⟩
      rintro bound ⟨⟩
      exact Nat.le_refl 1

/-- Runs with slashes between them are the first one, and the others with a slash in front of
each. -/
theorem intercalate_slash (run : List Char) (runs : List (List Char)) :
    ['/'].intercalate (run :: runs) = run ++ runs.flatMap ('/' :: ·) := by
  induction runs generalizing run with
  | nil => rw [List.intercalate_singleton, List.flatMap_nil, List.append_nil]
  | cons next runs ih =>
    rw [List.intercalate_cons_cons, ih, List.flatMap_cons, List.append_assoc]
    rfl

/-- The pattern of port indexes occurs in exactly the port indexes. -/
theorem occursIn_portIndexPattern_iff :
    portIndexPattern.occursIn text = true ↔ IsIndex isDecimalDigit text.toList := by
  unfold portIndexPattern
  rw [occursIn_anchored_iff, isIndex_iff_exists]
  constructor
  · rintro ⟨run, _, cut, first, slashes, _, rfl, between, behind⟩
    have number := fits_digits.mp first
    obtain ⟨runs, each, rfl⟩ := fits_slots.mp between
    obtain ⟨last, unit, rfl⟩ := fits_unit.mp (joined_blank.mp behind)
    refine ⟨run :: runs, last, List.cons_ne_nil _ _, ?_, unit, ?_⟩
    · exact List.forall_mem_cons.mpr ⟨number, each⟩
    · rw [cut, ofParts, intercalate_slash, List.append_assoc]
  · rintro ⟨runs, last, some, each, unit, cut⟩
    cases runs with
    | nil => contradiction
    | cons run runs =>
      obtain ⟨number, others⟩ := List.forall_mem_cons.mp each
      rw [ofParts, intercalate_slash, List.append_assoc] at cut
      refine ⟨run, _, cut, fits_digits.mpr number, _, _, rfl, ?_, ?_⟩
      · exact fits_slots.mpr ⟨runs, others, rfl⟩
      · exact joined_blank.mpr (fits_unit.mpr ⟨last, unit, rfl⟩)

example : portIndexPattern.occursIn "0/1" = true ∧ portIndexPattern.occursIn "0/" = false := by
  cbv

/-- The check of port indexes is their pattern. -/
theorem isPortIndex_eq_occursIn : isPortIndex text = portIndexPattern.occursIn text := by
  rw [Bool.eq_iff_iff, isPortIndex_iff, occursIn_portIndexPattern_iff]

/-- There is no white space in a port index. -/
theorem isWhitespace_eq_false_of_mem_portIndex (index : isPortIndex text = true) {char : Char}
    (member : char ∈ text.toList) : isWhitespace char = false := by
  rcases mem_isPortIndex index member with rfl | rfl | digit
  · decide
  · decide
  · exact isWhitespace_eq_false_of_isDecimalDigit digit

/-! ## Method lists -/

/-- The class has the letters and digits of ASCII, the underscore, the hyphen and the dot. -/
theorem holds_methodListClass {char : Char} : methodListClass.holds char = true ↔
    char.isAlphanum = true ∨ char = '_' ∨ char = '-' ∨ char = '.' := by
  simp only [methodListClass, List.foldl, CharClass.holds, holds_single_iff, Char.isAlphanum,
    Char.isAlpha, Char.isUpper, Char.isLower, Char.isDigit, Char.le_def, ge_iff_le, Bool.or_eq_true,
    Bool.and_eq_true, decide_eq_true_eq, Bool.false_eq_true, false_or, or_assoc]

/-- The pattern of names of method lists occurs in exactly these names. -/
theorem occursIn_methodListPattern_iff :
    methodListPattern.occursIn text = true ↔ IsListName text := by
  unfold methodListPattern
  rw [occursIn_anchored_iff]
  show Joined _ (Pattern.Fits .blank) [] text.toList [] ↔ _
  rw [joined_blank, fits_repeated_one]
  simp only [holds_methodListClass, String.length_toList, Option.some.injEq, forall_eq',
    longestMethodList, IsListName]
  constructor
  · rintro ⟨some, short, members⟩
    exact ⟨some, by omega, members⟩
  · rintro ⟨some, short, members⟩
    exact ⟨some, by omega, members⟩

/-- The check of names of method lists is their pattern. -/
theorem isMethodList_eq_occursIn : isMethodList text = methodListPattern.occursIn text := by
  rw [Bool.eq_iff_iff, isMethodList_iff, occursIn_methodListPattern_iff]

/-- No character of these names is white space. -/
theorem isWhitespace_eq_false_of_isMethodListChar {char : Char}
    (listed : isMethodListChar char = true) : isWhitespace char = false := by
  -- There is no white space from the hyphen to the small z, where all of these characters are.
  have apart : ∀ range ∈ whitespaceRanges, range.2 < 45 ∨ 122 < range.1 := by decide
  have between : 45 ≤ char.toNat ∧ char.toNat ≤ 122 := by
    simp only [isMethodListChar, Char.isAlphanum, Char.isAlpha, Char.isUpper, Char.isLower,
      Char.isDigit, ge_iff_le, UInt32.le_iff_toNat_le, Bool.or_eq_true, Bool.and_eq_true,
      decide_eq_true_eq, or_assoc] at listed
    rcases listed with upper | lower | digit | rfl | rfl | rfl
    · exact ⟨Nat.le_trans (by decide) upper.1, Nat.le_trans upper.2 (by decide)⟩
    · exact ⟨Nat.le_trans (by decide) lower.1, Nat.le_trans lower.2 (by decide)⟩
    · exact ⟨Nat.le_trans (by decide) digit.1, Nat.le_trans digit.2 (by decide)⟩
    · decide
    · decide
    · decide
  apply isWhitespace_eq_false
  intro range member
  have beside := apart range member
  omega

/-! ## Both -/

/-- What the patterns of names make of a text. -/
structure Matched (text : String) : Prop where
  /-- The pattern of port indexes is this text of a pattern. -/
  indexRead : Pattern.ofText? "^\\d+(/\\d+)*(\\.\\d+)?$" = some portIndexPattern
  /-- It occurs in a text exactly when there is at most one dot, and what stands behind the dot and
  what stands between the slashes in front of it are runs of decimal digits. -/
  index : portIndexPattern.occursIn text = true ↔
    text.toList.count '.' ≤ 1 ∧
      (∀ run, unit? text.toList = some run → IsRun isDecimalDigit run) ∧
      slots text.toList ≠ [] ∧ ∀ run ∈ slots text.toList, IsRun isDecimalDigit run
  /-- These parts, put together with the slashes and the dot, are the text. -/
  parts : ofParts (slots text.toList) (unit? text.toList) = text.toList
  /-- The check of port indexes says the same. -/
  indexChecked : isPortIndex text = portIndexPattern.occursIn text
  /-- The pattern of names of method lists is this text of a pattern. -/
  listRead : Pattern.ofText? "^[A-Za-z0-9_\\-.]\x7b1,64\x7d$" = some methodListPattern
  /-- It occurs in a text exactly when there are 1 to 64 characters, all of them letters and digits
  of ASCII, underscores, hyphens and dots. -/
  list : methodListPattern.occursIn text = true ↔ IsListName text
  /-- The check of names of method lists says the same. -/
  listChecked : isMethodList text = methodListPattern.occursIn text
  /-- Neither occurs in a text with white space in it. -/
  solid : ∀ char ∈ text.toList, isWhitespace char = true →
    portIndexPattern.occursIn text = false ∧ methodListPattern.occursIn text = false
  /-- Neither occurs in a text that ends with a line feed. -/
  ended : text.toList.getLast? = some '\n' →
    portIndexPattern.occursIn text = false ∧ methodListPattern.occursIn text = false

/-- A text with white space in it fits neither pattern. -/
theorem occursIn_eq_false_of_isWhitespace {char : Char} (member : char ∈ text.toList)
    (space : isWhitespace char = true) :
    portIndexPattern.occursIn text = false ∧ methodListPattern.occursIn text = false := by
  constructor
  · apply Bool.eq_false_iff.mpr
    intro occurs
    rw [← isPortIndex_eq_occursIn] at occurs
    rw [isWhitespace_eq_false_of_mem_portIndex occurs member] at space
    contradiction
  · apply Bool.eq_false_iff.mpr
    intro occurs
    rw [← isMethodList_eq_occursIn] at occurs
    rw [isWhitespace_eq_false_of_isMethodListChar (mem_isMethodList occurs member)] at space
    contradiction

/-- The patterns of names occur in exactly the texts of their grammars. -/
theorem matched_of_text (text : String) : Matched text where
  indexRead := by cbv
  index := occursIn_portIndexPattern_iff.trans isIndex_iff_slots
  parts := ofParts_slots text.toList
  indexChecked := isPortIndex_eq_occursIn
  listRead := by cbv
  list := occursIn_methodListPattern_iff
  listChecked := isMethodList_eq_occursIn
  solid _ member space := occursIn_eq_false_of_isWhitespace member space
  ended last := occursIn_eq_false_of_isWhitespace (List.mem_of_getLast? last) (by decide)

end Name

end RunningConfig
