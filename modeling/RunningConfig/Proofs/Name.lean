import RunningConfig.Device.Name
import RunningConfig.Proofs.Text.Lines
/-!
# The grammars of names

A port index is runs of digits with single slashes between them, and at most one more run behind a
dot. The check accepts exactly these texts over the decimal digits of all scripts. Over the ASCII
digits alone the same grammar has fewer texts: those of them in which every character is ASCII. The
name of a method list is a number of characters of one class, and the check accepts exactly these.
-/

namespace RunningConfig

/-- Every item of joined parts has a property exactly when every item of each part has it, if the
one between the parts does. -/
theorem forall_mem_intercalate {α : Type} {holds : α → Prop} {between : α} {parts : List (List α)}
    (own : holds between) :
    (∀ item ∈ [between].intercalate parts, holds item) ↔
      ∀ part ∈ parts, ∀ item ∈ part, holds item := by
  induction parts with
  | nil => simp
  | cons part parts ih =>
    cases parts with
    | nil => simp
    | cons next parts =>
      rw [List.intercalate_cons_cons, List.forall_mem_append, List.forall_mem_append, ih,
        List.forall_mem_singleton, and_iff_left own,
        List.forall_mem_cons (l := next :: parts)]

namespace Text

/-- The digits of ASCII are the decimal digits that are ASCII characters. -/
theorem isDigit_iff (char : Char) :
    char.isDigit = true ↔ isDecimalDigit char = true ∧ char.toNat < 128 := by
  constructor
  · intro digit
    refine ⟨isDecimalDigit_of_isDigit digit, ?_⟩
    simp only [Char.isDigit, Bool.and_eq_true, decide_eq_true_eq] at digit
    have high : char.toNat ≤ 57 := digit.2
    omega
  · rintro ⟨digit, ascii⟩
    obtain ⟨lowest, zero, within⟩ := List.any_eq_true.mp digit
    simp only [Bool.and_eq_true, decide_eq_true_eq] at within
    have first : ∀ lowest ∈ decimalZeros, lowest < 128 → lowest = 48 := by decide
    have only : lowest = 48 := first lowest zero (by omega)
    have low : 48 ≤ char.toNat := by omega
    have high : char.toNat ≤ 57 := by omega
    simp only [Char.isDigit, Bool.and_eq_true, decide_eq_true_eq]
    exact ⟨low, high⟩

end Text

namespace Name

/-- A run: one character or more, all of one class. -/
def IsRun (digit : Char → Bool) (run : List Char) : Prop :=
  run ≠ [] ∧ ∀ char ∈ run, digit char = true

/-- The texts of port indexes over a class of digits. -/
inductive IsIndex (digit : Char → Bool) : List Char → Prop where
  /-- Runs with single slashes between them. -/
  | slots {runs : List (List Char)} (some : runs ≠ []) (each : ∀ run ∈ runs, IsRun digit run) :
    IsIndex digit (['/'].intercalate runs)
  /-- The same, with a dot and a run behind. -/
  | unit {runs : List (List Char)} {last : List Char} (some : runs ≠ [])
    (each : ∀ run ∈ runs, IsRun digit run) (number : IsRun digit last) :
    IsIndex digit (['/'].intercalate runs ++ '.' :: last)

/-! ## The check accepts the grammar -/

/-- A number is a run of decimal digits. -/
theorem isNumber_iff {text : List Char} :
    isNumber text = true ↔ IsRun Text.isDecimalDigit text := by
  simp only [isNumber, IsRun, Bool.and_eq_true, Bool.not_eq_true', List.isEmpty_eq_false_iff,
    List.all_eq_true]

/-- A character that is no decimal digit is in no run of them. -/
theorem not_mem_of_isRun {char : Char} (other : Text.isDecimalDigit char = false)
    {run : List Char} (number : IsRun Text.isDecimalDigit run) : char ∉ run := by
  intro member
  rw [number.2 char member] at other
  contradiction

/-- Slash delimited numbers are runs of decimal digits with single slashes between them. -/
theorem isSlashNumbers_iff {text : List Char} : isSlashNumbers text = true ↔
    ∃ runs, runs ≠ [] ∧ (∀ run ∈ runs, IsRun Text.isDecimalDigit run) ∧
      text = ['/'].intercalate runs := by
  simp only [isSlashNumbers, List.all_eq_true, isNumber_iff]
  constructor
  · intro each
    refine ⟨Text.splitOn '/' text, Text.splitOn_ne_nil _ _, each, ?_⟩
    rw [Text.splitOn_eq, List.intercalate_splitOn]
  · rintro ⟨runs, some, each, rfl⟩
    have free : ∀ run ∈ runs, '/' ∉ run := fun run member =>
      not_mem_of_isRun (by decide) (each run member)
    rwa [Text.splitOn_eq, List.splitOn_intercalate '/' free some]

/-- Slash delimited numbers hold no dot. -/
theorem dot_not_mem_slots {runs : List (List Char)}
    (each : ∀ run ∈ runs, IsRun Text.isDecimalDigit run) : '.' ∉ ['/'].intercalate runs := by
  intro member
  have other : ∀ char ∈ ['/'].intercalate runs, char ≠ '.' := by
    rw [forall_mem_intercalate (by decide)]
    rintro run among char inside rfl
    exact not_mem_of_isRun (by decide) (each run among) inside
  exact other '.' member rfl

/-- The check accepts exactly the port indexes over the decimal digits of all scripts. -/
theorem isPortIndex_iff {text : String} :
    isPortIndex text = true ↔ IsIndex Text.isDecimalDigit text.toList := by
  constructor
  · intro accepted
    have joined := Text.joinWith_splitOn '.' text.toList
    unfold isPortIndex at accepted
    split at accepted
    case h_1 slot cut =>
      obtain ⟨runs, some, each, rfl⟩ := isSlashNumbers_iff.mp accepted
      rw [← joined, cut]
      exact .slots some each
    case h_2 slot last cut =>
      obtain ⟨slots, number⟩ := Bool.and_eq_true_iff.mp accepted
      obtain ⟨runs, some, each, rfl⟩ := isSlashNumbers_iff.mp slots
      rw [← joined, cut]
      exact .unit some each (isNumber_iff.mp number)
    case h_3 => contradiction
  · intro index
    unfold isPortIndex
    generalize text.toList = chars at index
    cases index with
    | slots some each =>
      rw [Text.splitOn_of_not_mem (dot_not_mem_slots each)]
      exact isSlashNumbers_iff.mpr ⟨_, some, each, rfl⟩
    | unit some each number =>
      have free : '.' ∉ _ := not_mem_of_isRun (by decide) number
      rw [Text.splitOn_append_cons, Text.splitOn_of_not_mem (dot_not_mem_slots each),
        Text.splitOn_of_not_mem free]
      exact Bool.and_eq_true_iff.mpr
        ⟨isSlashNumbers_iff.mpr ⟨_, some, each, rfl⟩, isNumber_iff.mpr number⟩

/-! ## The parts of a port index -/

/-- Runs put together with slashes between them, and a dot in front of the last part if there is
one. -/
def ofParts (runs : List (List Char)) (last : Option (List Char)) : List Char :=
  ['/'].intercalate runs ++ (last.map ('.' :: ·)).getD []

/-- What stands between the slashes in front of the first dot of a text. -/
def slots (text : List Char) : List (List Char) := (text.takeWhile (· ≠ '.')).splitOn '/'

/-- What stands behind the first dot of a text, if there is one. -/
def unit? (text : List Char) : Option (List Char) := (text.dropWhile (· ≠ '.')).tail?

/-- The parts of a text put together are the text. -/
theorem ofParts_slots (text : List Char) : ofParts (slots text) (unit? text) = text := by
  have whole := List.takeWhile_append_dropWhile (p := (· ≠ '.')) (l := text)
  have behind : ((unit? text).map ('.' :: ·)).getD [] = text.dropWhile (· ≠ '.') := by
    unfold unit?
    have stopped := List.head?_dropWhile_not (· ≠ '.') text
    cases cut : text.dropWhile (· ≠ '.') with
    | nil => rfl
    | cons char rest =>
      rw [cut] at stopped
      have dot : char = '.' := by simpa using stopped
      rw [dot]
      rfl
  rw [ofParts, slots, List.intercalate_splitOn, behind, whole]

/-- Runs that are put together are the parts of the whole. -/
theorem slots_ofParts {runs : List (List Char)} (some : runs ≠ [])
    (each : ∀ run ∈ runs, IsRun Text.isDecimalDigit run) (last : Option (List Char)) :
    slots (ofParts runs last) = runs ∧ unit? (ofParts runs last) = last := by
  have passed : ∀ char ∈ ['/'].intercalate runs, decide (char ≠ '.') = true := by
    intro char member
    apply decide_eq_true
    rintro rfl
    exact dot_not_mem_slots each member
  have free : ∀ run ∈ runs, '/' ∉ run := fun run member =>
    not_mem_of_isRun (by decide) (each run member)
  unfold slots unit? ofParts
  rw [List.takeWhile_append_of_pos passed, List.dropWhile_append_of_pos passed]
  cases last with
  | none =>
    show (['/'].intercalate runs ++ []).splitOn '/' = runs ∧ none = none
    rw [List.append_nil, List.splitOn_intercalate '/' free some]
    exact ⟨rfl, rfl⟩
  | some last =>
    show (['/'].intercalate runs ++ []).splitOn '/' = runs ∧ Option.some last = Option.some last
    rw [List.append_nil, List.splitOn_intercalate '/' free some]
    exact ⟨rfl, rfl⟩

/-- The port indexes are what is put together of runs. -/
theorem isIndex_iff_exists {digit : Char → Bool} {text : List Char} : IsIndex digit text ↔
    ∃ runs last, runs ≠ [] ∧ (∀ run ∈ runs, IsRun digit run) ∧
      (∀ run, last = some run → IsRun digit run) ∧ text = ofParts runs last := by
  constructor
  · intro index
    cases index with
    | slots some each =>
      refine ⟨_, none, some, each, nofun, ?_⟩
      exact (List.append_nil _).symm
    | @unit runs last some each number =>
      refine ⟨runs, Option.some last, some, each, ?_, rfl⟩
      rintro run ⟨⟩
      exact number
  · rintro ⟨runs, last, some, each, number, rfl⟩
    cases last with
    | none =>
      rw [ofParts, Option.map_none, Option.getD_none, List.append_nil]
      exact .slots some each
    | some last => exact .unit some each (number last rfl)

/-- A text is a port index exactly when it has at most one dot, and what stands behind the dot and
what stands between the slashes in front of it are runs. -/
theorem isIndex_iff_slots {text : List Char} : IsIndex Text.isDecimalDigit text ↔
    text.count '.' ≤ 1 ∧ (∀ run, unit? text = some run → IsRun Text.isDecimalDigit run) ∧
      slots text ≠ [] ∧ ∀ run ∈ slots text, IsRun Text.isDecimalDigit run := by
  constructor
  · intro index
    obtain ⟨runs, last, some, each, number, rfl⟩ := isIndex_iff_exists.mp index
    obtain ⟨front, behind⟩ := slots_ofParts some each last
    rw [front, behind]
    refine ⟨?_, number, some, each⟩
    rw [ofParts, List.count_append, List.count_eq_zero.mpr (dot_not_mem_slots each)]
    cases last with
    | none => decide
    | some last =>
      have free : last.count '.' = 0 :=
        List.count_eq_zero.mpr (not_mem_of_isRun (by decide) (number last rfl))
      have one : ('.' :: last).count '.' = 1 := by rw [List.count_cons_self, free]
      show 0 + ('.' :: last).count '.' ≤ 1
      omega
  · rintro ⟨-, number, some, each⟩
    exact isIndex_iff_exists.mpr ⟨slots text, unit? text, some, each, number,
      (ofParts_slots text).symm⟩

/-! ## ASCII digits -/

/-- A run of ASCII digits is a run of decimal digits of ASCII characters only. -/
theorem isRun_isDigit_iff {run : List Char} : IsRun Char.isDigit run ↔
    IsRun Text.isDecimalDigit run ∧ ∀ char ∈ run, char.toNat < 128 := by
  simp only [IsRun, Text.isDigit_iff, and_assoc, forall_and]

/-- So are runs with slashes between them. -/
theorem forall_isRun_isDigit_iff {runs : List (List Char)} :
    (∀ run ∈ runs, IsRun Char.isDigit run) ↔
      (∀ run ∈ runs, IsRun Text.isDecimalDigit run) ∧
        ∀ char ∈ ['/'].intercalate runs, char.toNat < 128 := by
  rw [forall_mem_intercalate (by decide)]
  simp only [isRun_isDigit_iff, imp_and, forall_and]

/-- A port index over the ASCII digits is one over all decimal digits that holds ASCII characters
only. -/
theorem isIndex_isDigit_iff {text : List Char} : IsIndex Char.isDigit text ↔
    IsIndex Text.isDecimalDigit text ∧ ∀ char ∈ text, char.toNat < 128 := by
  have dot : '.'.toNat < 128 := by decide
  constructor
  · intro index
    cases index with
    | slots some each =>
      obtain ⟨decimal, ascii⟩ := forall_isRun_isDigit_iff.mp each
      exact ⟨.slots some decimal, ascii⟩
    | unit some each number =>
      obtain ⟨decimal, ascii⟩ := forall_isRun_isDigit_iff.mp each
      obtain ⟨last, lastAscii⟩ := isRun_isDigit_iff.mp number
      exact ⟨.unit some decimal last,
        List.forall_mem_append.mpr ⟨ascii, List.forall_mem_cons.mpr ⟨dot, lastAscii⟩⟩⟩
  · rintro ⟨index, ascii⟩
    cases index with
    | slots some each => exact .slots some (forall_isRun_isDigit_iff.mpr ⟨each, ascii⟩)
    | unit some each number =>
      obtain ⟨front, back⟩ := List.forall_mem_append.mp ascii
      exact .unit some (forall_isRun_isDigit_iff.mpr ⟨each, front⟩)
        (isRun_isDigit_iff.mpr ⟨number, (List.forall_mem_cons.mp back).2⟩)

/-! ## Method lists -/

/-- The names of method lists: one to 64 letters, digits, underscores, hyphens and dots. -/
def IsListName (name : String) : Prop :=
  1 ≤ name.length ∧ name.length ≤ 64 ∧
    ∀ char ∈ name.toList, char.isAlphanum = true ∨ char = '_' ∨ char = '-' ∨ char = '.'

/-- The check of a name accepts the names of method lists. -/
theorem isListName_of_isMethodList {name : String} (valid : isMethodList name = true) :
    IsListName name := by
  simp only [isMethodList, Bool.and_eq_true, Bool.not_eq_true', List.isEmpty_eq_false_iff,
    decide_eq_true_eq, List.all_eq_true, isMethodListChar, Bool.or_eq_true] at valid
  obtain ⟨⟨nonempty, short⟩, chars⟩ := valid
  refine ⟨?_, short, fun char member => ?_⟩
  · rw [← String.length_toList]
    exact List.length_pos_iff.mpr nonempty
  · simpa only [or_assoc] using chars char member

/-- The check of a name accepts nothing else. -/
theorem isMethodList_iff {name : String} : isMethodList name = true ↔ IsListName name := by
  refine ⟨isListName_of_isMethodList, ?_⟩
  rintro ⟨some, short, chars⟩
  rw [← String.length_toList] at some
  have nonempty : name.toList ≠ [] := List.length_pos_iff.mp some
  simp only [isMethodList, Bool.and_eq_true, Bool.not_eq_true', List.isEmpty_eq_false_iff,
    decide_eq_true_eq, List.all_eq_true, isMethodListChar, Bool.or_eq_true, or_assoc]
  exact ⟨⟨nonempty, short⟩, chars⟩

end Name

end RunningConfig
