import Mathlib.Algebra.Group.Nat.Defs
import RunningConfig.Proofs.Yaml.Plain
import RunningConfig.Yaml.Quoted
/-!
# Quoted scalars that are printed

A printed text is read back from between its quotes one character at a time: a quote that is
written twice, an escape or a character as it is stands for one character of the text. A run of
spaces or of separators is a gap that stays as it is.
-/

namespace RunningConfig.Yaml.Quoted

open Printer (isShown spaces escape hexadecimalDigits)

/-- The character that closes a quoted scalar. -/
def closing (single : Bool) : Char := if single then '\x27' else '"'

/-- A bound that is long enough does not count. -/
theorem takeWord_bound {single : Bool} {cursor : Cursor} {left right taken : List Char}
    (ofLeft : cursor.rest.length ≤ left.length) (ofRight : cursor.rest.length ≤ right.length) :
    takeWord single left cursor taken = takeWord single right cursor taken := by
  induction left generalizing cursor right taken with
  | nil =>
    have none : cursor.rest = [] := List.length_eq_zero_iff.mp (Nat.le_zero.mp ofLeft)
    cases right <;> simp [takeWord, none]
  | cons unit left ih =>
    cases right with
    | nil =>
      have none : cursor.rest = [] := List.length_eq_zero_iff.mp (Nat.le_zero.mp ofRight)
      simp [takeWord, none]
    | cons other right =>
      cases rest : cursor.rest with
      | nil => simp [takeWord, rest]
      | cons char later =>
        have skipped (count : Nat) : (cursor.skip (count + 1)).rest.length ≤ later.length := by
          simp [Cursor.skip, rest]
        rw [rest] at ofLeft ofRight
        simp only [List.length_cons, Nat.add_le_add_iff_right] at ofLeft ofRight
        have same (count : Nat) (taken : List Char) :
            takeWord single left (cursor.skip (count + 1)) taken =
              takeWord single right (cursor.skip (count + 1)) taken :=
          ih (Nat.le_trans (skipped count) ofLeft) (Nat.le_trans (skipped count) ofRight)
        cases meaning : escape? later with
        | none => simp only [takeWord, rest, same 0, same 1, meaning]
        | some found => simp only [takeWord, rest, same 0, same 1, meaning, same found.2]

/-- Characters that stand for one character of a quoted text, whatever follows them. -/
structure Spells (single : Bool) (code : List Char) (char : Char) : Prop where
  /-- The code is not empty. -/
  nonempty : code ≠ []
  /-- Reading goes over the code and takes the character. -/
  takes : ∀ (more : List Char) (mark : Mark) (taken : List Char),
    takeWord single (code ++ more) { rest := code ++ more, mark } taken =
      takeWord single more { rest := more, mark := mark.advance code.length } (char :: taken)

/-- A character that needs no escape stands for itself. -/
theorem spells_plain {single : Bool} {char : Char} (solid : isGap char = false)
    (other : char ≠ closing single) (escape : single = false → char ≠ '\\') :
    Spells single [char] char := by
  refine ⟨by simp, fun more mark taken => ?_⟩
  cases single with
  | true =>
    simp only [closing, if_true] at other
    simp [takeWord, solid, other, Cursor.skip]
  | false =>
    have backslash := escape rfl
    simp only [closing, Bool.false_eq_true, if_false] at other
    simp [takeWord, solid, other, backslash, Cursor.skip]

/-- A quote that is written twice stands for a quote. -/
theorem spells_quote : Spells true ['\x27', '\x27'] '\x27' := by
  refine ⟨by simp, fun more mark taken => ?_⟩
  have solid : isGap '\x27' = false := by decide
  have read : takeWord true (['\x27', '\x27'] ++ more)
      { rest := ['\x27', '\x27'] ++ more, mark } taken =
      takeWord true ('\x27' :: more) { rest := more, mark := mark.advance 2 }
        ('\x27' :: taken) := by
    simp [takeWord, solid, Cursor.skip]
  rw [read]
  exact takeWord_bound (Nat.le_succ _) (Nat.le_refl _)

/-! ## Escapes -/

/-- Every hexadecimal digit is read as its value. -/
theorem hexadecimalValue?_digitChar :
    ∀ value < 16, hexadecimalValue? (Nat.digitChar value).toUpper = some value := by
  decide

/-- Hexadecimal digits are read as the number they are written for, as far as they go. -/
theorem hexadecimal?_digits (count value : Nat) :
    hexadecimal? (hexadecimalDigits count value) = some (value % 16 ^ count) := by
  induction count generalizing value with
  | zero => simp [hexadecimalDigits, hexadecimal?, Nat.mod_one]
  | succ count ih =>
    have last := hexadecimalValue?_digitChar (value % 16) (Nat.mod_lt _ (by decide))
    have split : value / 16 % 16 ^ count * 16 + value % 16 = value % 16 ^ (count + 1) := by
      rw [Nat.pow_succ', Nat.mod_mul]
      omega
    simp only [hexadecimal?] at ih
    simp only [hexadecimalDigits, hexadecimal?, List.foldlM_append, ih, List.foldlM_cons,
      List.foldlM_nil, last, Option.bind_eq_bind, Option.bind_some, Option.map_some, split,
      Option.pure_def]

/-- There are as many digits as asked for. -/
theorem length_hexadecimalDigits (count value : Nat) :
    (hexadecimalDigits count value).length = count := by
  induction count generalizing value with
  | zero => rfl
  | succ count ih => simp [hexadecimalDigits, ih]

/-- The code of a character is that of no other. -/
theorem charOfCode?_toNat (char : Char) : charOfCode? char.toNat = some char := by
  have valid : char.toNat.isValidChar := char.valid
  simp [charOfCode?, valid, Char.ofNat_toNat]

/-- A letter and as many digits as it asks for give the character of their number. -/
theorem escape?_digits {letter char : Char} {count : Nat} (more : List Char)
    (asks : digitCount? letter = some count) (small : char.toNat < 16 ^ count) :
    escape? (letter :: hexadecimalDigits count char.toNat ++ more) = some (char, count + 1) := by
  have length := length_hexadecimalDigits count char.toNat
  have taken : (hexadecimalDigits count char.toNat ++ more).take count =
      hexadecimalDigits count char.toNat := by
    rw [List.take_append_of_le_length (by omega), List.take_of_length_le (by omega)]
  have enough : ¬(hexadecimalDigits count char.toNat ++ more).length < count := by
    simp [length]
  simp only [List.cons_append, escape?, asks, taken, hexadecimal?_digits,
    Nat.mod_eq_of_lt small, charOfCode?_toNat, if_neg enough, Option.pure_def,
    Option.bind_eq_bind, Option.bind_some]

/-- What stands after the backslash of an escape. -/
def escapeCode (char : Char) : List Char := (escape char).tail

/-- An escape is a backslash and its code. -/
theorem escape_eq (char : Char) : escape char = '\\' :: escapeCode char := rfl

/-- The code of an escape is read as its character, whatever follows. -/
theorem escape?_escapeCode (char : Char) (more : List Char) :
    escape? (escapeCode char ++ more) = some (char, (escapeCode char).length) := by
  have table : ∀ pair ∈ Printer.escapeLetters,
      digitCount? pair.2 = none ∧ letterEscapes.lookup pair.2 = some pair.1 := by decide
  simp only [escapeCode, escape, List.tail_cons]
  cases found : Printer.escapeLetters.lookup char with
  | some letter =>
    obtain ⟨before, after, split, -⟩ := List.lookup_eq_some_iff.mp found
    obtain ⟨letters, meaning⟩ := table (char, letter) (by simp [split])
    simp [escape?, letters, meaning]
  | none =>
    have wide : char.toNat < 16 ^ 8 := UInt32.toNat_lt char.val
    dsimp only
    split
    case isTrue small =>
      rw [escape?_digits more rfl (by omega), List.length_cons, length_hexadecimalDigits]
    case isFalse =>
      split
      case isTrue middle =>
        rw [escape?_digits more rfl (by omega), List.length_cons, length_hexadecimalDigits]
      case isFalse =>
        rw [escape?_digits more rfl wide, List.length_cons, length_hexadecimalDigits]

/-- The code of an escape starts with no break. -/
theorem escapeCode_head (char : Char) : ∃ letter rest, escapeCode char = letter :: rest ∧
    isBreak letter = false := by
  have table : ∀ pair ∈ Printer.escapeLetters, isBreak pair.2 = false := by decide
  simp only [escapeCode, escape, List.tail_cons]
  cases found : Printer.escapeLetters.lookup char with
  | some letter =>
    obtain ⟨before, after, split, -⟩ := List.lookup_eq_some_iff.mp found
    exact ⟨letter, [], rfl, table (char, letter) (by simp [split])⟩
  | none =>
    dsimp only
    split
    case isTrue => exact ⟨_, _, rfl, by decide⟩
    case isFalse => split <;> exact ⟨_, _, rfl, by decide⟩

/-- An escape stands for its character. -/
theorem spells_escape (char : Char) : Spells false (escape char) char := by
  rw [escape_eq]
  refine ⟨by simp, fun more mark taken => ?_⟩
  obtain ⟨letter, rest, code, solid⟩ := escapeCode_head char
  have meaning := escape?_escapeCode char more
  have gap : isGap '\\' = false := by decide
  have whole : (escapeCode char ++ more).head?.any isBreak = false := by simp [code, solid]
  have dropped :
      ('\\' :: (escapeCode char ++ more)).drop ((escapeCode char).length + 1) = more := by
    simp
  rw [List.cons_append, takeWord]
  simp only [gap, whole, meaning, Cursor.skip, dropped, Bool.false_eq_true, if_false, Char.reduceEq,
    if_true, List.length_cons]
  exact takeWord_bound (by simp) (Nat.le_refl _)

/-! ## Words and gaps -/

/-- A cursor right of the first column is at no marker. -/
theorem not_atDocumentMarker {cursor : Cursor} (right : 0 < cursor.mark.column) :
    cursor.atDocumentMarker = false := by
  have positive : cursor.mark.column ≠ 0 := by omega
  simp [Cursor.atDocumentMarker, Cursor.atMarker, positive]

/-- Characters that stand for one character are taken as it. -/
theorem takeWords_spells {single : Bool} {code more bound taken : List Char} {char unit : Char}
    {mark : Mark} (spells : Spells single code char) (rest : more ≠ [])
    (right : 0 < mark.column) :
    takeWords single (unit :: bound) { rest := code ++ more, mark } taken =
      takeWords single (unit :: bound) { rest := more, mark := mark.advance code.length }
        (char :: taken) := by
  have here : ({ rest := code ++ more, mark } : Cursor).atDocumentMarker = false :=
    not_atDocumentMarker right
  have there : ({ rest := more, mark := mark.advance code.length } :
      Cursor).atDocumentMarker = false :=
    not_atDocumentMarker (by simp only [Mark.advance]; omega)
  have some : (code ++ more).isEmpty = false := by simp [rest]
  have left : more.isEmpty = false := by simpa using rest
  rw [takeWords, takeWords]
  simp only [here, there, some, left, spells.takes, Bool.false_eq_true, if_false]

/-- A word ends where a gap comes next. -/
theorem takeWord_gap {single : Bool} {char : Char} {bound rest taken : List Char} {mark : Mark}
    (gap : isGap char = true) :
    takeWord single bound { rest := char :: rest, mark } taken =
      .ok (taken, { rest := char :: rest, mark }, false) := by
  cases bound <;> simp [takeWord, gap]

/-- A gap is taken as what stays of it. -/
theorem takeWords_gap {single : Bool} {char unit : Char} {rest bound taken : List Char}
    {mark : Mark} {gap : Gap} {next : Cursor} (starts : isGap char = true)
    (right : 0 < mark.column) (taken' : Gap.take 0 (char :: rest) mark {} = (gap, next)) :
    takeWords single (unit :: bound) { rest := char :: rest, mark } taken =
      takeWords single bound next (gap.text.reverse ++ taken) := by
  have here : ({ rest := char :: rest, mark } : Cursor).atDocumentMarker = false :=
    not_atDocumentMarker right
  have quote : char ≠ closing single := by
    rintro rfl
    cases single <;> exact absurd starts (by decide)
  have word : takeWord single (char :: rest) { rest := char :: rest, mark } taken =
      .ok (taken, { rest := char :: rest, mark }, false) := takeWord_gap starts
  rw [takeWords]
  simp only [here, word, List.isEmpty_cons, Bool.false_eq_true, if_false, bind, Except.bind,
    Cursor.peek?, List.head?_cons, Option.some.injEq, ← closing.eq_def, quote, taken']

/-- Spaces are taken as they are. -/
theorem takeWords_spaces {single : Bool} {unit : Char} {more bound taken : List Char}
    {count : Nat} {mark : Mark} (right : 0 < mark.column) (clear : Clear more) :
    takeWords single (unit :: bound) { rest := spaces (count + 1) ++ more, mark } taken =
      takeWords single bound { rest := more, mark := mark.advance (count + 1) }
        ((spaces (count + 1)).reverse ++ taken) := by
  have gap : Gap.take 0 (' ' :: (spaces count ++ more)) mark {} =
      ({ blanks := spaces (count + 1) }, { rest := more, mark := mark.advance (count + 1) }) := by
    have run : Gap.take 0 (spaces (count + 1) ++ more) mark {} = _ :=
      Gap.take_spaces (count + 1) rfl
    rwa [Gap.take_clear clear, List.append_nil] at run
  have starts : isGap ' ' = true := by decide
  refine (takeWords_gap starts right gap).trans ?_
  rw [Gap.text_spaces]

/-- Separators are taken as they are, without the indentation after them. -/
theorem takeWords_breaks {first : Char} {breaks more : List Char} {mark : Mark} (single : Bool)
    (unit : Char) (bound taken : List Char) (indent : Nat)
    (kept : ∀ char ∈ first :: breaks, IsKept char) (separator : first ≠ '\n')
    (right : 0 < mark.column) (clear : Clear more) :
    ∃ after : Mark, after.column = indent ∧
      takeWords single (unit :: bound) { rest := first :: breaks ++ spaces indent ++ more, mark }
          taken =
        takeWords single bound { rest := more, mark := after }
          ((first :: breaks).reverse ++ taken) := by
  obtain ⟨after, column, gap⟩ := Gap.take_breaks 0 indent mark kept clear
  have starts : isGap first = true := by
    simp [isGap, (kept first List.mem_cons_self).isBreak]
  refine ⟨after, column, (takeWords_gap starts right gap).trans ?_⟩
  rw [Gap.text_breaks separator]

/-- The closing quote ends the scalar, when no other quote follows it. -/
theorem takeWords_close {single : Bool} {rest bound taken : List Char} {unit : Char} {mark : Mark}
    (right : 0 < mark.column) (alone : rest.head? ≠ some '\x27') :
    takeWords single (unit :: bound) { rest := closing single :: rest, mark } taken =
      .ok (taken.reverse, { rest, mark := mark.advance 1 }) := by
  have here : ({ rest := closing single :: rest, mark } : Cursor).atDocumentMarker = false :=
    not_atDocumentMarker right
  have word : takeWord single (closing single :: rest) { rest := closing single :: rest, mark }
      taken = .ok (taken, { rest := closing single :: rest, mark }, false) := by
    cases single with
    | true =>
      have solid : isGap '\x27' = false := by decide
      simp [closing, takeWord, solid, alone]
    | false =>
      have solid : isGap '"' = false := by decide
      simp [closing, takeWord, solid]
  rw [takeWords]
  simp only [here, word, List.isEmpty_cons, Bool.false_eq_true, if_false, bind, Except.bind,
    Cursor.peek?, List.head?_cons, ← closing.eq_def, if_true]
  rfl

/-! ## Single quotes -/

/-- What follows a part of a text has a space before a break nowhere if the text has not. -/
theorem spaceBeforeBreak_append (before : List Char) {after : List Char}
    (free : Printer.spaceBeforeBreak (before ++ after) = false) :
    Printer.spaceBeforeBreak after = false := by
  induction before with
  | nil => exact free
  | cons char before ih =>
    cases rest : before ++ after with
    | nil => simp [(List.append_eq_nil_iff.mp rest).2, Printer.spaceBeforeBreak]
    | cons next later =>
      rw [List.cons_append, rest, Printer.spaceBeforeBreak, Bool.or_eq_false_iff] at free
      exact ih (rest ▸ free.2)

/-- What follows a part of a text has a space after a break nowhere if the text has not. -/
theorem spaceAfterBreak_append (before : List Char) {after : List Char}
    (free : Printer.spaceAfterBreak (before ++ after) = false) :
    Printer.spaceAfterBreak after = false := by
  induction before with
  | nil => exact free
  | cons char before ih =>
    cases rest : before ++ after with
    | nil => simp [(List.append_eq_nil_iff.mp rest).2, Printer.spaceAfterBreak]
    | cons next later =>
      rw [List.cons_append, rest, Printer.spaceAfterBreak, Bool.or_eq_false_iff] at free
      exact ih (rest ▸ free.2)

/-- A text on one line, but for separators, that single quotes can hold. -/
structure Fits (text : List Char) : Prop where
  /-- Every character is shown. -/
  shown : ∀ char ∈ text, isShown char = true
  /-- No line ends in the text. -/
  oneLine : '\n' ∉ text
  /-- No space stands in front of a separator. -/
  before : Printer.spaceBeforeBreak text = false
  /-- No space stands behind a separator. -/
  after : Printer.spaceAfterBreak text = false

/-- The end of a text that fits does so too. -/
theorem Fits.append (before : List Char) {after : List Char} (fits : Fits (before ++ after)) :
    Fits after where
  shown char member := fits.shown char (List.mem_append_right _ member)
  oneLine member := fits.oneLine (List.mem_append_right _ member)
  before := spaceBeforeBreak_append before fits.before
  after := spaceAfterBreak_append before fits.after

/-- The characters that are written for one that is no gap. -/
def singleCode (char : Char) : List Char :=
  if char = '\x27' then ['\x27', '\x27'] else [char]

/-- What is written for a character stands for it. -/
theorem spells_singleCode {char : Char} (solid : isGap char = false) :
    Spells true (singleCode char) char := by
  unfold singleCode
  split
  case isTrue quote =>
    subst quote
    exact spells_quote
  case isFalse other => exact spells_plain solid other (by simp)

/-- A character that is no gap is written by its code. -/
theorem singleQuoted_cons {indent : Nat} {char : Char} {text : List Char}
    (solid : isGap char = false) :
    Printer.singleQuoted indent false (char :: text) =
      singleCode char ++ Printer.singleQuoted indent false text := by
  have whole : isBreak char = false := (Bool.or_eq_false_iff.mp solid).2
  simp [Printer.singleQuoted, whole, singleCode]

/-- Spaces are written as they are. -/
theorem singleQuoted_spaces (indent count : Nat) (text : List Char) :
    Printer.singleQuoted indent false (spaces count ++ text) =
      spaces count ++ Printer.singleQuoted indent false text := by
  induction count with
  | zero => rfl
  | succ count ih =>
    have whole : isBreak ' ' = false := by decide
    rw [show spaces (count + 1) = ' ' :: spaces count from rfl, List.cons_append,
      Printer.singleQuoted, ih]
    simp [whole]

/-- After breaks, what follows is indented. -/
theorem singleQuoted_breaks {indent : Nat} {afterBreak : Bool} {first : Char}
    {breaks text : List Char} (each : ∀ char ∈ first :: breaks, isBreak char = true)
    (other : ∀ char ∈ text.head?, isBreak char = false) :
    Printer.singleQuoted indent afterBreak (first :: breaks ++ text) =
      first :: breaks ++ spaces indent ++ Printer.singleQuoted indent false text := by
  induction breaks generalizing first afterBreak with
  | nil =>
    have one := each first List.mem_cons_self
    cases text with
    | nil => simp [Printer.singleQuoted, one]
    | cons char text =>
      have whole := other char rfl
      simp [Printer.singleQuoted, one, whole]
  | cons next breaks ih =>
    obtain ⟨one, others⟩ := List.forall_mem_cons.mp each
    have rest : Printer.singleQuoted indent true (next :: breaks ++ text) = _ := ih others
    simp only [List.cons_append, List.append_assoc] at rest ⊢
    rw [Printer.singleQuoted, if_pos one, rest]

/-- A character that is shown, no space and no break is no gap. -/
theorem isGap_of_isShown {char : Char} (shown : isShown char = true) (space : char ≠ ' ')
    (whole : isBreak char = false) : isGap char = false := by
  rw [isGap, whole, Bool.or_false, ← Bool.not_eq_true]
  exact fun blank => space (eq_space_of_isShown shown blank)

/-- What is written of a text that starts with no gap starts with none, up to the closing quote. -/
theorem clear_singleQuoted {text : List Char} (indent : Nat) (rest : List Char)
    (solid : ∀ char ∈ text.head?, isGap char = false) :
    Clear (Printer.singleQuoted indent false text ++ closing true :: rest) := by
  cases text with
  | nil => exact clear_cons (by decide)
  | cons char text =>
    have solid := solid char rfl
    rw [singleQuoted_cons solid, singleCode]
    split
    case isTrue quote => exact clear_cons (by decide)
    case isFalse => exact clear_cons solid

/-- No space follows breaks in a text that has no space after a break. -/
theorem head_ne_space {first : Char} {breaks later : List Char}
    (each : ∀ char ∈ first :: breaks, isBreak char = true)
    (free : Printer.spaceAfterBreak (first :: breaks ++ later) = false) :
    later.head? ≠ some ' ' := by
  induction breaks generalizing first with
  | nil =>
    intro space
    obtain ⟨rest, rfl⟩ := List.head?_eq_some_iff.mp space
    simp [Printer.spaceAfterBreak, each first List.mem_cons_self] at free
  | cons next breaks ih =>
    exact ih (fun char member => each char (List.mem_cons_of_mem _ member))
      (spaceAfterBreak_append [first] free)

/-- No break follows spaces in a text that has no space before a break. -/
theorem head_not_break {count : Nat} {later : List Char}
    (free : Printer.spaceBeforeBreak (spaces (count + 1) ++ later) = false) :
    ∀ char ∈ later.head?, isBreak char = false := by
  intro char first
  obtain ⟨rest, rfl⟩ := List.head?_eq_some_iff.mp first
  rw [spaces, List.replicate_succ', List.append_assoc] at free
  have last := spaceBeforeBreak_append (List.replicate count ' ') free
  simp only [List.cons_append, List.nil_append, Printer.spaceBeforeBreak, Bool.or_eq_false_iff,
    decide_true, Bool.true_and] at last
  exact last.1

/-- A text is cut after the breaks it starts with. -/
theorem exists_breaks (text : List Char) :
    ∃ breaks later, text = breaks ++ later ∧ (∀ char ∈ breaks, isBreak char = true) ∧
      ∀ char ∈ later.head?, isBreak char = false := by
  refine ⟨text.takeWhile isBreak, text.dropWhile isBreak,
    List.takeWhile_append_dropWhile.symm, List.all_eq_true.mp List.all_takeWhile, ?_⟩
  intro char first
  have found := List.head?_dropWhile_not isBreak text
  rw [Option.mem_def.mp first] at found
  simpa using found

/-- Between single quotes a text that fits is read back. -/
theorem takeWords_singleQuoted {text rest : List Char} {indent : Nat} (bound taken : List Char)
    (mark : Mark) (fits : Fits text) (deep : 0 < indent) (right : 0 < mark.column)
    (alone : rest.head? ≠ some '\x27') (enough : text.length < bound.length) :
    ∃ after : Mark,
      takeWords true bound
          { rest := Printer.singleQuoted indent false text ++ closing true :: rest, mark } taken =
        .ok (taken.reverse ++ text, { rest, mark := after }) := by
  -- The induction is on the length: a run of breaks or of spaces is taken in one go.
  induction size : text.length using Nat.strongRecOn generalizing text bound taken mark with
  | _ size ih =>
    subst size
    obtain ⟨unit, bound, rfl⟩ := List.exists_cons_of_ne_nil (List.ne_nil_of_length_pos
      (Nat.zero_lt_of_lt enough))
    cases text with
    | nil => exact ⟨_, by simpa [Printer.singleQuoted] using takeWords_close right alone⟩
    | cons char text =>
      have shown := fits.shown char List.mem_cons_self
      by_cases starts : isBreak char = true
      · -- Breaks and the indentation after them: no space follows them in the text.
        obtain ⟨breaks, later, rfl, others, ends⟩ := exists_breaks text
        have each : ∀ other ∈ char :: breaks, isBreak other = true :=
          List.forall_mem_cons.mpr ⟨starts, others⟩
        have tail : Fits later := fits.append (char :: breaks)
        have kept : ∀ other ∈ char :: breaks, IsKept other := fun other member =>
          isKept_of_isShown (fits.shown other (List.mem_append_left later member))
            (each other member)
        have separator : char ≠ '\n' := by
          rintro rfl
          exact fits.oneLine List.mem_cons_self
        have clear := clear_singleQuoted indent rest fun other first =>
          isGap_of_isShown (tail.shown other (List.mem_of_mem_head? first))
            (fun space => head_ne_space each fits.after (space ▸ first)) (ends other first)
        obtain ⟨start, column, gap⟩ := takeWords_breaks true unit bound taken indent kept separator
          right clear
        obtain ⟨after, read⟩ := ih later.length
          (by simp only [List.length_cons, List.length_append]; omega) bound
          ((char :: breaks).reverse ++ taken) start tail (by omega)
          (by simp only [List.length_append, List.length_cons] at enough; omega) rfl
        refine ⟨after, ?_⟩
        rw [← List.cons_append, singleQuoted_breaks each ends, List.append_assoc, gap, read]
        simp
      · by_cases space : char = ' '
        · -- Spaces: no break follows them in the text.
          subst space
          obtain ⟨count, later, split, other⟩ := exists_spaces (' ' :: text) rfl
          have size := congrArg List.length split
          rw [split] at fits enough ⊢
          have tail : Fits later := fits.append (spaces (count + 1))
          have clear := clear_singleQuoted indent rest fun found first =>
            isGap_of_isShown (tail.shown found (List.mem_of_mem_head? first))
              (fun space => other (space ▸ first)) (head_not_break fits.before found first)
          obtain ⟨after, read⟩ := ih later.length (by simp [size, spaces]) bound
            ((spaces (count + 1)).reverse ++ taken) (mark.advance (count + 1)) tail
            (by simp only [Mark.advance]; omega) (by simp [spaces] at enough; omega) rfl
          refine ⟨after, ?_⟩
          rw [singleQuoted_spaces, List.append_assoc, takeWords_spaces right clear, read]
          simp
        · have solid := isGap_of_isShown shown space (by simpa using starts)
          have later : Fits text := fits.append [char]
          obtain ⟨after, read⟩ := ih text.length (by simp) (unit :: bound) (char :: taken)
            (mark.advance (singleCode char).length) later
            (by simp only [Mark.advance]; omega) (by simp at enough ⊢; omega) rfl
          refine ⟨after, ?_⟩
          rw [singleQuoted_cons solid, List.append_assoc,
            takeWords_spells (spells_singleCode solid) (by simp) right, read]
          simp

/-- What is written of a text is at least as long. -/
theorem length_singleQuoted (indent : Nat) (afterBreak : Bool) (text : List Char) :
    text.length ≤ (Printer.singleQuoted indent afterBreak text).length := by
  induction text generalizing afterBreak with
  | nil => exact Nat.zero_le _
  | cons char text ih =>
    have rest := ih (isBreak char)
    unfold Printer.singleQuoted
    split
    case isTrue breaks =>
      rw [breaks] at rest
      simpa using rest
    case isFalse solid =>
      have code : 0 < (if char = '\x27' then ['\x27', '\x27'] else [char]).length := by
        split <;> simp
      rw [Bool.eq_false_iff.mpr solid] at rest
      rw [List.length_append, List.length_append, List.length_cons]
      omega

/-- A text that fits is taken from between its single quotes. -/
theorem take_singleQuoted {text rest : List Char} {indent : Nat} (mark : Mark) (fits : Fits text)
    (deep : 0 < indent) (alone : rest.head? ≠ some '\x27') :
    ∃ after : Mark,
      take true
          { rest := '\x27' :: Printer.singleQuoted indent false text ++ '\x27' :: rest, mark } =
        .ok (text, { rest, mark := after }) := by
  have length := length_singleQuoted indent false text
  exact takeWords_singleQuoted _ [] (mark.advance 1) fits deep (by simp [Mark.advance]) alone
    (by simp; omega)

/-! ## Double quotes -/

/-- A character that is written as itself between double quotes. -/
def isLiteral (char : Char) : Bool :=
  isShown char && !isBreak char && char ≠ '"' && char ≠ '\\'

/-- The characters that are written for one. -/
def doubleCode (char : Char) : List Char := if isLiteral char then [char] else escape char

/-- The inside of double quotes is written one character at a time. -/
theorem doubleQuoted_eq (text : List Char) : Printer.doubleQuoted text = text.flatMap doubleCode :=
  rfl

/-- What is written for a character that is no space stands for it. -/
theorem spells_doubleCode {char : Char} (space : char ≠ ' ') :
    Spells false (doubleCode char) char := by
  unfold doubleCode
  split
  case isTrue literal =>
    simp only [isLiteral, Bool.and_eq_true, Bool.not_eq_true', decide_eq_true_eq] at literal
    obtain ⟨⟨⟨shown, whole⟩, quote⟩, backslash⟩ := literal
    exact spells_plain (isGap_of_isShown shown space whole) quote fun _ => backslash
  case isFalse => exact spells_escape char

/-- What is written for a character that is no space starts with no gap. -/
theorem clear_doubleCode {char : Char} (space : char ≠ ' ') (rest : List Char) :
    Clear (doubleCode char ++ rest) := by
  unfold doubleCode
  split
  case isTrue literal =>
    simp only [isLiteral, Bool.and_eq_true, Bool.not_eq_true', decide_eq_true_eq] at literal
    exact clear_cons (isGap_of_isShown literal.1.1.1 space literal.1.1.2)
  case isFalse => exact clear_cons (by decide)

/-- Spaces are written as they are. -/
theorem flatMap_spaces (count : Nat) : (spaces count).flatMap doubleCode = spaces count := by
  have same : doubleCode ' ' = [' '] := by decide
  induction count with
  | zero => rfl
  | succ count ih =>
    rw [show spaces (count + 1) = ' ' :: spaces count from rfl, List.flatMap_cons, same, ih]
    rfl

/-- Between double quotes any text is read back. -/
theorem takeWords_doubleQuoted {text rest : List Char} (bound taken : List Char) (mark : Mark)
    (right : 0 < mark.column) (alone : rest.head? ≠ some '\x27')
    (enough : text.length < bound.length) :
    ∃ after : Mark,
      takeWords false bound
          { rest := Printer.doubleQuoted text ++ closing false :: rest, mark } taken =
        .ok (taken.reverse ++ text, { rest, mark := after }) := by
  rw [doubleQuoted_eq]
  induction size : text.length using Nat.strongRecOn generalizing text bound taken mark with
  | _ size ih =>
    subst size
    obtain ⟨unit, bound, rfl⟩ := List.exists_cons_of_ne_nil (List.ne_nil_of_length_pos
      (Nat.zero_lt_of_lt enough))
    cases text with
    | nil => exact ⟨_, by simpa using takeWords_close right alone⟩
    | cons char text =>
      by_cases space : char = ' '
      · subst space
        obtain ⟨count, later, split, other⟩ := exists_spaces (' ' :: text) rfl
        have size := congrArg List.length split
        rw [split] at enough ⊢
        have clear : Clear (later.flatMap doubleCode ++ closing false :: rest) := by
          cases later with
          | nil => exact clear_cons (by decide)
          | cons next later =>
            rw [List.flatMap_cons, List.append_assoc]
            exact clear_doubleCode (by simpa using other) _
        obtain ⟨after, read⟩ := ih later.length (by simp [size, spaces]) bound
          ((spaces (count + 1)).reverse ++ taken) (mark.advance (count + 1))
          (by simp only [Mark.advance]; omega) (by simp [spaces] at enough; omega) rfl
        refine ⟨after, ?_⟩
        rw [List.flatMap_append, flatMap_spaces, List.append_assoc, takeWords_spaces right clear,
          read]
        simp
      · obtain ⟨after, read⟩ := ih text.length (by simp) (unit :: bound) (char :: taken)
          (mark.advance (doubleCode char).length) (by simp only [Mark.advance]; omega)
          (by simp at enough ⊢; omega) rfl
        refine ⟨after, ?_⟩
        rw [List.flatMap_cons, List.append_assoc,
          takeWords_spells (spells_doubleCode space) (by simp) right, read]
        simp

/-- What is written of a text is at least as long. -/
theorem length_doubleQuoted (text : List Char) :
    text.length ≤ (Printer.doubleQuoted text).length := by
  rw [doubleQuoted_eq]
  induction text with
  | nil => exact Nat.zero_le _
  | cons char text ih =>
    have one : 0 < (doubleCode char).length := by
      unfold doubleCode
      split <;> simp [escape_eq]
    rw [List.flatMap_cons, List.length_append, List.length_cons]
    omega

/-- Any text is taken from between its double quotes. -/
theorem take_doubleQuoted (text : List Char) {rest : List Char} (mark : Mark)
    (alone : rest.head? ≠ some '\x27') :
    ∃ after : Mark,
      take false { rest := '"' :: Printer.doubleQuoted text ++ '"' :: rest, mark } =
        .ok (text, { rest, mark := after }) := by
  have length := length_doubleQuoted text
  exact takeWords_doubleQuoted _ [] (mark.advance 1) (by simp [Mark.advance]) alone (by simp; omega)

end RunningConfig.Yaml.Quoted
