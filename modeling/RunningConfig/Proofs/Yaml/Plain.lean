import RunningConfig.Proofs.Yaml.Gap
import RunningConfig.Yaml.Plain
/-!
# Plain scalars that are printed

A text that can be plain has words with spaces between them and nothing in it that would end it
early: no comment, no colon with a gap after it. So it is taken whole, up to the end of its line,
and the scalar ends there because the next line is not indented far enough. A key ends at its colon.
-/

namespace RunningConfig.Yaml

open Printer (isShown spaces holdsIndicator)

/-- A run of spaces is cut off in front of what is none. -/
theorem exists_spaces (rest : List Char) (space : rest.head? = some ' ') :
    ∃ count later, rest = spaces (count + 1) ++ later ∧ later.head? ≠ some ' ' := by
  induction rest with
  | nil => contradiction
  | cons char rest ih =>
    obtain rfl : char = ' ' := by simpa using space
    by_cases more : rest.head? = some ' '
    · obtain ⟨count, later, rfl, other⟩ := ih more
      exact ⟨count + 1, later, rfl, other⟩
    · exact ⟨0, rest, rfl, more⟩

namespace Plain

/-- Outside flow collections no colon is stray. -/
theorem isStrayColon_block (rest : List Char) : isStrayColon false rest = false := by
  unfold isStrayColon
  split <;> rfl

/-- A word of a text without indicators goes up to the next gap. -/
theorem takeWord_printed {afterGap : Bool} {text after : List Char} (taken : List Char)
    (free : holdsIndicator afterGap text = false) (ends : atGap after = true) :
    takeWord false (text ++ after) taken =
      (taken.reverse ++ text.takeWhile (!isGap ·), text.dropWhile (!isGap ·) ++ after) := by
  induction text generalizing afterGap taken with
  | nil =>
    cases after with
    | nil => simp [takeWord]
    | cons char after =>
      have gap : isGap char = true := ends
      simp [takeWord, gap]
  | cons char text ih =>
    simp only [holdsIndicator, Bool.or_eq_false_iff] at free
    obtain ⟨⟨colon, -⟩, free⟩ := free
    by_cases gap : isGap char = true
    · simp [takeWord, gap]
    · have inside : (decide (char = ':') && atGap (text ++ after)) = false := by
        cases text with
        | nil => simp_all [atGap]
        | cons next text => exact colon
      rw [List.cons_append, takeWord]
      simp only [gap, inside, isStrayColon_block, Bool.false_and, Bool.or_false, Bool.false_eq_true,
        if_false, ih (char :: taken) free]
      simp [gap]

/-- What follows a gap in a text without indicators has none either. -/
theorem holdsIndicator_append {afterGap : Bool} {before after : List Char}
    (free : holdsIndicator afterGap (before ++ ' ' :: after) = false) :
    holdsIndicator true after = false := by
  induction before generalizing afterGap with
  | nil =>
    simp only [List.nil_append, holdsIndicator, Bool.or_eq_false_iff] at free
    exact free.2
  | cons char before ih =>
    simp only [List.cons_append, holdsIndicator, Bool.or_eq_false_iff] at free
    exact ih free.2

/-- A text that a plain scalar goes on with: shown characters on one line, with no space at either
end, no comment at its start and no indicator in it. -/
structure Fits (afterGap : Bool) (text : List Char) : Prop where
  /-- There is a character to go on with. -/
  nonempty : text ≠ []
  /-- Every character is shown and stays on the line. -/
  shown : ∀ char ∈ text, isShown char = true ∧ isBreak char = false
  /-- No space comes first. -/
  head : text.head? ≠ some ' '
  /-- No space comes last. -/
  last : text.getLast? ≠ some ' '
  /-- No comment is started. -/
  comment : text.head? ≠ some '#'
  /-- Nothing in the text is read as an indicator. -/
  free : holdsIndicator afterGap text = false

/-- A text that can be plain and is not empty fits. -/
theorem fits_of_fitsPlain {text : List Char} (fits : Printer.fitsPlain text = true)
    (nonempty : text ≠ []) : Fits false text := by
  simp only [Printer.fitsPlain, Bool.and_eq_true, Bool.not_eq_true', List.all_eq_true] at fits
  obtain ⟨⟨⟨⟨⟨shown, head⟩, last⟩, -⟩, indicator⟩, free⟩ := fits
  refine ⟨nonempty, shown, ?_, ?_, ?_, free⟩
  · intro space
    simp [space] at head
  · intro space
    simp [space] at last
  · intro comment
    obtain ⟨rest, rfl⟩ := List.head?_eq_some_iff.mp comment
    exact absurd indicator (by simp [Printer.startsWithIndicator, isIndicator])

/-- A text that fits starts with no gap. -/
theorem Fits.clear {afterGap : Bool} {text : List Char} (fits : Fits afterGap text)
    (after : List Char) : Clear (text ++ after) := by
  obtain ⟨first, others, rfl⟩ := List.exists_cons_of_ne_nil fits.nonempty
  obtain ⟨shown, whole⟩ := fits.shown first List.mem_cons_self
  refine clear_cons ?_
  rw [isGap, whole, Bool.or_false, ← Bool.not_eq_true]
  intro blank
  have head := fits.head
  rw [eq_space_of_isShown shown blank] at head
  contradiction

/-- What follows spaces in a text that fits does so too, when no space is left at its start. -/
theorem Fits.later {afterGap : Bool} {word rest : List Char} {count : Nat}
    (fits : Fits afterGap (word ++ (spaces (count + 1) ++ rest)))
    (head : rest.head? ≠ some ' ') : Fits true rest := by
  have joined : word ++ (spaces (count + 1) ++ rest) = word ++ spaces count ++ ' ' :: rest := by
    simp [spaces, List.replicate_succ']
  rw [joined] at fits
  have free := holdsIndicator_append fits.free
  have nonempty : rest ≠ [] := by
    rintro rfl
    exact absurd fits.last (by simp)
  refine ⟨nonempty, fun char member => fits.shown char (by simp [member]), head, ?_, ?_, free⟩
  · have last := fits.last
    rwa [List.getLast?_append, List.getLast?_cons_of_ne_nil nonempty,
      List.getLast?_eq_some_getLast nonempty, Option.some_or,
      ← List.getLast?_eq_some_getLast nonempty] at last
  · intro comment
    obtain ⟨others, rfl⟩ := List.head?_eq_some_iff.mp comment
    simp [holdsIndicator] at free

/-- One word is taken and the gap after it; the scalar ends there if the next line is not indented
far enough. -/
theorem takeWords_word {floor : Nat} {unit : Char} {bound text word rest : List Char}
    {cursor next : Cursor} {gap after : Gap} {stop : Mark}
    (cut : takeWord false cursor.rest [] = (word, rest)) (nonempty : word ≠ [])
    (marker : cursor.atDocumentMarker = false) (comment : cursor.peek? ≠ some '#')
    (more : rest ≠ []) (ends : atGap rest = true)
    (taken : Gap.take floor rest (cursor.mark.advance word.length) {} = (after, next))
    (fine : after.badTab = none) :
    takeWords false floor (unit :: bound) cursor text gap stop =
      if next.mark.column < floor then
        .ok { text := (word.reverse ++ (gap.text.reverse ++ text)).reverse,
              stop := cursor.mark.advance word.length, cursor := next, broken := after.broken }
      else
        takeWords false floor bound next (word.reverse ++ (gap.text.reverse ++ text)) after
          (cursor.mark.advance word.length) := by
  have full : word.isEmpty = false := by simpa using nonempty
  have rest : rest.isEmpty = false := by simpa using more
  rw [takeWords]
  simp only [cut, marker, comment, isStrayColon_block, full, rest, ends, taken, fine,
    Bool.false_eq_true, decide_false, Bool.or_self, Bool.not_true, Bool.not_false, Bool.true_and,
    if_false, decide_eq_true_eq]

/-- A text that fits starts with a word, which is taken up to a gap or to the end of the text. -/
theorem Fits.cut {text rest : List Char} {afterGap : Bool} (fits : Fits afterGap text)
    (ends : atGap rest = true) :
    ∃ word later, text = word ++ later ∧ word ≠ [] ∧
      takeWord false (text ++ rest) [] = (word, later ++ rest) ∧
      ∀ char ∈ later.head?, isGap char = true := by
  refine ⟨text.takeWhile (!isGap ·), text.dropWhile (!isGap ·),
    List.takeWhile_append_dropWhile.symm, ?_, takeWord_printed [] fits.free ends, ?_⟩
  · have clear := fits.clear []
    obtain ⟨first, others, rfl⟩ := List.exists_cons_of_ne_nil fits.nonempty
    simp [clear first rfl]
  · intro char first
    have found := List.head?_dropWhile_not (!isGap ·) text
    rw [Option.mem_def.mp first] at found
    simpa using found

/-- The words of a text that fits are taken up to the end of its line. The bound is on the words
still to come, and the gap is the one in front of them. -/
theorem takeWords_printed {text next bound : List Char} {afterGap : Bool} {column floor : Nat}
    (taken : List Char) (gap : Gap) (mark stop : Mark) (fits : Fits afterGap text)
    (clear : Clear next) (outside : column < floor) (inside : floor ≤ mark.column)
    (enough : text.length ≤ bound.length) :
    ∃ stop' after : Mark, after.column = column ∧
      takeWords false floor bound { rest := text ++ '\n' :: (spaces column ++ next), mark } taken
          gap stop =
        .ok { text := taken.reverse ++ (gap.text ++ text), stop := stop',
              cursor := { rest := next, mark := after }, broken := true } := by
  induction bound generalizing text taken afterGap mark stop gap with
  | nil => exact absurd (List.length_eq_zero_iff.mp (Nat.le_zero.mp enough)) fits.nonempty
  | cons unit bound ih =>
    have marker : ({ rest := text ++ '\n' :: (spaces column ++ next), mark } :
        Cursor).atDocumentMarker = false := by
      have positive : mark.column ≠ 0 := by omega
      simp [Cursor.atDocumentMarker, Cursor.atMarker, positive]
    have plain : ({ rest := text ++ '\n' :: (spaces column ++ next), mark } :
        Cursor).peek? ≠ some '#' := by
      obtain ⟨first, others, rfl⟩ := List.exists_cons_of_ne_nil fits.nonempty
      simpa [Cursor.peek?] using fits.comment
    have ends : atGap ('\n' :: (spaces column ++ next)) = true := rfl
    obtain ⟨word, later, parts, nonempty, cut, stops⟩ := fits.cut ends
    cases later with
    | nil =>
      -- The last word: the gap after it is the end of the line.
      have kept : ∀ char ∈ ['\n'], IsKept char := by simp [IsKept]
      obtain ⟨after, same, taken'⟩ := Gap.take_breaks floor column (mark.advance word.length) kept
        clear
      refine ⟨mark.advance word.length, after, same, ?_⟩
      rw [takeWords_word cut nonempty marker plain (by simp) rfl taken' rfl,
        if_pos (by simpa [same] using outside)]
      simp [parts]
    | cons blank others =>
      -- The gap is spaces, and what follows them is again a text of this kind.
      obtain ⟨shown, whole⟩ := fits.shown blank (by simp [parts])
      obtain rfl : blank = ' ' :=
        eq_space_of_isShown shown (by simpa [isGap, whole] using stops blank rfl)
      obtain ⟨count, rest, split, head⟩ := exists_spaces (' ' :: others) rfl
      rw [split] at parts cut
      subst parts
      have later := fits.later head
      have taken' : Gap.take floor (spaces (count + 1) ++ rest ++ '\n' :: (spaces column ++ next))
          (mark.advance word.length) {} =
          ({ blanks := spaces (count + 1) },
            { rest := rest ++ '\n' :: (spaces column ++ next),
              mark := (mark.advance word.length).advance (count + 1) }) := by
        rw [List.append_assoc, Gap.take_spaces _ rfl, Gap.take_clear (later.clear _),
          List.append_nil]
      obtain ⟨stop', after, same, rest'⟩ := ih (word.reverse ++ (gap.text.reverse ++ taken))
        { blanks := spaces (count + 1) } ((mark.advance word.length).advance (count + 1))
        (mark.advance word.length) later (by simp only [Mark.advance]; omega)
        (by simp [spaces] at enough; omega)
      refine ⟨stop', after, same, ?_⟩
      rw [takeWords_word cut nonempty marker plain (by simp [spaces, List.replicate_succ]) rfl
        taken' rfl, if_neg (by simp only [Mark.advance]; omega), rest']
      simp [Gap.text_spaces]

/-- A text that can be plain is taken whole where its line ends and the next one is not indented
far enough. -/
theorem take_printed {text next : List Char} {column floor : Nat} (mark : Mark)
    (fits : Printer.fitsPlain text = true) (nonempty : text ≠ []) (clear : Clear next)
    (outside : column < floor) (inside : floor ≤ mark.column) :
    ∃ stop after : Mark, after.column = column ∧
      take false floor { rest := text ++ '\n' :: (spaces column ++ next), mark } =
        .ok { text, stop, cursor := { rest := next, mark := after }, broken := true } :=
  takeWords_printed [] {} mark mark (fits_of_fitsPlain fits nonempty) clear outside inside (by simp)

/-! ## Keys -/

/-- A name that may stand as a key: it starts with a letter, goes on with characters of names, and
is short enough for its colon to be looked for. -/
structure IsKey (name : List Char) : Prop where
  /-- A letter comes first. -/
  starts : ∃ first rest, name = first :: rest ∧ first.isAlpha = true
  /-- Every character may stand in a name. -/
  chars : ∀ char ∈ name, isNameChar char = true
  /-- The colon is within reach. -/
  short : name.length ≤ 1024

/-- A name is a key by what it starts with, its characters and its length. -/
theorem isKey_iff {name : List Char} :
    (name.head?.any Char.isAlpha && name.all isNameChar && decide (name.length ≤ 1024)) = true ↔
      IsKey name := by
  simp only [Bool.and_eq_true, decide_eq_true_eq, List.all_eq_true]
  constructor
  · rintro ⟨⟨starts, chars⟩, short⟩
    cases name with
    | nil => contradiction
    | cons first rest => exact ⟨⟨first, rest, rfl, starts⟩, chars, short⟩
  · rintro ⟨⟨first, rest, rfl, starts⟩, chars, short⟩
    exact ⟨⟨starts, chars⟩, short⟩

instance (name : List Char) : Decidable (IsKey name) := decidable_of_iff _ isKey_iff

/-- A character of a name is no gap. -/
theorem isGap_of_isNameChar {char : Char} (named : isNameChar char = true) :
    isGap char = false := by
  rw [← Bool.not_eq_true]
  intro gap
  simp only [isGap, isBlank, isBreak, Bool.or_eq_true, decide_eq_true_eq] at gap
  rcases gap with (rfl | rfl) | (((rfl | rfl) | rfl) | rfl) | rfl <;> exact absurd named (by decide)

/-- A character of a name is no colon. -/
theorem ne_colon_of_isNameChar {char : Char} (named : isNameChar char = true) : char ≠ ':' := by
  rintro rfl
  exact absurd named (by decide)

/-- A letter or a digit is no indicator. -/
theorem isIndicator_of_isAlphanum {char : Char} (plain : char.isAlphanum = true) :
    isIndicator char = false := by
  have none : ∀ other ∈ "-?:,[]\x7b\x7d#&*!|>'\"%@`".toList, (!other.isAlphanum) = true :=
    List.all_eq_true.mp (by decide)
  rw [← Bool.not_eq_true]
  intro member
  have found := none char (List.contains_iff_mem.mp member)
  rw [plain] at found
  exact Bool.false_ne_true found

/-- A key is a word up to its colon. -/
theorem takeWord_key {name rest : List Char} (taken : List Char)
    (chars : ∀ char ∈ name, isNameChar char = true) (ends : atGap rest = true) :
    takeWord false (name ++ ':' :: rest) taken = (taken.reverse ++ name, ':' :: rest) := by
  induction name generalizing taken with
  | nil => simp [takeWord, ends]
  | cons char name ih =>
    obtain ⟨first, others⟩ := List.forall_mem_cons.mp chars
    have solid := isGap_of_isNameChar first
    have colon := ne_colon_of_isNameChar first
    rw [List.cons_append, takeWord]
    simp only [solid, colon, isStrayColon_block, decide_false, Bool.false_and, Bool.or_false,
      Bool.false_eq_true, if_false, ih (char :: taken) others]
    simp

/-- A key is taken up to its colon. -/
theorem take_key {name rest : List Char} (floor : Nat) (mark : Mark) (key : IsKey name)
    (ends : atGap rest = true) :
    take false floor { rest := name ++ ':' :: rest, mark } =
      .ok { text := name, stop := mark.advance name.length,
            cursor := { rest := ':' :: rest, mark := mark.advance name.length },
            broken := false } := by
  obtain ⟨first, others, rfl, letter⟩ := key.starts
  have word := takeWord_key [] key.chars ends
  have hyphen : first ≠ '-' := by rintro rfl; exact absurd letter (by decide)
  have dot : first ≠ '.' := by rintro rfl; exact absurd letter (by decide)
  have hash : first ≠ '#' := by rintro rfl; exact absurd letter (by decide)
  have marker : ({ rest := first :: others ++ ':' :: rest, mark } :
      Cursor).atDocumentMarker = false := by
    simp only [Cursor.atDocumentMarker, Cursor.atMarker, List.cons_append]
    split
    · rename_i same
      obtain ⟨rfl, -⟩ := List.cons.inj same
      simp [hyphen, dot]
    · simp
  have comment : ({ rest := first :: others ++ ':' :: rest, mark } : Cursor).peek? ≠ some '#' := by
    simpa [Cursor.peek?] using hash
  have colon : atGap (':' :: rest) = false := rfl
  simp only [take, List.cons_append] at word marker comment ⊢
  rw [takeWords]
  simp only [word, marker, comment, isStrayColon_block, colon, List.reverse_nil, List.nil_append,
    List.isEmpty_cons, Bool.false_eq_true, decide_false, Bool.or_self, Bool.not_false,
    Bool.or_true, if_false, if_true]
  simp [Gap.text]

end Plain

end RunningConfig.Yaml
