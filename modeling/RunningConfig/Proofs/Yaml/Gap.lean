import RunningConfig.Yaml.Gap
import RunningConfig.Yaml.Printer.Scalar
/-!
# Gaps in what is printed

What the printer shows holds three kinds of breaks and one kind of blank. A gap of spaces gives its
spaces back, and a gap of breaks with indentation after them gives its breaks back, so nothing of a
printed text is folded away.
-/

namespace RunningConfig.Yaml

open Printer (isShown spaces)

/-- No blank and no break comes next. -/
def Clear (rest : List Char) : Prop := ∀ char ∈ rest.head?, isGap char = false

/-- The end of a text is clear. -/
theorem clear_nil : Clear [] := by simp [Clear]

/-- A text is clear when its first character is no gap. -/
theorem clear_cons {char : Char} {rest : List Char} (solid : isGap char = false) :
    Clear (char :: rest) := by
  simpa [Clear] using solid

/-- A break that reading leaves as it is. -/
def IsKept (char : Char) : Prop := char = '\n' ∨ char = '\u2028' ∨ char = '\u2029'

/-- A break that is shown is kept. -/
theorem isKept_of_isShown {char : Char} (shown : isShown char = true)
    (breaks : isBreak char = true) : IsKept char := by
  simp only [isBreak, Bool.or_eq_true, decide_eq_true_eq] at breaks
  rcases breaks with (((rfl | rfl) | rfl) | rfl) | rfl
  · exact Or.inl rfl
  · exact absurd shown (by decide)
  · exact absurd shown (by decide)
  · exact Or.inr (Or.inl rfl)
  · exact Or.inr (Or.inr rfl)

/-- A kept break is a break. -/
theorem IsKept.isBreak {char : Char} (kept : IsKept char) : isBreak char = true := by
  rcases kept with rfl | rfl | rfl <;> decide

/-- A kept break stays what it is. -/
theorem IsKept.breakChar {char : Char} (kept : IsKept char) : Gap.breakChar char = char := by
  rcases kept with rfl | rfl | rfl <;> decide

/-- A kept break is no blank. -/
theorem IsKept.isBlank {char : Char} (kept : IsKept char) : isBlank char = false := by
  rcases kept with rfl | rfl | rfl <;> decide

/-- A blank that is shown is a space. -/
theorem eq_space_of_isShown {char : Char} (shown : isShown char = true)
    (blank : isBlank char = true) : char = ' ' := by
  simp only [isBlank, Bool.or_eq_true, decide_eq_true_eq] at blank
  rcases blank with rfl | rfl
  · rfl
  · exact absurd shown (by decide)

/-- What is shown may stand in yaml text. -/
theorem isAllowed_of_isShown {char : Char} (shown : isShown char = true) :
    isAllowed char = true := by
  simp only [isShown, Bool.or_eq_true, Bool.and_eq_true, decide_eq_true_eq] at shown
  rcases shown with ((rfl | ascii) | ⟨wide, -⟩) | high
  · decide
  · simp [isAllowed, ascii]
  · simp [isAllowed, wide]
  · simp [isAllowed, high]

namespace Gap

/-- A gap ends where none comes next. -/
theorem take_clear {floor : Nat} {rest : List Char} {mark : Mark} {gap : Gap}
    (clear : Clear rest) : take floor rest mark gap = (gap, { rest, mark }) := by
  cases rest with
  | nil => rfl
  | cons char rest =>
    have solid : isGap char = false := clear char rfl
    obtain ⟨blank, breaks⟩ := Bool.or_eq_false_iff.mp solid
    unfold take
    split
    case h_1 impossible => contradiction
    case h_2 same =>
      obtain ⟨rfl, rfl⟩ := List.cons.inj same
      exact absurd breaks (by decide)
    case h_3 first later same =>
      obtain ⟨rfl, rfl⟩ := List.cons.inj same
      simp only [blank, breaks, Bool.false_eq_true, if_false]

/-- A space is added to a gap. -/
theorem take_space {floor : Nat} {rest : List Char} {mark : Mark} {gap : Gap} :
    take floor (' ' :: rest) mark gap =
      take floor rest (mark.advance 1) (gap.addBlank floor ' ' mark) := by
  rw [take.eq_def]
  rfl

/-- A kept break is added to a gap as it is. -/
theorem take_kept {floor : Nat} {char : Char} {rest : List Char} {mark : Mark} {gap : Gap}
    (kept : IsKept char) :
    take floor (char :: rest) mark gap =
      take floor rest (mark.nextLine 1) (gap.addBreak char) := by
  rcases kept with rfl | rfl | rfl <;> rw [take.eq_def] <;> rfl

/-- Spaces before any break are blanks of the gap. -/
theorem take_spaces (count : Nat) {floor : Nat} {rest : List Char} {mark : Mark} {gap : Gap}
    (whole : gap.broken = false) :
    take floor (spaces count ++ rest) mark gap =
      take floor rest (mark.advance count) { gap with blanks := spaces count ++ gap.blanks } := by
  induction count generalizing mark gap with
  | zero => simp [spaces, Mark.advance]
  | succ count ih =>
    have moved : (mark.advance 1).advance count = mark.advance (count + 1) := by
      simp [Mark.advance]
      omega
    have grown : gap.addBlank floor ' ' mark = { gap with blanks := ' ' :: gap.blanks } := by
      simp [addBlank, whole]
    have joined : spaces count ++ ' ' :: gap.blanks = spaces (count + 1) ++ gap.blanks := by
      simp [spaces, List.replicate_succ']
    rw [show spaces (count + 1) = ' ' :: spaces count from rfl, List.cons_append, take_space, grown,
      ih, moved, joined]
    · rfl
    · exact whole

/-- Spaces after a break are dropped from the gap. -/
theorem take_indentation (count : Nat) {floor : Nat} {rest : List Char} {mark : Mark} {gap : Gap}
    (broken : gap.broken = true) :
    take floor (spaces count ++ rest) mark gap =
      take floor rest (mark.advance count) gap := by
  induction count generalizing mark with
  | zero => simp [spaces, Mark.advance]
  | succ count ih =>
    have moved : (mark.advance 1).advance count = mark.advance (count + 1) := by
      simp [Mark.advance]
      omega
    have same : gap.addBlank floor ' ' mark = gap := by simp [addBlank, broken]
    rw [show spaces (count + 1) = ' ' :: spaces count from rfl, List.cons_append, take_space, same,
      ih, moved]

/-- Further breaks are kept in their order. -/
theorem take_later {breaks : List Char} (floor : Nat) (rest : List Char) (mark : Mark) (gap : Gap)
    (kept : ∀ char ∈ breaks, IsKept char) (broken : gap.broken = true) (start : mark.column = 0) :
    ∃ after : Mark, after.column = 0 ∧
      take floor (breaks ++ rest) mark gap =
        take floor rest after { gap with later := breaks.reverse ++ gap.later } := by
  induction breaks generalizing mark gap with
  | nil => exact ⟨mark, start, rfl⟩
  | cons char breaks ih =>
    obtain ⟨first, others⟩ := List.forall_mem_cons.mp kept
    have grown : gap.addBreak char = { gap with later := char :: gap.later } := by
      simp [addBreak, broken]
    obtain ⟨after, column, taken⟩ := ih (mark.nextLine 1) { gap with later := char :: gap.later }
      others broken rfl
    refine ⟨after, column, ?_⟩
    rw [List.cons_append, take_kept first, grown, taken]
    simp

/-- A gap of breaks with indentation after them: the breaks are kept, the indentation is not. -/
theorem take_breaks {first : Char} {breaks rest : List Char} (floor indent : Nat) (mark : Mark)
    (kept : ∀ char ∈ first :: breaks, IsKept char) (clear : Clear rest) :
    ∃ after : Mark, after.column = indent ∧
      take floor (first :: breaks ++ spaces indent ++ rest) mark {} =
        ({ first := [first], later := breaks.reverse, broken := true },
          { rest, mark := after }) := by
  obtain ⟨one, others⟩ := List.forall_mem_cons.mp kept
  obtain ⟨after, column, taken⟩ := take_later floor (spaces indent ++ rest) (mark.nextLine 1)
    { first := [first], broken := true } others rfl rfl
  refine ⟨after.advance indent, by simp [Mark.advance, column], ?_⟩
  rw [List.append_assoc, List.cons_append, take_kept one]
  simp only [addBreak, Bool.false_eq_true, if_false]
  rw [taken, take_indentation indent rfl, take_clear clear]
  simp

/-- A gap of spaces stays as it is. -/
theorem text_spaces (count : Nat) : ({ blanks := spaces count } : Gap).text = spaces count := by
  simp [text, spaces]

/-- A gap of separators stays as it is. -/
theorem text_breaks {first : Char} {breaks : List Char} (separator : first ≠ '\n') :
    ({ first := [first], later := breaks.reverse, broken := true } : Gap).text =
      first :: breaks := by
  simp [text, separator]

end Gap

end RunningConfig.Yaml
