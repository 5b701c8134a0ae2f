import RunningConfig.Render.Config
import RunningConfig.Text.Split
/-!
# Lines of a text

A text made of lines is cut again at its line feeds. Each line comes back in the pieces it is cut
into itself, and an empty piece stands for what follows the last line feed. So the lines come back
as they are exactly when none of them holds a line feed.
-/

namespace RunningConfig.Text

/-- A text without a line feed. -/
def Unbroken (text : String) : Prop := '\n' ∉ text.toList

instance (text : String) : Decidable (Unbroken text) := by unfold Unbroken; infer_instance

/-- Two texts joined are unbroken exactly when each is. -/
@[simp] theorem unbroken_append {left right : String} :
    Unbroken (left ++ right) ↔ Unbroken left ∧ Unbroken right := by
  simp [Unbroken]

/-- Texts joined by an unbroken separator are unbroken when each is. -/
theorem unbroken_intercalate {separator : String} {texts : List String}
    (between : Unbroken separator) (each : ∀ text ∈ texts, Unbroken text) :
    Unbroken (separator.intercalate texts) := by
  induction texts with
  | nil => simp [Unbroken]
  | cons text texts ih =>
    obtain ⟨first, rest⟩ := List.forall_mem_cons.mp each
    cases texts with
    | nil => simpa using first
    | cons next texts =>
      rw [String.intercalate_cons_cons, unbroken_append, unbroken_append]
      exact ⟨⟨first, between⟩, ih rest⟩

/-! ## Splitting at a separator -/

/-- Cutting at a separator is the split of the list library. -/
theorem splitOn_eq (separator : Char) (text : List Char) :
    splitOn separator text = text.splitOn separator := by
  induction text with
  | nil => rfl
  | cons char rest ih =>
    rw [splitOn, List.splitOn_cons_eq_if_modifyHead, ih]
    by_cases same : char = separator
    · simp [same]
    · cases cut : rest.splitOn separator with
      | nil => exact absurd cut (List.splitOn_ne_nil _ _)
      | cons piece pieces => simp [same]

/-- A text around a separator is cut there, and its two sides on their own. -/
theorem splitOn_append_cons (separator : Char) (before after : List Char) :
    splitOn separator (before ++ separator :: after) =
      splitOn separator before ++ splitOn separator after := by
  simp only [splitOn_eq, List.splitOn_append_cons_self]

/-- A text without the separator is one piece. -/
theorem splitOn_of_not_mem {separator : Char} {text : List Char} (free : separator ∉ text) :
    splitOn separator text = [text] := by
  rw [splitOn_eq, List.splitOn_eq_singleton free]

/-- A text that does not end with the separator ends with the end of its last piece. -/
theorem splitOn_concat {separator last : Char} (other : last ≠ separator) (text : List Char) :
    ∃ pieces piece, splitOn separator (text ++ [last]) = pieces ++ [piece ++ [last]] := by
  induction text with
  | nil => exact ⟨[], [], by simp [splitOn, other]⟩
  | cons char text ih =>
    obtain ⟨pieces, piece, cut⟩ := ih
    by_cases same : char = separator
    · refine ⟨[] :: pieces, piece, ?_⟩
      rw [List.cons_append, splitOn, if_pos same, cut, List.cons_append]
    · rw [List.cons_append, splitOn, if_neg same, cut]
      cases pieces with
      | nil => exact ⟨[], char :: piece, rfl⟩
      | cons first pieces => exact ⟨(char :: first) :: pieces, piece, rfl⟩

/-- A text is its only piece exactly when it does not hold the separator. -/
theorem pieces_eq_singleton {separator : Char} {text : String} :
    pieces separator text = [text] ↔ separator ∉ text.toList := by
  constructor
  · intro single
    have member : text ∈ pieces separator text := by simp [single]
    obtain ⟨piece, inside, rfl⟩ := List.mem_map.mp member
    rw [String.toList_ofList]
    exact separator_not_mem_of_mem_splitOn inside
  · intro free
    simp only [pieces, splitOn_of_not_mem free, List.map_cons, List.map_nil, String.ofList_toList]

/-- Texts come back from being cut exactly when none of them holds the separator. -/
theorem flatMap_pieces_eq_self {separator : Char} {texts : List String} :
    texts.flatMap (pieces separator) = texts ↔ ∀ text ∈ texts, separator ∉ text.toList := by
  constructor
  · intro same text member
    rw [← same] at member
    obtain ⟨whole, _, piece⟩ := List.mem_flatMap.mp member
    obtain ⟨chars, inside, rfl⟩ := List.mem_map.mp piece
    rw [String.toList_ofList]
    exact separator_not_mem_of_mem_splitOn inside
  · intro free
    have each : ∀ text ∈ texts, pieces separator text = [text] := fun text member =>
      pieces_eq_singleton.mpr (free text member)
    rw [List.flatMap_def, List.map_congr_left each, ← List.flatMap_def, List.flatMap_singleton']

end RunningConfig.Text

namespace RunningConfig.Config

open Text (Unbroken splitOn pieces)

/-- A text of lines is each line followed by a line feed. -/
theorem toList_textOfLines {lines : List String} (nonempty : lines ≠ []) :
    (textOfLines lines).toList = lines.flatMap fun line => line.toList ++ ['\n'] := by
  induction lines with
  | nil => contradiction
  | cons line lines ih =>
    cases lines with
    | nil => simp [textOfLines]
    | cons next lines =>
      have rest := ih (by simp)
      simp only [textOfLines, String.toList_append] at rest
      simp only [textOfLines, String.intercalate_cons_cons, String.toList_append,
        List.flatMap_cons, List.append_assoc] at rest ⊢
      rw [rest]
      rfl

/-- A text of lines is cut into the pieces of its lines and an empty one. -/
theorem pieces_textOfLines {lines : List String} (nonempty : lines ≠ []) :
    pieces '\n' (textOfLines lines) = lines.flatMap (pieces '\n') ++ [""] := by
  have cut (lines : List String) :
      splitOn '\n' (lines.flatMap fun line => line.toList ++ ['\n']) =
        (lines.flatMap fun line => splitOn '\n' line.toList) ++ [[]] := by
    induction lines with
    | nil => rfl
    | cons line lines ih =>
      rw [List.flatMap_cons, List.append_assoc, List.singleton_append, Text.splitOn_append_cons, ih,
        List.flatMap_cons, List.append_assoc]
  rw [pieces, toList_textOfLines nonempty, cut, List.map_append, List.map_flatMap]
  rfl

/-- Lines come back from their text exactly when none of them holds a line feed. -/
theorem pieces_textOfLines_eq {lines : List String} (nonempty : lines ≠ []) :
    pieces '\n' (textOfLines lines) = lines ++ [""] ↔ ∀ line ∈ lines, Unbroken line := by
  rw [pieces_textOfLines nonempty, List.append_left_inj, Text.flatMap_pieces_eq_self]
  rfl

/-- Lines without line feeds are known from their text. -/
theorem textOfLines_inj {left right : List String} (leftNonempty : left ≠ [])
    (rightNonempty : right ≠ []) (leftFree : ∀ line ∈ left, Unbroken line)
    (rightFree : ∀ line ∈ right, Unbroken line)
    (same : textOfLines left = textOfLines right) : left = right := by
  have ofLeft := (pieces_textOfLines_eq leftNonempty).mpr leftFree
  have ofRight := (pieces_textOfLines_eq rightNonempty).mpr rightFree
  rw [same, ofRight] at ofLeft
  exact (List.append_left_inj _).mp ofLeft.symm

/-- Lines with a line feed after each have a line feed for every line, and no other exactly when no
line holds one. -/
theorem count_flatMap_lines (lines : List String) :
    lines.length ≤ (lines.flatMap fun line => line.toList ++ ['\n']).count '\n' ∧
      ((lines.flatMap fun line => line.toList ++ ['\n']).count '\n' = lines.length ↔
        ∀ line ∈ lines, Unbroken line) := by
  induction lines with
  | nil => simp
  | cons line lines ih =>
    obtain ⟨lower, exact⟩ := ih
    have unbroken : Unbroken line ↔ line.toList.count '\n' = 0 := List.count_eq_zero.symm
    rw [List.forall_mem_cons, ← exact, unbroken, List.flatMap_cons, List.count_append,
      List.count_append, List.count_singleton_self, List.length_cons]
    omega

/-- A text has as many line feeds as it was given lines exactly when no line holds one. -/
theorem count_textOfLines_eq {lines : List String} (nonempty : lines ≠ []) :
    (textOfLines lines).toList.count '\n' = lines.length ↔ ∀ line ∈ lines, Unbroken line := by
  rw [toList_textOfLines nonempty]
  exact (count_flatMap_lines lines).2

end RunningConfig.Config
