/-!
# Splitting text at a separator

`splitOn` cuts a text at every occurrence of one character. Joining the pieces with that
character gives the text back, no piece holds the separator, and there is always a piece.
-/

namespace RunningConfig.Text

/-- The pieces between the separators, in order; a text without a separator is one piece. -/
def splitOn (separator : Char) : List Char → List (List Char)
  | [] => [[]]
  | char :: rest =>
    if char = separator then [] :: splitOn separator rest
    else
      match splitOn separator rest with
      | [] => [[char]]
      | piece :: pieces => (char :: piece) :: pieces

/-- The pieces of a text that is held as a string. -/
def pieces (separator : Char) (text : String) : List String :=
  (splitOn separator text.toList).map String.ofList

/-- Put a separator between consecutive pieces. -/
def joinWith (separator : Char) : List (List Char) → List Char
  | [] => []
  | [piece] => piece
  | piece :: next :: rest => piece ++ separator :: joinWith separator (next :: rest)

/-- There is always a first piece. -/
theorem splitOn_ne_nil (separator : Char) (text : List Char) : splitOn separator text ≠ [] := by
  cases text with
  | nil => simp [splitOn]
  | cons char rest =>
    simp only [splitOn]
    split
    · simp
    · split <;> simp

/-- Joining the pieces gives the text back. -/
theorem joinWith_splitOn (separator : Char) (text : List Char) :
    joinWith separator (splitOn separator text) = text := by
  induction text with
  | nil => rfl
  | cons char rest ih =>
    simp only [splitOn]
    split
    case isTrue same =>
      subst same
      cases cut : splitOn char rest with
      | nil => exact absurd cut (splitOn_ne_nil _ _)
      | cons piece pieces => rw [cut] at ih; simp [joinWith, ih]
    case isFalse =>
      cases cut : splitOn separator rest with
      | nil => exact absurd cut (splitOn_ne_nil _ _)
      | cons piece pieces =>
        rw [cut] at ih
        cases pieces <;> simp_all [joinWith]

/-- No piece holds the separator. -/
theorem separator_not_mem_of_mem_splitOn {separator : Char} {text piece : List Char}
    (member : piece ∈ splitOn separator text) : separator ∉ piece := by
  induction text generalizing piece with
  | nil => simp [splitOn] at member; simp [member]
  | cons char rest ih =>
    simp only [splitOn] at member
    split at member
    case isTrue =>
      rcases List.mem_cons.mp member with rfl | later
      · simp
      · exact ih later
    case isFalse different =>
      cases cut : splitOn separator rest with
      | nil => exact absurd cut (splitOn_ne_nil _ _)
      | cons first later =>
        rw [cut] at member ih
        rcases List.mem_cons.mp member with rfl | tail
        · simp only [List.mem_cons, not_or]
          exact ⟨fun same => different same.symm, ih List.mem_cons_self⟩
        · exact ih (List.mem_cons_of_mem _ tail)

end RunningConfig.Text
