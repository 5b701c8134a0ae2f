import RunningConfig.Render.Default
/-!
# Lines by what they start with

A reader of a document picks lines by their first characters, and blocks of lines that begin with
such a line and reach to the next separator. A line whose own first characters differ from the ones
looked for is never picked, whatever text the rest of it holds.
-/

namespace RunningConfig.Text

/-- A text with its characters at hand, so that comparing them decodes nothing. -/
structure Literal where
  /-- The text. -/
  text : String
  /-- Its characters. -/
  letters : List Char
  /-- The characters are those of the text. -/
  spells : String.ofList letters = text

/-- A text that is written out, with the characters it is written with. -/
def literal (text : String) {letters : List Char}
    (spells : String.ofList letters = text := by rfl) : Literal := ⟨text, letters, spells⟩

/-- The characters of a literal are those of its text. -/
theorem Literal.toList_text (text : Literal) : text.text.toList = text.letters := by
  rw [← text.spells, String.toList_ofList]

/-- Two texts that differ at a position that both have. -/
def clashes : List Char → List Char → Bool
  | left :: lefts, right :: rights => left ≠ right || clashes lefts rights
  | _, _ => false

/-- No text begins with one text and with another that clashes with it. -/
theorem not_prefix_of_clashes {start head : List Char} (apart : clashes start head = true)
    (rest : List Char) : ¬start <+: head ++ rest := by
  induction start generalizing head with
  | nil => simp [clashes] at apart
  | cons left start ih =>
    cases head with
    | nil => simp [clashes] at apart
    | cons right head =>
      rw [List.cons_append, List.cons_prefix_cons]
      rintro ⟨rfl, later⟩
      exact ih (by simpa [clashes] using apart) later

/-- A text starts with what it is appended to. -/
theorem startsWith_append (start rest : String) : (start ++ rest).startsWith start = true := by
  rw [String.startsWith_string_iff, String.toList_append]
  exact List.prefix_append _ _

/-- A text starts with whatever its own start does. -/
theorem startsWith_append_of_startsWith {start head : String}
    (begins : head.startsWith start = true) (rest : String) :
    (head ++ rest).startsWith start = true := by
  rw [String.startsWith_string_iff] at begins ⊢
  rw [String.toList_append]
  exact begins.trans (List.prefix_append _ _)

/-- A text does not start with what its own start clashes with. -/
theorem startsWith_append_of_clashes (start head : Literal)
    (apart : clashes start.letters head.letters = true) (rest : String) :
    (head.text ++ rest).startsWith start.text = false := by
  rw [String.startsWith_string_eq_false_iff, String.toList_append, head.toList_text,
    start.toList_text]
  exact not_prefix_of_clashes apart _

/-- A text that starts with another is that text and a rest. -/
theorem exists_of_startsWith {start line : String} (begins : line.startsWith start = true) :
    ∃ rest, line = start ++ rest := by
  obtain ⟨rest, split⟩ := String.startsWith_string_iff.mp begins
  refine ⟨String.ofList rest, ?_⟩
  rw [← String.toList_inj, String.toList_append, String.toList_ofList, split]

/-! ## Lines -/

/-- The lines that start with a text, in order. -/
def starting (start : String) (lines : List String) : List String :=
  lines.filter (·.startsWith start)

section Starting

variable {start : String} {lines : List String}

/-- Lines that start with a text are found part by part. -/
theorem starting_append (front back : List String) :
    starting start (front ++ back) = starting start front ++ starting start back :=
  List.filter_append front back

/-- All lines are found where each starts with the text. -/
theorem starting_eq_self (each : ∀ line ∈ lines, line.startsWith start = true) :
    starting start lines = lines := List.filter_eq_self.mpr each

/-- No line is found where none starts with the text. -/
theorem starting_eq_nil (none : ∀ line ∈ lines, line.startsWith start = false) :
    starting start lines = [] :=
  List.filter_eq_nil_iff.mpr fun line member => Bool.eq_false_iff.mp (none line member)

/-- A line is found exactly when it is there and starts with the text. -/
theorem mem_starting {line : String} :
    line ∈ starting start lines ↔ line ∈ lines ∧ line.startsWith start = true := List.mem_filter

end Starting

/-! ## Blocks -/

/-- The blocks of some lines: from each line that starts with a text up to the next separator. -/
def blocks (start : String) : List String → List (List String)
  | [] => []
  | line :: lines =>
    if line.startsWith start then
      (line :: lines.takeWhile (· ≠ Default.placeholder)) :: blocks start lines
    else blocks start lines

section Blocks

variable {start : String}

/-- Lines that do not start with the text begin no block. -/
theorem blocks_append {front : List String} (none : ∀ line ∈ front, line.startsWith start = false)
    (back : List String) : blocks start (front ++ back) = blocks start back := by
  induction front with
  | nil => rfl
  | cons line front ih =>
    obtain ⟨first, others⟩ := List.forall_mem_cons.mp none
    rw [List.cons_append, blocks, first]
    exact ih others

/-- There is no block where no line starts with the text. -/
theorem blocks_eq_nil {lines : List String} (none : ∀ line ∈ lines, line.startsWith start = false) :
    blocks start lines = [] := by
  have rest := blocks_append none []
  rwa [List.append_nil] at rest

/-- Lines of which the first one starts with a text, and that hold no other such line and no
separator. -/
def IsBlock (start : String) (block : List String) : Prop :=
  ∃ line body, block = line :: body ∧ line.startsWith start = true ∧
    ∀ other ∈ body, other.startsWith start = false ∧ other ≠ Default.placeholder

/-- A block before a separator is the first one of the lines. -/
theorem blocks_block {block : List String} (isBlock : IsBlock start block)
    (separator : Default.placeholder.startsWith start = false) (rest : List String) :
    blocks start (block ++ Default.placeholder :: rest) = block :: blocks start rest := by
  obtain ⟨line, body, rfl, begins, others⟩ := isBlock
  have taken :
      (body ++ Default.placeholder :: rest).takeWhile (· ≠ Default.placeholder) = body := by
    rw [List.takeWhile_append_of_pos fun other member => decide_eq_true (others other member).2]
    simp
  have none : ∀ other ∈ body ++ [Default.placeholder], other.startsWith start = false :=
    List.forall_mem_append.mpr
      ⟨fun other member => (others other member).1, List.forall_mem_singleton.mpr separator⟩
  have later := blocks_append none rest
  rw [List.append_assoc, List.singleton_append] at later
  rw [List.cons_append, blocks, begins, if_pos rfl, taken, later]

/-- Blocks with a separator after each are the first ones of the lines. -/
theorem blocks_flatMap {parts : List (List String)} (each : ∀ block ∈ parts, IsBlock start block)
    (separator : Default.placeholder.startsWith start = false) (rest : List String) :
    blocks start (parts.flatMap (· ++ [Default.placeholder]) ++ rest) =
      parts ++ blocks start rest := by
  induction parts with
  | nil => rfl
  | cons block parts ih =>
    obtain ⟨first, others⟩ := List.forall_mem_cons.mp each
    rw [List.flatMap_cons, List.append_assoc, List.append_assoc, List.singleton_append,
      blocks_block first separator, ih others, List.cons_append]

/-- The lines that start with the text are the first ones of the blocks. -/
theorem filterMap_head?_blocks (lines : List String) :
    (blocks start lines).filterMap List.head? = starting start lines := by
  unfold starting
  induction lines with
  | nil => rfl
  | cons line lines ih =>
    cases begins : line.startsWith start with
    | true => simp [blocks, begins, ih]
    | false => simp [blocks, begins, ih]

end Blocks

end RunningConfig.Text
