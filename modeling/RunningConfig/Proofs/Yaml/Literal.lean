import RunningConfig.Proofs.Yaml.Quoted
import RunningConfig.Yaml.Block
/-!
# Literal scalars that are printed

A literal scalar is read line by line: the breaks of empty lines, the indentation, a line, its
break. The lines with their breaks are the text, and the header says what becomes of the breaks at
the end, so that none is lost and none is added.
-/

namespace RunningConfig.Yaml.Block

open Printer (isShown spaces literalHeader literalLines)

/-! ## The header -/

/-- The chomping under which a text comes back with the breaks it ends with. -/
def chompingOf (text : List Char) : Chomping :=
  match text.reverse with
  | [] => .strip
  | [only] => if isBreak only then .keep else .strip
  | last :: before :: _ =>
    if !isBreak last then .strip else if isBreak before then .keep else .clip

/-- The indicator of a chomping. -/
def Chomping.indicator : Chomping → List Char
  | strip => ['-']
  | clip => []
  | keep => ['+']

/-- A text that starts with a space or a break, so that its indentation has to be given. -/
def startsBlank (text : List Char) : Bool := text.head?.any fun char => char = ' ' || isBreak char

/-- The indentation that the header gives. -/
def incrementOf (text : List Char) : Nat := if startsBlank text then 2 else 0

/-- The header gives the indentation if it has to, and the chomping. -/
theorem literalHeader_eq (text : List Char) :
    literalHeader text =
      '|' :: ((if startsBlank text then ['2'] else []) ++ (chompingOf text).indicator) := by
  have chomping : (match text.reverse with
      | [] => ['-']
      | [only] => if isBreak only then ['+'] else ['-']
      | last :: before :: _ =>
        if !isBreak last then ['-'] else if isBreak before then ['+'] else []) =
      (chompingOf text).indicator := by
    unfold chompingOf
    split <;> (try split) <;> (try split) <;> rfl
  rw [literalHeader, ← chomping]
  rfl

/-- The header is read as it is written. -/
theorem takeHeader_printed (text rest : List Char) (mark : Mark) :
    ∃ after : Mark, after.column = 0 ∧
      takeHeader (({ rest := literalHeader text ++ '\n' :: rest, mark } : Cursor).skip 1) =
        .ok ({ chomping := chompingOf text, increment := incrementOf text },
          { rest, mark := after }) := by
  rw [literalHeader_eq]
  unfold incrementOf
  cases startsBlank text <;> cases chompingOf text <;> exact ⟨_, rfl, rfl⟩

/-! ## Empty lines and indentation -/

/-- Spaces inside the indentation are taken. -/
theorem takeLead_spaces (count : Nat) {indent : Nat} {later : List Char} {mark : Mark}
    {lead : Lead} (inside : indent = 0 ∨ mark.column + count ≤ indent) :
    takeLead indent (spaces count ++ later) mark lead =
      takeLead indent later (mark.advance count) lead := by
  induction count generalizing mark with
  | zero => simp [spaces, Mark.advance]
  | succ count ih =>
    have within : (decide (indent = 0) || decide (mark.column < indent)) = true := by
      simp only [Bool.or_eq_true, decide_eq_true_eq]
      omega
    have moved : (mark.advance 1).advance count = mark.advance (count + 1) := by
      simp [Mark.advance]
      omega
    have right : indent = 0 ∨ (mark.advance 1).column + count ≤ indent := by
      simp only [Mark.advance]
      omega
    have step : takeLead indent (' ' :: (spaces count ++ later)) mark lead =
        takeLead indent (spaces count ++ later) (mark.advance 1) lead := by
      rw [takeLead.eq_def]
      exact if_pos (by rw [within]; rfl)
    rw [show spaces (count + 1) = ' ' :: spaces count from rfl, List.cons_append, step, ih right,
      moved]

/-- A kept break is taken as it is. -/
theorem takeLead_kept {indent : Nat} {char : Char} {rest : List Char} {mark : Mark} {lead : Lead}
    (kept : IsKept char) :
    takeLead indent (char :: rest) mark lead =
      takeLead indent rest (mark.nextLine 1)
        { breaks := char :: lead.breaks, widest := max lead.widest mark.column } := by
  rcases kept with rfl | rfl | rfl <;> rw [takeLead.eq_def] <;> rfl

/-- What is neither a break nor a space inside the indentation ends the lead. -/
theorem takeLead_stop {indent : Nat} {rest : List Char} {mark : Mark} {lead : Lead}
    (line : ∀ char ∈ rest.head?, isBreak char = false ∧ char ≠ '\t' ∧
      (char = ' ' → indent ≠ 0 ∧ indent ≤ mark.column)) :
    takeLead indent rest mark lead =
      .ok ({ lead with widest := max lead.widest mark.column }, { rest, mark }) := by
  cases rest with
  | nil => rfl
  | cons char rest =>
    obtain ⟨whole, tab, space⟩ := line char rfl
    have outside : (decide (char = ' ') && (decide (indent = 0) || decide (mark.column < indent))) =
        false := by
      simp only [Bool.and_eq_false_iff, Bool.or_eq_false_iff, decide_eq_false_iff_not]
      by_cases blank : char = ' '
      · obtain ⟨given, reached⟩ := space blank
        exact Or.inr ⟨given, by omega⟩
      · exact Or.inl blank
    rw [takeLead.eq_def]
    split
    case h_1 impossible => contradiction
    case h_2 same =>
      obtain ⟨rfl, -⟩ := List.cons.inj same
      exact absurd whole (by decide)
    case h_3 first later same =>
      obtain ⟨rfl, rfl⟩ := List.cons.inj same
      simp only [outside, tab, whole, decide_false, Bool.false_and, Bool.false_eq_true, if_false]

/-- The breaks of empty lines are taken, and the indentation after them. -/
theorem takeLead_lines {indent count : Nat} {breaks rest : List Char} (mark : Mark) (lead : Lead)
    (kept : ∀ char ∈ breaks, IsKept char) (start : mark.column = 0)
    (inside : indent = 0 ∨ count ≤ indent)
    (line : ∀ char ∈ rest.head?, isBreak char = false ∧ char ≠ '\t' ∧
      (char = ' ' → indent ≠ 0 ∧ indent ≤ count)) :
    ∃ (widest : Nat) (after : Mark), after.column = count ∧ count ≤ widest ∧
      (breaks = [] → lead.widest ≤ count → widest = count) ∧
      takeLead indent (breaks ++ (spaces count ++ rest)) mark lead =
        .ok ({ breaks := breaks.reverse ++ lead.breaks, widest }, { rest, mark := after }) := by
  induction breaks generalizing mark lead with
  | nil =>
    refine ⟨max lead.widest count, mark.advance count, by simp [Mark.advance, start],
      Nat.le_max_right _ _, fun _ low => Nat.max_eq_right low, ?_⟩
    rw [List.nil_append, takeLead_spaces count (by omega), takeLead_stop (by
      simpa [Mark.advance, start] using line)]
    simp [Mark.advance, start]
  | cons char breaks ih =>
    obtain ⟨first, others⟩ := List.forall_mem_cons.mp kept
    obtain ⟨widest, after, column, wide, -, taken⟩ := ih (mark.nextLine 1)
      { breaks := char :: lead.breaks, widest := max lead.widest mark.column } others rfl
    refine ⟨widest, after, column, wide, by simp, ?_⟩
    rw [List.cons_append, takeLead_kept first, taken]
    simp

/-! ## Lines -/

/-- A line without breaks is written as it is. -/
theorem literalLines_line {indent : Nat} {line rest : List Char}
    (whole : ∀ char ∈ line, isBreak char = false) :
    literalLines indent false (line ++ rest) = line ++ literalLines indent false rest := by
  induction line with
  | nil => rfl
  | cons char line ih =>
    obtain ⟨first, others⟩ := List.forall_mem_cons.mp whole
    simp [literalLines, first, ih others]

/-- Breaks are written as they are. -/
theorem literalLines_breaks {indent : Nat} {afterBreak : Bool} {first : Char}
    {breaks rest : List Char} (each : ∀ char ∈ first :: breaks, isBreak char = true) :
    literalLines indent afterBreak (first :: breaks ++ rest) =
      first :: breaks ++ literalLines indent true rest := by
  induction breaks generalizing first afterBreak with
  | nil => simp [literalLines, each first List.mem_cons_self]
  | cons next breaks ih =>
    obtain ⟨one, others⟩ := List.forall_mem_cons.mp each
    rw [List.cons_append, literalLines, if_pos one, ih others]
    rfl

/-- Breaks at the start of a line are written as they are. -/
theorem literalLines_empty {indent : Nat} {breaks rest : List Char}
    (each : ∀ char ∈ breaks, isBreak char = true) :
    literalLines indent true (breaks ++ rest) = breaks ++ literalLines indent true rest := by
  cases breaks with
  | nil => rfl
  | cons first breaks => exact literalLines_breaks each

/-- A line after breaks is indented. -/
theorem literalLines_indent {indent : Nat} {text : List Char} (nonempty : text ≠ [])
    (line : ∀ char ∈ text.head?, isBreak char = false) :
    literalLines indent true text = spaces indent ++ literalLines indent false text := by
  obtain ⟨char, rest, rfl⟩ := List.exists_cons_of_ne_nil nonempty
  simp [literalLines, line char rfl]

/-- A text is cut at its first break. -/
theorem exists_line (text : List Char) :
    ∃ line rest, text = line ++ rest ∧ (∀ char ∈ line, isBreak char = false) ∧
      ∀ char ∈ rest.head?, isBreak char = true := by
  refine ⟨text.takeWhile (!isBreak ·), text.dropWhile (!isBreak ·),
    List.takeWhile_append_dropWhile.symm, fun char member => ?_, fun char first => ?_⟩
  · simpa using List.all_eq_true.mp List.all_takeWhile char member
  · have found := List.head?_dropWhile_not (!isBreak ·) text
    rw [Option.mem_def.mp first] at found
    simpa using found

/-- A line is taken up to its break. -/
theorem span_line {line rest : List Char} (mark : Mark)
    (whole : ∀ char ∈ line, isBreak char = false)
    (ends : ∀ char ∈ rest.head?, isBreak char = true) :
    Cursor.span { rest := line ++ rest, mark } (!isBreak ·) =
      (line, { rest, mark := mark.advance line.length }) := by
  have inside : ∀ char ∈ line, (!isBreak char) = true := fun char member => by
    simp [whole char member]
  have outside : rest.takeWhile (!isBreak ·) = [] ∧ rest.dropWhile (!isBreak ·) = rest := by
    cases rest with
    | nil => exact ⟨rfl, rfl⟩
    | cons char rest => simp [ends char rfl]
  simp only [Cursor.span, List.takeWhile_append_of_pos inside,
    List.dropWhile_append_of_pos inside, outside, List.append_nil]

/-- A kept break is taken as it is. -/
theorem takeBreak_kept {char : Char} {rest : List Char} {mark : Mark} (kept : IsKept char) :
    Cursor.takeBreak { rest := char :: rest, mark } =
      ([char], { rest, mark := mark.nextLine 1 }) := by
  rcases kept with rfl | rfl | rfl <;> rfl

/-- The lines end where a line is not indented far enough, or at the end. -/
theorem takeLines_stop {literal : Bool} {indent : Nat} {bound : List Char} {cursor : Cursor}
    {lines : Lines} (outside : cursor.mark.column ≠ indent) :
    takeLines literal indent bound cursor lines = .ok (lines, cursor) := by
  cases bound <;> simp [takeLines, outside]

/-- What lines hold so far, with every break. -/
def Lines.content (lines : Lines) : List Char :=
  lines.text.reverse ++ (lines.lastBreak ++ lines.trailing.reverse)

/-- A line is taken with its break and the empty lines after it. -/
theorem takeLines_line {indent count : Nat} {first : Char} {line breaks rest : List Char}
    {mark : Mark} (unit : Char) (bound : List Char) (lines : Lines) (start : mark.column = indent)
    (whole : ∀ char ∈ line, isBreak char = false) (kept : ∀ char ∈ first :: breaks, IsKept char)
    (inside : count ≤ indent)
    (stops : ∀ char ∈ rest.head?, isBreak char = false ∧ char ≠ '\t' ∧
      (char = ' ' → indent ≠ 0 ∧ indent ≤ count)) :
    ∃ (after : Mark) (lines' : Lines), after.column = count ∧
      lines'.content = lines.content ++ (line ++ first :: breaks) ∧
      lines'.lastBreak = [first] ∧ lines'.trailing = breaks.reverse ∧
      takeLines true indent (unit :: bound)
          { rest := line ++ first :: breaks ++ (spaces count ++ rest), mark } lines =
        takeLines true indent bound { rest, mark := after } lines' := by
  obtain ⟨one, others⟩ := List.forall_mem_cons.mp kept
  obtain ⟨widest, after, column, -, -, lead⟩ := takeLead_lines
    ((mark.advance line.length).nextLine 1) {} others rfl (Or.inr inside) stops
  have some : (line ++ first :: breaks ++ (spaces count ++ rest)).isEmpty = false := by simp
  have ends : ∀ char ∈ (first :: (breaks ++ (spaces count ++ rest))).head?,
      isBreak char = true := by
    simpa using one.isBreak
  have cut := span_line mark whole ends
  have gather : line ++ first :: breaks ++ (spaces count ++ rest) =
      line ++ first :: (breaks ++ (spaces count ++ rest)) := by simp
  rw [takeLines]
  simp only [start, some, Bool.not_false, decide_true, Bool.and_self, if_true]
  rw [gather] at *
  simp only [cut, takeBreak_kept one, lead, List.append_nil]
  refine ⟨after, _, column, ?_, ?_, ?_, rfl⟩
  · simp [Lines.content, joint]
  · rfl
  · rfl

/-- The break that ends the last line when the text does not. -/
def ending (text : List Char) : List Char :=
  if text.getLast?.any isBreak then [] else ['\n']

/-- What follows the lines of a printed text: the indentation of the next line, and no gap. -/
structure Next (column indent : Nat) (next : List Char) : Prop where
  /-- No blank and no break comes next. -/
  clear : Clear next
  /-- The next line stands left of the lines of the text. -/
  outside : column < indent

/-- No gap follows, so no line is taken there. -/
theorem Next.stops {column indent : Nat} {next : List Char} (follows : Next column indent next) :
    ∀ char ∈ next.head?, isBreak char = false ∧ char ≠ '\t' ∧
      (char = ' ' → indent ≠ 0 ∧ indent ≤ column) := by
  intro char first
  have solid := follows.clear char first
  refine ⟨(Bool.or_eq_false_iff.mp solid).2, ?_, ?_⟩
  · rintro rfl
    exact absurd solid (by decide)
  · rintro rfl
    exact absurd solid (by decide)

/-- What starts with a line is written from its first character on. -/
theorem head?_literalLines (indent : Nat) (text : List Char) :
    (literalLines indent false text).head? = text.head? := by
  cases text with
  | nil => rfl
  | cons char rest =>
    rw [literalLines]
    split <;> rfl

/-- The end of a text decides what ends its last line. -/
theorem ending_append (before : List Char) {after : List Char} (nonempty : after ≠ []) :
    ending (before ++ after) = ending after := by
  simp [ending, List.getLast?_append, List.getLast?_eq_some_getLast nonempty]

/-- A line without breaks gets one. -/
theorem ending_of_whole {line : List Char} (whole : ∀ char ∈ line, isBreak char = false) :
    ending line = ['\n'] := by
  unfold ending
  cases last : line.getLast? with
  | none => rfl
  | some char => simp [whole char (List.mem_of_getLast? last)]

/-- Breaks at the end need no other one. -/
theorem ending_of_breaks {breaks : List Char} (nonempty : breaks ≠ [])
    (each : ∀ char ∈ breaks, isBreak char = true) : ending breaks = [] := by
  simp [ending, List.getLast?_eq_some_getLast nonempty, each _ (List.getLast_mem nonempty)]

/-- A text that starts with a line is written with its first character at the indentation, and no
space there is taken for indentation. -/
theorem head?_printed {given indent : Nat} {text : List Char} (rest : List Char)
    (nonempty : text ≠ []) (shown : ∀ char ∈ text, isShown char = true)
    (line : ∀ char ∈ text.head?, isBreak char = false)
    (blank : ' ' ∈ text.head? → given ≠ 0 ∧ given ≤ indent) :
    ∀ char ∈ (literalLines indent false text ++ rest).head?, isBreak char = false ∧ char ≠ '\t' ∧
      (char = ' ' → given ≠ 0 ∧ given ≤ indent) := by
  intro char first
  rw [List.head?_append, head?_literalLines, List.head?_eq_some_head nonempty, Option.some_or,
    ← List.head?_eq_some_head nonempty] at first
  refine ⟨line char first, ?_, ?_⟩
  · rintro rfl
    exact absurd (shown '\t' (List.mem_of_mem_head? first)) (by decide)
  · rintro rfl
    exact blank first

/-- Nothing of a text is left out where it is written. -/
theorem length_le_literalLines (indent : Nat) (afterBreak : Bool) (text : List Char) :
    text.length ≤ (literalLines indent afterBreak text).length := by
  induction text generalizing afterBreak with
  | nil => simp
  | cons char rest ih =>
    rw [literalLines]
    have kept := ih true
    have rest := ih false
    split <;> simp <;> omega

/-- The last line is taken with its breaks, and no line after it. -/
theorem takeLines_last {column indent : Nat} {first : Char} {line breaks next : List Char}
    {mark : Mark} (unit : Char) (bound : List Char) (lines : Lines) (start : mark.column = indent)
    (whole : ∀ char ∈ line, isBreak char = false) (kept : ∀ char ∈ first :: breaks, IsKept char)
    (follows : Next column indent next) :
    ∃ (after : Mark) (lines' : Lines), after.column = column ∧
      lines'.content = lines.content ++ (line ++ first :: breaks) ∧
      (∃ last, lines'.lastBreak = [last] ∧ isBreak last = true) ∧
      (∀ char ∈ lines'.trailing, isBreak char = true) ∧
      takeLines true indent (unit :: bound)
          { rest := line ++ first :: breaks ++ (spaces column ++ next), mark } lines =
        .ok (lines', { rest := next, mark := after }) := by
  obtain ⟨after, lines', same, content, last, trailing, taken⟩ := takeLines_line unit bound
    lines start whole kept (Nat.le_of_lt follows.outside) follows.stops
  obtain ⟨one, others⟩ := List.forall_mem_cons.mp kept
  refine ⟨after, lines', same, content, ⟨first, last, one.isBreak⟩, ?_, ?_⟩
  · rw [trailing]
    exact fun char member => (others char (List.mem_reverse.mp member)).isBreak
  · rw [taken]
    refine takeLines_stop ?_
    rw [same]
    exact Nat.ne_of_lt follows.outside

/-- The lines of a text that starts with a line are taken with all their breaks. -/
theorem takeLines_printed {text next : List Char} {column indent : Nat} {mark : Mark}
    (bound : List Char) (lines : Lines) (nonempty : text ≠ [])
    (shown : ∀ char ∈ text, isShown char = true)
    (line : ∀ char ∈ text.head?, isBreak char = false) (start : mark.column = indent)
    (follows : Next column indent next) (enough : text.length ≤ bound.length) :
    ∃ (after : Mark) (lines' : Lines), after.column = column ∧
      lines'.content = lines.content ++ (text ++ ending text) ∧
      (∃ first, lines'.lastBreak = [first] ∧ isBreak first = true) ∧
      (∀ char ∈ lines'.trailing, isBreak char = true) ∧
      takeLines true indent bound
          { rest := literalLines indent false text ++ (ending text ++ (spaces column ++ next)),
            mark }
          lines =
        .ok (lines', { rest := next, mark := after }) := by
  -- The induction is on the length: a line goes with all the breaks after it.
  induction size : text.length using Nat.strongRecOn generalizing text bound lines mark with
  | _ size ih =>
    subst size
    obtain ⟨unit, bound, rfl⟩ := List.exists_cons_of_ne_nil (List.ne_nil_of_length_pos
      (Nat.lt_of_lt_of_le (List.length_pos_iff.mpr nonempty) enough))
    obtain ⟨words, rest, rfl, whole, ends⟩ := exists_line text
    rw [literalLines_line whole]
    cases rest with
    | nil =>
      -- The text ends within a line, which gets a break of its own.
      have kept : ∀ char ∈ ['\n'], IsKept char := by simp [IsKept]
      rw [List.append_nil, ending_of_whole whole, literalLines, List.append_nil,
        ← List.append_assoc words ['\n'] (spaces column ++ next)]
      exact takeLines_last unit bound lines start whole kept follows
    | cons first rest =>
      obtain ⟨breaks, later, rfl, others, next'⟩ := Quoted.exists_breaks rest
      have each : ∀ char ∈ first :: breaks, isBreak char = true :=
        List.forall_mem_cons.mpr ⟨ends first rfl, others⟩
      have kept : ∀ char ∈ first :: breaks, IsKept char := fun char member =>
        isKept_of_isShown (shown char (by
          rw [← List.cons_append]
          exact List.mem_append_right _ (List.mem_append_left _ member))) (each char member)
      have lastly :
          ending (words ++ first :: (breaks ++ later)) = ending (first :: breaks ++ later) :=
        ending_append _ (by simp)
      rw [lastly, ← List.cons_append, literalLines_breaks each]
      by_cases more : later = []
      · -- The text ends with the breaks of its last line.
        rw [more, List.append_nil, ending_of_breaks (by simp) each, List.append_nil, literalLines,
          List.append_nil, List.nil_append]
        exact takeLines_last unit bound lines start whole kept follows
      · -- Another line follows the breaks, and it is where the induction goes on.
        have shown' : ∀ char ∈ later, isShown char = true := fun char member =>
          shown char (by simp [member])
        have stops := head?_printed (ending later ++ (spaces column ++ next)) more shown' next'
          fun _ => ⟨Nat.ne_of_gt (Nat.zero_lt_of_lt follows.outside), Nat.le_refl indent⟩
        obtain ⟨start', lines₁, same₁, content₁, -, -, taken₁⟩ := takeLines_line unit bound lines
          start whole kept (Nat.le_refl indent) stops
        obtain ⟨after, lines', same, content, last, trailing, taken⟩ := ih later.length
          (by simp; omega) bound lines₁ more shown' next' same₁ (by simp at enough; omega) rfl
        refine ⟨after, lines', same, ?_, last, trailing, ?_⟩
        · rw [content, content₁, ending_append _ more]
          simp
        · rw [literalLines_indent more next', ending_append _ more, ← taken, ← taken₁]
          simp

/-! ## Chomping -/

/-- Where the second break from the end would be none, only one break ends the lines. -/
theorem trailing_eq_nil {trailing text rest : List Char} {first last before : Char}
    (same : trailing ++ first :: text = last :: before :: rest) (solid : isBreak before = false)
    (breaks : isBreak first = true) (each : ∀ char ∈ trailing, isBreak char = true) :
    trailing = [] := by
  have second : before ∉ trailing ∧ before ≠ first :=
    ⟨fun member => by simp [each before member] at solid,
      fun same => by simp [same, breaks] at solid⟩
  match trailing with
  | [] => rfl
  | [_] => simp_all
  | _ :: _ :: _ => simp_all

/-- What the chomping leaves of the lines is the text. -/
theorem chomp_printed {text : List Char} {lines : Lines} {first : Char} (nonempty : text ≠ [])
    (content : lines.content = text ++ ending text) (last : lines.lastBreak = [first])
    (breaks : isBreak first = true) (each : ∀ char ∈ lines.trailing, isBreak char = true) :
    (lines.text.reverse ++ match chompingOf text with
      | .strip => []
      | .clip => lines.lastBreak
      | .keep => lines.lastBreak ++ lines.trailing.reverse) = text := by
  have turned : lines.trailing ++ first :: lines.text = (ending text).reverse ++ text.reverse := by
    simpa [Lines.content, last] using congrArg List.reverse content
  obtain ⟨back, rfl⟩ : ∃ back : List Char, text = back.reverse := ⟨_, (List.reverse_reverse _).symm⟩
  simp only [ending, chompingOf, List.getLast?_reverse, List.reverse_reverse, Lines.content,
    last] at turned content ⊢
  match back with
  | [] => contradiction
  | [only] =>
    by_cases ends : isBreak only = true
    · simpa [ends] using content
    · have none := trailing_eq_nil (by simpa [ends] using turned) (by simpa using ends) breaks each
      simp_all
  | final :: before :: others =>
    by_cases ends : isBreak final = true
    · by_cases several : isBreak before = true
      · simpa [ends, several] using content
      · have none := trailing_eq_nil (by simpa [ends] using turned) (by simpa using several)
          breaks each
        simp_all
    · have none := trailing_eq_nil (by simpa [ends] using turned) (by simpa using ends) breaks each
      simp_all

/-- The indentation that is looked for in front of the lines: none, or the one that is given. -/
def givenOf (column : Nat) (text : List Char) : Nat := if startsBlank text then column + 2 else 0

/-- A scalar whose header, lead and lines are taken is taken. -/
theorem take_of_parts {text body breaks written lineRest : List Char} {column widest : Nat}
    {mark start lineStart : Mark} {after : Cursor} {lines : Lines}
    (header : takeHeader (({ rest := literalHeader text ++ body, mark } : Cursor).skip 1) =
      .ok ({ chomping := chompingOf text, increment := incrementOf text },
        { rest := written, mark := start }))
    (leads : takeLead (givenOf column text) written start {} =
      .ok ({ breaks, widest }, { rest := lineRest, mark := lineStart }))
    (wide : startsBlank text = false → widest = column + 2)
    (taken : takeLines true (column + 2) lineRest { rest := lineRest, mark := lineStart }
      { trailing := breaks } = .ok (lines, after)) :
    take true column { rest := literalHeader text ++ body, mark } =
      .ok (lines.text.reverse ++ match chompingOf text with
        | .strip => []
        | .clip => lines.lastBreak
        | .keep => lines.lastBreak ++ lines.trailing.reverse, after) := by
  have given : (if incrementOf text = 0 then 0 else (max (column : Int) 0).toNat + incrementOf text)
      = givenOf column text := by
    unfold incrementOf givenOf
    cases startsBlank text <;> simp
  have indent : (if givenOf column text = 0 then max widest (max ((column : Int) + 1) 1).toNat
      else givenOf column text) = column + 2 := by
    unfold givenOf
    cases blank : startsBlank text with
    | true => simp
    | false =>
      have reached : (max ((column : Int) + 1) 1).toNat ≤ column + 2 := by omega
      rw [if_pos (by simp), wide blank, Nat.max_eq_left reached]
  cases chomping : chompingOf text <;>
    simp only [take, header, given, leads, indent, taken, bind, Except.bind, pure, Except.pure,
      chomping]

/-- Breaks and nothing else are all kept. -/
theorem chompingOf_breaks {breaks : List Char} (nonempty : breaks ≠ [])
    (each : ∀ char ∈ breaks, isBreak char = true) : chompingOf breaks = .keep := by
  obtain ⟨back, rfl⟩ : ∃ back : List Char, breaks = back.reverse :=
    ⟨_, (List.reverse_reverse _).symm⟩
  match back with
  | [] => contradiction
  | [only] => simp [chompingOf, each only (by simp)]
  | last :: before :: others =>
    simp [chompingOf, each last (by simp), each before (by simp)]

/-- A text that starts with a break starts blank. -/
theorem startsBlank_of_breaks {breaks : List Char} (nonempty : breaks ≠ [])
    (each : ∀ char ∈ breaks, isBreak char = true) (later : List Char) :
    startsBlank (breaks ++ later) = true := by
  obtain ⟨first, others, rfl⟩ := List.exists_cons_of_ne_nil nonempty
  simp [startsBlank, each first List.mem_cons_self]

/-- Breaks and nothing else are read back: all of them are in front of the line that ends the
scalar. -/
theorem take_breaks {breaks next : List Char} {column outer : Nat} (mark : Mark)
    (nonempty : breaks ≠ []) (kept : ∀ char ∈ breaks, IsKept char)
    (follows : Next outer (column + 2) next) :
    ∃ after : Mark, after.column = outer ∧
      take true column
          { rest := literalHeader breaks ++ ('\n' :: (breaks ++ (spaces outer ++ next))), mark } =
        .ok (breaks, { rest := next, mark := after }) := by
  obtain ⟨start, column₀, header⟩ :=
    takeHeader_printed breaks (breaks ++ (spaces outer ++ next)) mark
  have each : ∀ char ∈ breaks, isBreak char = true := fun char member => (kept char member).isBreak
  have starts : startsBlank breaks = true := by
    simpa only [List.append_nil] using startsBlank_of_breaks nonempty each []
  have given : givenOf column breaks = column + 2 := if_pos starts
  obtain ⟨widest, after, same, -, -, leads⟩ := takeLead_lines start {} kept column₀
    (Or.inr (Nat.le_of_lt follows.outside)) follows.stops
  have outside : after.column ≠ column + 2 := by
    rw [same]
    exact Nat.ne_of_lt follows.outside
  have stops : takeLines true (column + 2) next { rest := next, mark := after }
      { trailing := breaks.reverse ++ [] } = _ := takeLines_stop outside
  refine ⟨after, same, ?_⟩
  rw [take_of_parts header (given ▸ leads) (by simp [starts]) stops,
    chompingOf_breaks nonempty each]
  simp

/-- Lines are read back with the breaks in front of them. -/
theorem take_lines {breaks later next : List Char} {column outer : Nat} (mark : Mark)
    (kept : ∀ char ∈ breaks, IsKept char) (more : later ≠ [])
    (shown : ∀ char ∈ later, isShown char = true)
    (line : ∀ char ∈ later.head?, isBreak char = false) (follows : Next outer (column + 2) next) :
    ∃ after : Mark, after.column = outer ∧
      take true column
          { rest := literalHeader (breaks ++ later) ++ ('\n' :: (breaks ++
              (literalLines (column + 2) true later ++ (ending later ++ (spaces outer ++ next))))),
            mark } =
        .ok (breaks ++ later, { rest := next, mark := after }) := by
  obtain ⟨start, column₀, header⟩ := takeHeader_printed (breaks ++ later) (breaks ++
    (literalLines (column + 2) true later ++ (ending later ++ (spaces outer ++ next)))) mark
  have starts : breaks ≠ [] → startsBlank (breaks ++ later) = true := fun some =>
    startsBlank_of_breaks some (fun char member => (kept char member).isBreak) later
  have inside : givenOf column (breaks ++ later) = 0 ∨
      column + 2 ≤ givenOf column (breaks ++ later) := by
    unfold givenOf
    split <;> simp
  -- A space in front of the first line is text, because the indentation is given then.
  have blank : ' ' ∈ later.head? → givenOf column (breaks ++ later) ≠ 0 ∧
      givenOf column (breaks ++ later) ≤ column + 2 := by
    intro first
    have starts : startsBlank (breaks ++ later) = true := by
      by_cases none : breaks = []
      · simp [startsBlank, none, Option.mem_def.mp first]
      · exact starts none
    simp [givenOf, starts]
  obtain ⟨widest, lineStart, same, -, wide, leads⟩ := takeLead_lines start {} kept column₀ inside
    (head?_printed (ending later ++ (spaces outer ++ next)) more shown line blank)
  have enough : later.length ≤ (literalLines (column + 2) false later
      ++ (ending later ++ (spaces outer ++ next))).length := by
    have written := length_le_literalLines (column + 2) false later
    simp
    omega
  obtain ⟨after, lines, same', content, ⟨first, last, breaks'⟩, trailing, taken⟩ :=
    takeLines_printed _ { trailing := breaks.reverse ++ [] } more shown line same follows enough
  have whole : lines.content = breaks ++ later ++ ending (breaks ++ later) := by
    rw [content, ending_append _ more]
    simp [Lines.content]
  have plain : startsBlank (breaks ++ later) = false → breaks = [] := fun plain =>
    Decidable.byContradiction fun some => by simp [starts some] at plain
  rw [literalLines_indent more line, List.append_assoc] at header ⊢
  refine ⟨after, same', ?_⟩
  rw [take_of_parts header leads (fun blank => wide (plain blank) (Nat.zero_le _)) taken,
    chomp_printed (by simp [more]) whole last breaks' trailing]

/-- A literal scalar is read back, up to the next line that is not indented. -/
theorem take_printed {text next : List Char} {column outer : Nat} (mark : Mark)
    (nonempty : text ≠ []) (shown : ∀ char ∈ text, isShown char = true)
    (follows : Next outer (column + 2) next) :
    ∃ after : Mark, after.column = outer ∧
      take true column
          { rest := literalHeader text ++ ('\n' :: (literalLines (column + 2) true text
              ++ (ending text ++ (spaces outer ++ next)))), mark } =
        .ok (text, { rest := next, mark := after }) := by
  obtain ⟨breaks, later, rfl, each, line⟩ := Quoted.exists_breaks text
  obtain ⟨shownBreaks, shownLater⟩ := List.forall_mem_append.mp shown
  have kept : ∀ char ∈ breaks, IsKept char := fun char member =>
    isKept_of_isShown (shownBreaks char member) (each char member)
  rw [literalLines_empty each, List.append_assoc]
  by_cases more : later = []
  · rw [more, List.append_nil] at nonempty ⊢
    rw [ending_of_breaks nonempty each, literalLines]
    exact take_breaks mark nonempty kept follows
  · rw [ending_append _ more]
    exact take_lines mark kept more shownLater line follows

end RunningConfig.Yaml.Block
