import RunningConfig.Journal.Pattern
/-!
# Parts of a text that fit a pattern

A part of a text fits a pattern by its own characters and by what stands before and behind it, which
is all that the start and the end of the text ask about. The search for such parts walks over sets
of positions, and it stops a repetition after as many steps as the text has characters. Nothing is
missed by that: a step of a repetition that takes no character can be left out. So a pattern occurs
in a text exactly when some part fits it, and one that goes from the start of the text to its end
when all of the text does.
-/

namespace RunningConfig.Journal.Pattern

/-- A condition on a part of a text, with what stands before it and behind it. -/
abbrev Fitting := List Char → List Char → List Char → Prop

/-- A part for one condition and right behind it a part for another. -/
def Joined (first second : Fitting) : Fitting := fun before part after =>
  ∃ front back, part = front ++ back ∧ first before front (back ++ after) ∧
    second (before ++ front) back after

/-- A number of parts for one condition, each right behind the one before it. -/
def Row (fits : Fitting) : Nat → Fitting
  | 0 => fun _ part _ => part = []
  | count + 1 => Joined fits (Row fits count)

/-- A part of a text fits a pattern. -/
def Fits : Pattern → Fitting
  | blank => fun _ part _ => part = []
  | one kind => fun _ part _ => ∃ char, kind.holds char = true ∧ part = [char]
  | start => fun before part _ => part = [] ∧ before = []
  | finish => fun _ part after => part = [] ∧ after = []
  | sequence first second => Joined first.Fits second.Fits
  | choice left right => fun before part after =>
    left.Fits before part after ∨ right.Fits before part after
  | repeated inner least most => fun before part after =>
    ∃ more, (∀ bound, most = some bound → more ≤ bound - least) ∧
      Row inner.Fits (least + more) before part after

/-! ## Steps that take nothing -/

/-- A row need have no more parts than characters. -/
theorem Row.brief {fits : Fitting} {count : Nat} {before part after : List Char}
    (row : Row fits count before part after) :
    ∃ fewer, fewer ≤ count ∧ fewer ≤ part.length ∧ Row fits fewer before part after := by
  induction count generalizing before part with
  | zero => exact ⟨0, Nat.le_refl 0, Nat.zero_le _, row⟩
  | succ count ih =>
    obtain ⟨front, back, rfl, first, rest⟩ := row
    obtain ⟨fewer, bounded, short, kept⟩ := ih rest
    by_cases empty : front = []
    · -- A first part without a character is left out.
      subst empty
      rw [List.append_nil] at kept
      exact ⟨fewer, by omega, short, kept⟩
    · have taken : 0 < front.length := List.length_pos_iff.mpr empty
      refine ⟨fewer + 1, by omega, ?_, front, back, rfl, first, kept⟩
      rw [List.length_append]
      omega

/-- Nor need it beyond a number of parts that it has to have. -/
theorem Row.brief_beyond {fits : Fitting} {least more : Nat} {before part after : List Char}
    (row : Row fits (least + more) before part after) :
    ∃ fewer, fewer ≤ more ∧ fewer ≤ part.length ∧ Row fits (least + fewer) before part after := by
  induction least generalizing before part with
  | zero =>
    rw [Nat.zero_add] at row
    simp only [Nat.zero_add]
    exact row.brief
  | succ least ih =>
    rw [Nat.add_right_comm] at row
    obtain ⟨front, back, rfl, first, rest⟩ := row
    obtain ⟨fewer, bounded, short, kept⟩ := ih rest
    refine ⟨fewer, bounded, ?_, ?_⟩
    · rw [List.length_append]
      omega
    · rw [Nat.add_right_comm]
      exact ⟨front, back, rfl, first, kept⟩

/-! ## The search -/

/-- From every position in a text, a search step finds the ends of the parts that start there and
meet a condition. -/
def Finds (text : List Char) (step : Nat → List Nat) (fits : Fitting) : Prop :=
  ∀ before rest, text = before ++ rest → ∀ stop, stop ∈ step before.length ↔
    ∃ part after, rest = part ++ after ∧ stop = (before ++ part).length ∧ fits before part after

variable {text : List Char}

/-- A step that does nothing but stand still finds the empty parts where it does. -/
theorem finds_of_still {step : Nat → List Nat} {fits : Fitting}
    (holds : List Char → List Char → Prop)
    (still : ∀ before rest, text = before ++ rest → ∀ stop,
      stop ∈ step before.length ↔ stop = before.length ∧ holds before rest)
    (empty : ∀ before part after, fits before part after ↔ part = [] ∧ holds before after) :
    Finds text step fits := by
  intro before rest cut stop
  rw [still before rest cut stop]
  constructor
  · rintro ⟨rfl, here⟩
    refine ⟨[], rest, rfl, ?_, (empty _ _ _).mpr ⟨rfl, here⟩⟩
    rw [List.append_nil]
  · rintro ⟨part, after, rfl, rfl, fits⟩
    obtain ⟨rfl, here⟩ := (empty _ _ _).mp fits
    rw [List.append_nil]
    exact ⟨rfl, here⟩

/-- What a step finds depends only on which positions it reaches. -/
theorem Finds.of_mem {step other : Nat → List Nat} {fits : Fitting} (finds : Finds text step fits)
    (same : ∀ position stop, stop ∈ other position ↔ stop ∈ step position) :
    Finds text other fits := by
  intro before rest cut stop
  rw [same]
  exact finds before rest cut stop

/-- One step after another finds the parts that are joined. -/
theorem Finds.joined {first second : Nat → List Nat} {fitsFirst fitsSecond : Fitting}
    (findsFirst : Finds text first fitsFirst) (findsSecond : Finds text second fitsSecond) :
    Finds text (fun position => (first position).flatMap second) (Joined fitsFirst fitsSecond) := by
  intro before rest cut stop
  rw [List.mem_flatMap]
  constructor
  · rintro ⟨middle, reached, onward⟩
    obtain ⟨front, behind, rfl, rfl, fits⟩ := (findsFirst before rest cut middle).mp reached
    have later : text = (before ++ front) ++ behind := by rw [cut, List.append_assoc]
    obtain ⟨back, after, rfl, rfl, others⟩ := (findsSecond _ behind later stop).mp onward
    refine ⟨front ++ back, after, ?_, ?_, front, back, rfl, fits, others⟩
    · rw [List.append_assoc]
    · rw [List.append_assoc]
  · rintro ⟨_, after, rfl, rfl, front, back, rfl, fits, others⟩
    rw [List.append_assoc] at cut
    have later : text = (before ++ front) ++ (back ++ after) := by rw [cut, List.append_assoc]
    refine ⟨(before ++ front).length, ?_, ?_⟩
    · exact (findsFirst before _ cut _).mpr ⟨front, back ++ after, rfl, rfl, fits⟩
    · apply (findsSecond _ _ later _).mpr
      refine ⟨back, after, rfl, ?_, others⟩
      rw [List.append_assoc]

/-- Steps from a set of positions begin with one step from one of them. -/
theorem mem_steps_succ {step : Nat → List Nat} {count stop : Nat} {positions : List Nat}
    (onward : ∀ {starts}, stop ∈ steps step count starts ↔
      ∃ start ∈ starts, stop ∈ steps step count [start]) :
    stop ∈ steps step (count + 1) positions ↔
      ∃ position ∈ positions, ∃ middle ∈ step position, stop ∈ steps step count [middle] := by
  rw [steps, onward]
  simp only [List.mem_eraseDups, List.mem_flatMap]
  constructor
  · rintro ⟨middle, ⟨position, member, reached⟩, further⟩
    exact ⟨position, member, middle, reached, further⟩
  · rintro ⟨position, member, middle, reached, further⟩
    exact ⟨middle, ⟨position, member, reached⟩, further⟩

/-- Steps from a set of positions are steps from one of them. -/
theorem mem_steps {step : Nat → List Nat} {count stop : Nat} {positions : List Nat} :
    stop ∈ steps step count positions ↔
      ∃ position ∈ positions, stop ∈ steps step count [position] := by
  induction count generalizing positions with
  | zero => simp [steps]
  | succ count ih => simp only [mem_steps_succ ih, List.mem_singleton, exists_eq_left]

/-- Steps after other steps are as many as both together. -/
theorem steps_add (step : Nat → List Nat) (least more : Nat) (positions : List Nat) :
    steps step (least + more) positions = steps step more (steps step least positions) := by
  induction least generalizing positions with
  | zero => rw [Nat.zero_add, steps]
  | succ least ih => rw [Nat.add_right_comm, steps, ih, steps]

/-- Up to a number of steps reach what some number of steps within it reaches. -/
theorem mem_closure {step : Nat → List Nat} {count stop : Nat} {positions : List Nat} :
    stop ∈ closure step count positions ↔
      ∃ fewer, fewer ≤ count ∧ stop ∈ steps step fewer positions := by
  induction count generalizing positions with
  | zero =>
    rw [closure]
    constructor
    · intro here
      exact ⟨0, Nat.le_refl 0, here⟩
    · rintro ⟨fewer, bounded, reached⟩
      obtain rfl : fewer = 0 := by omega
      exact reached
  | succ count ih =>
    rw [closure, List.mem_append, ih]
    constructor
    · rintro (here | ⟨fewer, bounded, reached⟩)
      · exact ⟨0, Nat.zero_le _, here⟩
      · exact ⟨fewer + 1, by omega, reached⟩
    · rintro ⟨fewer, bounded, reached⟩
      cases fewer with
      | zero => exact Or.inl reached
      | succ fewer => exact Or.inr ⟨fewer, by omega, reached⟩

/-- A number of steps finds the rows of that many parts. -/
theorem Finds.steps {step : Nat → List Nat} {fits : Fitting} (finds : Finds text step fits)
    (count : Nat) :
    Finds text (fun position => Pattern.steps step count [position]) (Row fits count) := by
  induction count with
  | zero => exact finds_of_still (fun _ _ => True) (by simp [Pattern.steps]) (by simp [Row])
  | succ count ih =>
    apply (finds.joined ih).of_mem
    intro position stop
    simp only [mem_steps_succ mem_steps, List.mem_singleton, exists_eq_left, List.mem_flatMap]

/-- The search for a repetition finds every one, although it bounds their number. -/
theorem Finds.repeated {inner : Pattern} (least : Nat) (most : Option Nat)
    (finds : Finds text (ends text inner) inner.Fits) :
    Finds text (ends text (.repeated inner least most))
      (Pattern.repeated inner least most).Fits := by
  intro before rest cut stop
  have reach (more : Nat) := finds.steps (least + more) before rest cut stop
  simp only [steps_add] at reach
  simp only [ends, List.mem_eraseDups, mem_closure, reach]
  constructor
  · rintro ⟨more, bounded, part, after, ends, stops, row⟩
    refine ⟨part, after, ends, stops, more, ?_, row⟩
    rintro bound rfl
    exact Nat.le_trans bounded (Nat.min_le_left _ _)
  · rintro ⟨part, after, ends, stops, more, bounded, row⟩
    -- A row may be too long for the search, but then a shorter one is not.
    obtain ⟨fewer, within, short, kept⟩ := row.brief_beyond
    refine ⟨fewer, ?_, part, after, ends, stops, kept⟩
    have inside : part.length ≤ text.length := by
      rw [cut, ends, List.length_append, List.length_append]
      omega
    cases most with
    | none => exact Nat.le_trans short (Nat.le_trans inside (Nat.le_succ _))
    | some bound =>
      have allowed := bounded bound rfl
      apply Nat.le_min.mpr
      omega

/-- From every position the search finds exactly the parts that fit. -/
theorem finds_ends (text : List Char) (pattern : Pattern) :
    Finds text (ends text pattern) pattern.Fits := by
  induction pattern with
  | blank => exact finds_of_still (fun _ _ => True) (by simp [ends]) (by simp [Fits])
  | one kind =>
    intro before rest cut stop
    have next : text[before.length]? = rest[0]? := by
      rw [cut, List.getElem?_append_right (Nat.le_refl _), Nat.sub_self]
    rw [ends, next]
    constructor
    · intro found
      cases rest with
      | nil => contradiction
      | cons char rest =>
        by_cases member : kind.holds char = true
        · refine ⟨[char], rest, rfl, ?_, char, member, rfl⟩
          simpa [member] using found
        · simp [member] at found
    · rintro ⟨_, after, rfl, rfl, char, member, rfl⟩
      simp [member]
  | start =>
    apply finds_of_still (fun before _ => before = []) _ (fun _ _ _ => Iff.rfl)
    intro before rest cut stop
    simp only [ends, List.length_eq_zero_iff]
    by_cases first : before = []
    · simp [first]
    · simp [first]
  | finish =>
    apply finds_of_still (fun _ after => after = []) _ (fun _ _ _ => Iff.rfl)
    intro before rest cut stop
    have whole : before.length = text.length ↔ rest = [] := by
      rw [cut, List.length_append, ← List.length_eq_zero_iff]
      omega
    simp only [ends, whole]
    by_cases last : rest = []
    · simp [last]
    · simp [last]
  | sequence first second findsFirst findsSecond =>
    apply (findsFirst.joined findsSecond).of_mem
    intro position stop
    rw [ends, List.mem_eraseDups]
  | choice left right findsLeft findsRight =>
    intro before rest cut stop
    simp only [ends, Fits, List.mem_eraseDups, List.mem_append, findsLeft before rest cut stop,
      findsRight before rest cut stop, and_or_left, exists_or]
  | repeated inner least most finds => exact finds.repeated least most

/-- A pattern occurs in a text exactly when some part of the text fits it. -/
theorem occursIn_iff {pattern : Pattern} {text : String} : pattern.occursIn text = true ↔
    ∃ before part after, text.toList = before ++ part ++ after ∧
      pattern.Fits before part after := by
  simp only [occursIn, List.any_eq_true, List.mem_range, Bool.not_eq_true',
    List.isEmpty_eq_false_iff]
  constructor
  · rintro ⟨position, within, some⟩
    obtain ⟨stop, found⟩ := List.exists_mem_of_ne_nil _ some
    have cut := (List.take_append_drop position text.toList).symm
    have reached : (text.toList.take position).length = position := by
      rw [List.length_take]
      omega
    rw [← reached] at found
    obtain ⟨part, after, behind, -, fits⟩ := (finds_ends _ pattern _ _ cut stop).mp found
    refine ⟨text.toList.take position, part, after, ?_, fits⟩
    rw [List.append_assoc, ← behind]
    exact cut
  · rintro ⟨before, part, after, whole, fits⟩
    refine ⟨before.length, ?_, ?_⟩
    · rw [whole, List.length_append, List.length_append]
      omega
    · have cut : text.toList = before ++ (part ++ after) := by rw [whole, List.append_assoc]
      apply List.ne_nil_of_mem
      exact (finds_ends _ pattern _ _ cut _).mpr ⟨part, after, rfl, rfl, fits⟩

/-! ## Patterns for all of a text -/

/-- Patterns that follow each other. -/
def inOrder (patterns : List Pattern) : Pattern := patterns.foldr sequence blank

/-- Patterns that follow each other from the start of a text to its end. -/
def anchored (patterns : List Pattern) : Pattern := inOrder (start :: patterns ++ [finish])

variable {before part after : List Char}

/-- A pattern with nothing behind it fits what it fits on its own. -/
theorem joined_blank {fits : Fitting} :
    Joined fits blank.Fits before part after ↔ fits before part after := by
  constructor
  · rintro ⟨front, _, rfl, first, rfl⟩
    rwa [List.append_nil]
  · intro first
    exact ⟨part, [], (List.append_nil part).symm, first, rfl⟩

/-- Patterns in front of the end of the text fit what they fit on their own, at the end. -/
theorem fits_finish {patterns : List Pattern} :
    (inOrder (patterns ++ [finish])).Fits before part after ↔
      after = [] ∧ (inOrder patterns).Fits before part after := by
  induction patterns generalizing before part with
  | nil =>
    show Joined finish.Fits blank.Fits before part after ↔ after = [] ∧ part = []
    rw [joined_blank]
    exact and_comm
  | cons pattern patterns ih =>
    constructor
    · rintro ⟨front, back, rfl, first, rest⟩
      obtain ⟨last, others⟩ := ih.mp rest
      exact ⟨last, front, back, rfl, first, others⟩
    · rintro ⟨last, front, back, rfl, first, others⟩
      exact ⟨front, back, rfl, first, ih.mpr ⟨last, others⟩⟩

/-- Patterns from the start of a text to its end occur in it exactly when all of it fits them. -/
theorem occursIn_anchored_iff {patterns : List Pattern} {text : String} :
    (anchored patterns).occursIn text = true ↔ (inOrder patterns).Fits [] text.toList [] := by
  rw [occursIn_iff]
  constructor
  · rintro ⟨before, part, after, cut, front, back, rfl, ⟨rfl, rfl⟩, rest⟩
    obtain ⟨rfl, fits⟩ := fits_finish.mp rest
    rw [cut, List.append_nil]
    exact fits
  · intro fits
    refine ⟨[], text.toList, [], (List.append_nil _).symm, [], text.toList, rfl, ⟨rfl, rfl⟩, ?_⟩
    exact fits_finish.mpr ⟨rfl, fits⟩

/-! ## Single characters -/

/-- The class of one character has no other. -/
theorem holds_single_iff {separator char : Char} :
    (CharClass.single separator).holds char = true ↔ char = separator := by
  simp only [CharClass.single, CharClass.holds, Bool.and_eq_true, decide_eq_true_eq]
  constructor
  · rintro ⟨above, below⟩
    exact Char.le_antisymm below above
  · rintro rfl
    exact ⟨Char.le_refl _, Char.le_refl _⟩

/-- A row of single characters is as many characters of the class. -/
theorem row_one_iff {kind : CharClass} {count : Nat} :
    Row (one kind).Fits count before part after ↔
      part.length = count ∧ ∀ char ∈ part, kind.holds char = true := by
  induction count generalizing before part with
  | zero =>
    show part = [] ↔ _
    rw [List.length_eq_zero_iff]
    constructor
    · rintro rfl
      exact ⟨rfl, nofun⟩
    · exact And.left
  | succ count ih =>
    constructor
    · rintro ⟨_, back, rfl, ⟨char, member, rfl⟩, row⟩
      obtain ⟨length, members⟩ := ih.mp row
      refine ⟨?_, List.forall_mem_cons.mpr ⟨member, members⟩⟩
      rw [List.singleton_append, List.length_cons, length]
    · rintro ⟨length, members⟩
      cases part with
      | nil => contradiction
      | cons char part =>
        obtain ⟨member, others⟩ := List.forall_mem_cons.mp members
        exact ⟨[char], part, rfl, ⟨char, member, rfl⟩, ih.mpr ⟨Nat.succ.inj length, others⟩⟩

/-- A repeated character fits a number of characters of its class that is within the bounds. -/
theorem fits_repeated_one {kind : CharClass} {least : Nat} {most : Option Nat} :
    (repeated (one kind) least most).Fits before part after ↔
      least ≤ part.length ∧ (∀ bound, most = some bound → part.length - least ≤ bound - least) ∧
        ∀ char ∈ part, kind.holds char = true := by
  constructor
  · rintro ⟨more, bounded, row⟩
    obtain ⟨length, members⟩ := row_one_iff.mp row
    refine ⟨by omega, ?_, members⟩
    intro bound given
    have within := bounded bound given
    omega
  · rintro ⟨enough, bounded, members⟩
    refine ⟨part.length - least, bounded, row_one_iff.mpr ⟨?_, members⟩⟩
    omega

end RunningConfig.Journal.Pattern
