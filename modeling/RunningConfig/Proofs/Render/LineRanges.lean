import RunningConfig.Proofs.Render.Items
/-!
# Ranges of line numbers

The header of a class shows a first line number and, where one is set or the class has a default, a
last one. The two are filled in apart from each other and never compared. So a range is the wrong
way round exactly when a first number that is set lies behind the last one, be that set as well or
the default of the virtual terminals; no check of a configuration stands in the way.
-/

namespace RunningConfig

/-- The numbers of a line of a class are the wrong way round. -/
inductive Line.Reversed (kind : LineClass) (line : Line) : Prop where
  /-- The first number lies behind the last one. -/
  | behindLast {first last : UInt16} (starts : line.portStart = some first)
    (ends : line.portEnd = some last) (behind : last < first)
  /-- The first number lies behind the last one that virtual terminals have when none is set. -/
  | behindDefault {first : UInt16} (terminals : kind = .virtualTerminal)
    (starts : line.portStart = some first) (ends : line.portEnd = none) (behind : 4 < first)

/-- The numbers of a line are the wrong way round exactly when the last one in force lies before the
first one. -/
theorem Line.reversed_iff {kind : LineClass} {line : Line} : line.Reversed kind ↔
    ∃ stop, line.portEnd.or (Default.linePortEnd? kind) = some stop ∧
      stop < line.portStart.getD 0 := by
  constructor
  · intro reversed
    cases reversed with
    | @behindLast first last starts ends behind =>
      rw [starts, ends]
      exact ⟨last, rfl, behind⟩
    | @behindDefault first terminals starts ends behind =>
      rw [terminals, starts, ends]
      exact ⟨4, rfl, behind⟩
  · rintro ⟨stop, ends, behind⟩
    cases starts : line.portStart with
    | none =>
      rw [starts] at behind
      exact absurd behind UInt16.not_lt_zero
    | some first =>
      rw [starts] at behind
      cases own : line.portEnd with
      | some last =>
        rw [own] at ends
        obtain rfl : last = stop := Option.some.inj ends
        exact .behindLast starts own behind
      | none =>
        rw [own] at ends
        cases kind with
        | console => contradiction
        | auxiliary => contradiction
        | virtualTerminal =>
          obtain rfl : Default.vtyPortEnd = stop := Option.some.inj ends
          exact .behindDefault rfl starts own behind

namespace Render

/-- A header that shows a first and a last line number. -/
def Spans (kind : LineClass) (first last : Nat) (header : String) : Prop :=
  header = "line " ++ Keyword.word kind ++ " " ++ toString first ++ " " ++ toString last

/-- The numbers that a header shows are the ones in force. -/
theorem spans_lineHeader_iff {kind : LineClass} {line : Option Line} {first last : Nat} :
    Spans kind first last (lineHeader kind line) ↔
      ((line.bind Line.portStart).getD 0).toNat = first ∧
        ∃ stop, (line.bind Line.portEnd).or (Default.linePortEnd? kind) = some stop ∧
          stop.toNat = last := by
  have blank (rest : String) : Text.BlankFirst (" " ++ rest) := by simp [Text.BlankFirst]
  unfold Spans lineHeader
  simp only [String.append_assoc, String.append_right_inj]
  constructor
  · intro same
    obtain ⟨starts, ends⟩ := Text.number_append_inj (blank _) (blank _) same
    refine ⟨starts, ?_⟩
    rw [String.append_right_inj] at ends
    cases given : (line.bind Line.portEnd).or (Default.linePortEnd? kind) with
    | none =>
      rw [given] at ends
      exact absurd ends.symm (Text.toString_ne_empty last)
    | some stop =>
      rw [given] at ends
      exact ⟨stop, rfl, Text.toString_inj ends⟩
  · rintro ⟨rfl, stop, given, rfl⟩
    rw [given]
    rfl

/-- A header shows a last number exactly when one is set or the class is that of the virtual
terminals. -/
theorem exists_spans_iff {kind : LineClass} {line : Option Line} :
    (∃ first last, Spans kind first last (lineHeader kind line)) ↔
      kind = .virtualTerminal ∨ (line.bind Line.portEnd).isSome = true := by
  simp only [spans_lineHeader_iff]
  cases line.bind Line.portEnd with
  | some last => simp
  | none => cases kind <;> simp [Default.linePortEnd?]

/-- The numbers that a header shows are in order exactly when those of the line, if the class is
configured, are not the wrong way round. -/
theorem le_iff_of_spans {kind : LineClass} {line : Option Line} {first last : Nat}
    (spans : Spans kind first last (lineHeader kind line)) :
    first ≤ last ↔ ∀ own, line = some own → ¬own.Reversed kind := by
  obtain ⟨rfl, stop, ends, rfl⟩ := spans_lineHeader_iff.mp spans
  cases line with
  | none =>
    have zero : (((none : Option Line).bind Line.portStart).getD 0).toNat = 0 := rfl
    have unset (own : Line) (same : none = some own) : ¬own.Reversed kind :=
      absurd same (Option.some_ne_none own).symm
    rw [zero]
    exact iff_of_true (Nat.zero_le _) unset
  | some own =>
    have inForce : own.portEnd.or (Default.linePortEnd? kind) = some stop := ends
    have reversed : own.Reversed kind ↔ stop.toNat < (own.portStart.getD 0).toNat := by
      rw [Line.reversed_iff, inForce, ← UInt16.lt_iff_toNat_lt]
      simp only [Option.some.injEq, exists_eq_left']
    simp only [Option.some.injEq, forall_eq', reversed, Nat.not_lt, Option.bind_some]

end Render

namespace Config

open Text Render

/-- What the headers of the classes say of line numbers. -/
structure Ranges (config : Config) : Prop where
  /-- The lines that start like a header are the headers of the three classes. -/
  headers : ∀ lines, config.renderLines = .ok lines → starting "line " lines =
    [LineClass.console, .auxiliary, .virtualTerminal].map fun kind =>
      lineHeader kind (config.line? kind)
  /-- A header shows a last number where one is set, and for the virtual terminals. -/
  ended : ∀ kind, (∃ first last, Spans kind first last (lineHeader kind (config.line? kind))) ↔
    kind = .virtualTerminal ∨ ((config.line? kind).bind Line.portEnd).isSome = true
  /-- Its numbers are in order unless the line has them the wrong way round. -/
  ordered : ∀ kind first last, Spans kind first last (lineHeader kind (config.line? kind)) →
    (first ≤ last ↔ ∀ line, config.line? kind = some line → ¬line.Reversed kind)

/-- The headers of every configuration show ranges that are in order but for those that its lines
have the wrong way round. -/
theorem ranges_of_lines (config : Config) : Ranges config where
  headers _ rendered := starting_lineHeader rendered
  ended _ := exists_spans_iff
  ordered _ _ _ spans := le_iff_of_spans spans

/-- A first number behind the default of the virtual terminals is accepted and shown. -/
theorem reversed_of_late_start : ∃ (config : Config) (lines : List String),
    config.validate = .ok () ∧ config.renderLines = .ok lines ∧
      lineHeader .virtualTerminal (config.line? .virtualTerminal) = "line vty 5 4" ∧
      "line vty 5 4" ∈ lines ∧ Spans .virtualTerminal 5 4 "line vty 5 4" ∧ ¬5 ≤ 4 := by
  let config : Config := {
    lineVty := some { portStart := some 5, execTimeout := { seconds := 0 } } }
  obtain ⟨lines, rendered⟩ : ∃ lines, config.renderLines = .ok lines := ⟨_, rfl⟩
  have shown : lineHeader .virtualTerminal (config.line? .virtualTerminal) = "line vty 5 4" := by
    decide
  have listed : "line vty 5 4" ∈ lines := by
    have header : "line vty 5 4" ∈ starting "line " lines := by
      rw [starting_lineHeader rendered, ← shown]
      exact List.mem_map_of_mem (List.mem_of_getLast? rfl)
    exact (mem_starting.mp header).1
  have spans : Spans .virtualTerminal 5 4 "line vty 5 4" := by
    rw [← shown]
    exact spans_lineHeader_iff.mpr ⟨rfl, 4, rfl, rfl⟩
  exact ⟨config, lines, by decide, rendered, shown, listed, spans, by decide⟩

end Config

end RunningConfig
