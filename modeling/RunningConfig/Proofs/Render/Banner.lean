import Mathlib
import RunningConfig.Load
import RunningConfig.Proofs.Render.Heads
import RunningConfig.Proofs.Text.Lines
/-!
# What is read of a banner

The device takes for a banner what stands between two delimiters. The text of a banner is shown
between two of them as it is, and neither loading nor rendering looks at it. So it is read back
exactly when it holds no delimiter; the first one that it holds ends the banner, and what follows is
left behind as input of its own.
-/

namespace RunningConfig

open Text

namespace Banner

/-- A text less one blank at each end. -/
def unpadded (text : List Char) : List Char :=
  let rest := if text.head? = some ' ' then text.tail else text
  if rest.getLast? = some ' ' then rest.dropLast else rest

/-- The text that the device reads from the line of a banner, which stands between the first two
delimiters, and what is left behind the second one. A line without two of them is not closed. -/
def read (line : String) : Option (String × String) :=
  match splitOn '#' line.toList with
  | _ :: text :: behind :: others =>
    some (String.ofList (unpadded text), String.ofList (joinWith '#' (behind :: others)))
  | _ => none

/-- A text is what is left of it between two blanks. -/
theorem unpadded_padded (text : List Char) : unpadded (' ' :: (text ++ [' '])) = text := by
  simp [unpadded]

/-- The text between the first two delimiters is read, and what follows them is left. -/
theorem read_delimited {line : String} {front text behind : List Char}
    (shown : line.toList = front ++ '#' :: (text ++ '#' :: behind)) (frontFree : '#' ∉ front)
    (textFree : '#' ∉ text) :
    read line = some (String.ofList (unpadded text), String.ofList behind) := by
  have whole := joinWith_splitOn '#' behind
  unfold read
  rw [shown, splitOn_append_cons, splitOn_of_not_mem frontFree, splitOn_append_cons,
    splitOn_of_not_mem textFree]
  cases cut : splitOn '#' behind with
  | nil => exact absurd cut (splitOn_ne_nil _ _)
  | cons piece pieces =>
    rw [cut] at whole
    simp only [List.cons_append, List.nil_append, whole]

/-- The line that shows a text as a banner. -/
def line (text : String) : String := "banner motd # " ++ text ++ " #"

/-- The directive of a banner. -/
def directive : Literal := literal "banner motd "

/-- There is no delimiter in the directive. -/
theorem not_mem_directive : '#' ∉ directive.letters := by decide

/-- The characters of the line of a banner. -/
theorem toList_line (text : String) :
    (line text).toList = directive.letters ++ '#' :: (' ' :: (text.toList ++ [' ', '#'])) := by
  have front : "banner motd # ".toList = directive.letters ++ ['#', ' '] :=
    (literal "banner motd # ").toList_text
  have back : " #".toList = [' ', '#'] := (literal " #").toList_text
  show ("banner motd # " ++ text ++ " #").toList = _
  rw [String.toList_append, String.toList_append, front, back, List.append_assoc,
    List.append_assoc]
  rfl

/-- A banner without a delimiter is read back. -/
theorem read_line {text : String} (free : '#' ∉ text.toList) :
    read (line text) = some (text, "") := by
  have shown : (line text).toList =
      directive.letters ++ '#' :: ((' ' :: (text.toList ++ [' '])) ++ '#' :: []) := by
    rw [toList_line]
    simp
  have inside : '#' ∉ ' ' :: (text.toList ++ [' ']) := by simp [free]
  rw [read_delimited shown not_mem_directive inside, unpadded_padded, String.ofList_toList]

/-- A banner ends at its first delimiter, and what follows is left behind. -/
theorem read_line_cut {before : String} (free : '#' ∉ before.toList) (after : String) :
    read (line (before ++ "#" ++ after)) =
      some (String.ofList (unpadded (' ' :: before.toList)), after ++ " #") := by
  have shown : (line (before ++ "#" ++ after)).toList = directive.letters ++ '#' ::
      ((' ' :: before.toList) ++ '#' :: (after.toList ++ [' ', '#'])) := by
    rw [toList_line]
    simp
  have left : String.ofList (after.toList ++ [' ', '#']) = after ++ " #" := by
    rw [← String.toList_inj, String.toList_ofList, String.toList_append]
    rfl
  have inside : '#' ∉ ' ' :: before.toList := by simp [free]
  rw [read_delimited shown not_mem_directive inside, left]

/-- A banner is read back exactly when it holds no delimiter. -/
theorem read_line_iff {text : String} :
    read (line text) = some (text, "") ↔ '#' ∉ text.toList := by
  constructor
  · intro whole member
    obtain ⟨before, after, split, free⟩ := List.eq_append_cons_of_mem member
    have parts : text = String.ofList before ++ "#" ++ String.ofList after := by
      rw [← String.toList_inj, split]
      simp
    have first : '#' ∉ (String.ofList before).toList := by rwa [String.toList_ofList]
    have cut := read_line_cut first (String.ofList after)
    rw [← parts, whole, Option.some.injEq, Prod.mk.injEq] at cut
    have behind : "".toList = (String.ofList after).toList ++ " #".toList := by
      rw [cut.2, String.toList_append]
    simp at behind
  · exact read_line

end Banner

namespace Config

open Banner Section Render

variable {config : Config} {lines : List String} {text : String}

/-- The line of a banner is the only one that starts like one. -/
theorem starting_banner (set : config.bannerMotd = some text)
    (rendered : config.renderLines = .ok lines) :
    starting "banner motd " lines = [Banner.line text] := by
  have only : layout.filter (mayStart (literal "banner motd ")) =
    [⟨"banner", 0, Render.bannerLines, 5⟩] := rfl
  obtain ⟨content, shown, found⟩ : ∃ content, bannerLines config = .ok content ∧
      starting "banner motd " lines = starting "banner motd " content :=
    starting_renderLines (by decide) only rendered
  obtain rfl := Except.ok.inj shown
  have begins : (Banner.line text).startsWith "banner motd " = true := by
    rw [String.startsWith_string_iff, toList_line, ← directive.toList_text]
    exact List.prefix_append _ _
  rw [found, set]
  exact starting_eq_self (List.forall_mem_singleton.mpr begins)

/-- Of some lines one starts like a banner, and the device reads a text from it and leaves a rest
behind. -/
def ReadsBanner (lines : List String) (result : String × String) : Prop :=
  ∃ shown, starting "banner motd " lines = [shown] ∧ Banner.read shown = some result

/-- What is read of a banner is what is read from its line. -/
theorem readsBanner_iff (set : config.bannerMotd = some text)
    (rendered : config.renderLines = .ok lines) (result : String × String) :
    ReadsBanner lines result ↔ Banner.read (Banner.line text) = some result := by
  have only := starting_banner set rendered
  constructor
  · rintro ⟨shown, found, reads⟩
    rw [only] at found
    rwa [← (List.cons.inj found).1] at reads
  · intro reads
    exact ⟨Banner.line text, only, reads⟩

/-- What the lines of a configuration carry of the text of its banner. -/
structure BannerCarried (text : String) (lines : List String) : Prop where
  /-- The text is read back, with nothing left behind, exactly when it holds no delimiter. -/
  whole : ReadsBanner lines (text, "") ↔ '#' ∉ text.toList
  /-- Otherwise the device reads what stands before the first one, less a blank at its end, and
  leaves all that follows it behind. -/
  cut : ∀ before after, text = before ++ "#" ++ after → '#' ∉ before.toList →
    ReadsBanner lines (String.ofList (unpadded (' ' :: before.toList)), after ++ " #")

/-- A banner is carried up to its first delimiter, whatever else the configuration holds. -/
theorem bannerCarried_of_renderLines (set : config.bannerMotd = some text)
    (rendered : config.renderLines = .ok lines) : BannerCarried text lines where
  whole := by
    rw [readsBanner_iff set rendered]
    exact read_line_iff
  cut before after split free := by
    rw [readsBanner_iff set rendered, split]
    exact read_line_cut free after

/-- A banner without a delimiter is read back, beside a host name that looks like one. -/
theorem bannerCarried_of_lookalike : ∃ (config : Config) (lines : List String),
    config.bannerMotd = some "Keep out!" ∧ config.renderLines = .ok lines ∧
      BannerCarried "Keep out!" lines ∧ ReadsBanner lines ("Keep out!", "") ∧
      "hostname banner motd # Come in #" ∈ lines := by
  let config : Config := {
    hostname := some "banner motd # Come in #"
    bannerMotd := some "Keep out!" }
  obtain ⟨lines, rendered⟩ : ∃ lines, config.renderLines = .ok lines := ⟨_, rfl⟩
  have set : config.bannerMotd = some "Keep out!" := rfl
  have carried := bannerCarried_of_renderLines set rendered
  have whole : ReadsBanner lines ("Keep out!", "") := carried.whole.mpr (by decide)
  obtain rfl := Except.ok.inj rendered
  exact ⟨config, _, set, rfl, carried, whole, by decide⟩

/-- A loaded banner that holds a delimiter ends there, and the rest of it is left behind. -/
theorem not_readsBanner_of_delimiter : ∃ config lines,
    ofYaml "banner_motd: a#b\n" = .ok config ∧ config.bannerMotd = some "a#b" ∧
      config.renderLines = .ok lines ∧ ReadsBanner lines ("a", "b #") ∧
      ¬ReadsBanner lines ("a#b", "") := by
  have loaded : ofYaml "banner_motd: a#b\n" = .ok { bannerMotd := some "a#b" } := by cbv
  obtain ⟨lines, rendered⟩ : ∃ lines,
      ({ bannerMotd := some "a#b" } : Config).renderLines = .ok lines := ⟨_, rfl⟩
  have set : ({ bannerMotd := some "a#b" } : Config).bannerMotd = some "a#b" := rfl
  have reads := readsBanner_iff set rendered
  refine ⟨_, lines, loaded, set, rendered, ?_, ?_⟩
  · exact (reads ("a", "b #")).mpr (by decide)
  · rw [reads, read_line_iff]
    decide

end Config

end RunningConfig
