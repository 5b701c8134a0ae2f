import Mathlib
import RunningConfig.Load
import RunningConfig.Proofs.Render.LineFeeds
/-!
# The lines of a loaded configuration and of its text

A document is a list of lines and its text has a line feed after each. Cutting the text gives the
list back, and the text has as many lines as the list, exactly when no free text of the
configuration holds a line feed. Loading checks the names but does not look at the free texts, so a
loaded configuration may put lines of its own into the document.
-/

namespace RunningConfig.Config

open Text (Unbroken pieces)

/-- A loaded configuration is accepted. -/
theorem accepted_of_ofYaml {yaml : String} {config : Config} (loaded : ofYaml yaml = .ok config) :
    config.Accepted := by
  apply accepted_of_validate
  unfold ofYaml at loaded
  split at loaded
  case h_1 => contradiction
  case h_2 parsed _ =>
    split at loaded
    case h_1 => contradiction
    case h_2 valid =>
      obtain rfl := Except.ok.inj loaded
      exact valid

/-- The text of a loaded configuration is cut at its line feeds into exactly the lines of the
configuration, and has as many lines, exactly when no free text holds a line feed. -/
theorem pieces_render_eq_lines {yaml text : String} {config : Config} {lines : List String}
    (loaded : ofYaml yaml = .ok config) (listed : config.renderLines = .ok lines)
    (rendered : config.render = .ok text) :
    (pieces '\n' text = lines ++ [""] ↔ ∀ free ∈ config.freeTexts, Unbroken free) ∧
      (text.toList.count '\n' = lines.length ↔ ∀ free ∈ config.freeTexts, Unbroken free) := by
  obtain ⟨_, found, rfl⟩ := render_eq_ok.mp rendered
  obtain rfl := Except.ok.inj (listed.symm.trans found)
  have names := (accepted_of_ofYaml loaded).unbroken_names
  have free : (∀ line ∈ lines, Unbroken line) ↔ ∀ free ∈ config.freeTexts, Unbroken free := by
    rw [unbroken_renderLines listed, texts, List.forall_mem_append, and_iff_left names]
  have nonempty := renderLines_ne_nil listed
  exact ⟨(pieces_textOfLines_eq nonempty).trans free, (count_textOfLines_eq nonempty).trans free⟩

/-- A loaded configuration with an unbroken host name has the lines of its text. -/
theorem pieces_render_of_plain_hostname : ∃ config lines text,
    ofYaml "hostname: R1\n" = .ok config ∧ config.renderLines = .ok lines ∧
      config.render = .ok text ∧ pieces '\n' text = lines ++ [""] ∧
      text.toList.count '\n' = lines.length := by
  have loaded : ofYaml "hostname: R1\n" = .ok { hostname := some "R1" } := by cbv
  have free : ∀ free ∈ ({ hostname := some "R1" } : Config).freeTexts, Unbroken free := by decide
  have cut := pieces_render_eq_lines loaded rfl rfl
  exact ⟨_, _, _, loaded, rfl, rfl, cut.1.mpr free, cut.2.mpr free⟩

/-- A host name with a line feed is accepted and puts a line of its own into the document. -/
theorem pieces_render_of_broken_hostname : ∃ config lines text,
    ofYaml "hostname: \"R1\\nend\"\n" = .ok config ∧ config.renderLines = .ok lines ∧
      config.render = .ok text ∧ pieces '\n' text ≠ lines ++ [""] ∧
      text.toList.count '\n' ≠ lines.length := by
  have loaded : ofYaml "hostname: \"R1\\nend\"\n" = .ok { hostname := some "R1\nend" } := by cbv
  obtain ⟨lines, listed⟩ : ∃ lines,
      ({ hostname := some "R1\nend" } : Config).renderLines = .ok lines := ⟨_, rfl⟩
  have broken : ¬∀ line ∈ lines, Unbroken line := by
    rw [unbroken_renderLines listed]
    decide
  have nonempty := renderLines_ne_nil listed
  refine ⟨_, lines, _, loaded, listed, render_eq_ok.mpr ⟨lines, listed, rfl⟩, ?_, ?_⟩
  · exact mt (pieces_textOfLines_eq nonempty).mp broken
  · exact mt (count_textOfLines_eq nonempty).mp broken

end RunningConfig.Config
