import RunningConfig.Render.Section
/-!
# The document of a configuration

The lines of all sections in order, or the first fault that any section meets. The text has a
line feed after every line. Both depend on the configuration alone.
-/

namespace RunningConfig.Config

/-- The lines of a configuration, without line feeds. -/
def renderLines (config : Config) : Rendered (List String) := do
  let blocks ← Section.layout.mapM (·.lines config)
  return blocks.flatten

/-- Lines as text, a line feed between them and after the last. -/
def textOfLines (lines : List String) : String := "\n".intercalate lines ++ "\n"

/-- The text of a configuration. -/
def render (config : Config) : Rendered String := do
  let lines ← config.renderLines
  return textOfLines lines

end RunningConfig.Config
