import RunningConfig.Render.Default
/-!
# Directives

Two shapes that lines of several sections share: a directive that is switched on or off, and a
line that may be missing.
-/

namespace RunningConfig.Render

/-- The directive when on, its negation when off. -/
def toggle (on : Bool) (directive : String) : String :=
  if on then " " ++ directive else "no " ++ directive

/-- A line, or the placeholder when there is none. -/
def orPlaceholder (line : Option String) : String := line.getD Default.placeholder

end RunningConfig.Render
