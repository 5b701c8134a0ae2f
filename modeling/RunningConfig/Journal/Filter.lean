import RunningConfig.Journal.Pattern
import RunningConfig.Journal.Record
import RunningConfig.Text.Split
/-!
# Which records are shown

A filter is given as directives with commas between them: a level for every target, a target
with a level after an equals sign, or a target alone, which shows all of its records. The
directive with the longest name that a target starts with decides. A slash and a pattern may
follow, which the message of a record then has to match.
-/

namespace RunningConfig.Journal

/-- Which records of the targets under a name are shown. -/
structure Directive where
  /-- What the target starts with; none for every target. -/
  name : Option String
  /-- The highest rank that is shown; zero shows nothing. -/
  rank : Nat
  deriving DecidableEq, Repr

/-- A filter of records. -/
structure Filter where
  /-- The directives; of those that apply, one with the longest name decides. -/
  directives : List Directive
  /-- What the message of a record must hold, if anything. -/
  pattern : Option Pattern := none
  deriving Repr

/-- The highest rank there is. -/
def highestRank : Nat := Level.trace.rank

/-- The rank of the name of a level, in upper or lower case. -/
def rank? (text : String) : Option Nat :=
  [("off", 0), ("error", Level.error.rank), ("warn", Level.warn.rank), ("info", Level.info.rank),
    ("debug", Level.debug.rank), ("trace", Level.trace.rank)].lookup text.toLower

/-- A text without the white space at its ends. -/
def trimmed (text : String) : String := String.ofList (Text.trim text.toList)

/-- Warn of a part of a filter that is ignored. -/
def ignoring (part : String) : String :=
  "warning: invalid logging spec '" ++ part ++ "', ignoring it\n"

/-- The directive of a text, or a warning. -/
def Directive.ofText (text : String) : Except String Directive :=
  match Text.pieces '=' text with
  | [only] =>
    match rank? only with
    | some rank => .ok { name := none, rank }
    | none => .ok { name := some only, rank := highestRank }
  | [name, level] =>
    let level := trimmed level
    if level.isEmpty then .ok { name := some name, rank := highestRank }
    else
      match rank? level with
      | some rank => .ok { name := some name, rank }
      | none => .error (ignoring level)
  | _ => .error (ignoring text)

namespace Filter

/-- Add a directive, in place of an earlier one for the same name. -/
def insert (directives : List Directive) (directive : Directive) : List Directive :=
  if directives.any fun old => old.name = directive.name then
    directives.map fun old => if old.name = directive.name then directive else old
  else directives ++ [directive]

/-- The directives of a text, and the warnings it gives. -/
def directivesOf (text : String) : List Directive × String :=
  let parts := ((Text.pieces ',' text).map trimmed).filter (· ≠ "")
  parts.foldl (fun (directives, warnings) part =>
    match Directive.ofText part with
    | .ok directive => (insert directives directive, warnings)
    | .error warning => (directives, warnings ++ warning)) ([], "")

/-- Only errors are shown by a filter without directives. -/
def ofDirectives (directives : List Directive) (pattern : Option Pattern) : Filter :=
  { directives := if directives.isEmpty then [{ name := none, rank := Level.error.rank }]
      else directives,
    pattern }

/-- The filter of a text, and the warnings it gives. Without a text, all but debug and trace
records are shown. -/
def ofText (text : Option String) : Filter × String :=
  match text with
  | none => ({ directives := [{ name := none, rank := Level.info.rank }] }, "")
  | some text =>
    match Text.pieces '/' text with
    | [list] =>
      let (directives, warnings) := directivesOf list
      (ofDirectives directives none, warnings)
    | [list, pattern] =>
      let (directives, warnings) := directivesOf list
      match Pattern.ofText? pattern with
      | some pattern => (ofDirectives directives (some pattern), warnings)
      | none =>
        (ofDirectives directives none,
          warnings ++ "warning: invalid regex filter - " ++ pattern ++ "\n")
    | _ =>
      (ofDirectives [] none,
        "warning: invalid logging spec '" ++ text ++ "', ignoring it (too many '/'s)\n")

/-- The length of the name of a directive, zero for every target. -/
def reach (directive : Directive) : Nat := (directive.name.map String.utf8ByteSize).getD 0

/-- The directive that decides for a target: of those with the longest name the last one. -/
def deciding? (directives : List Directive) (target : String) : Option Directive :=
  let applying := directives.filter fun directive => directive.name.all (target.startsWith ·)
  applying.foldl (fun best directive =>
    match best with
    | some old => if reach old ≤ reach directive then some directive else some old
    | none => some directive) none

/-- A record is shown. -/
def shows (filter : Filter) (record : Record) : Bool :=
  (deciding? filter.directives record.target).any (fun directive =>
      record.level.rank ≤ directive.rank)
    && filter.pattern.all fun pattern => pattern.occursIn record.message

/-- The text of the records that are shown. -/
def text (filter : Filter) (records : List Record) : String :=
  String.join ((records.filter filter.shows).map Record.text)

end Filter

end RunningConfig.Journal
