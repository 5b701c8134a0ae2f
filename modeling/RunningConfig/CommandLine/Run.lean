import RunningConfig.CommandLine.Invocation
import RunningConfig.Journal.Filter
import RunningConfig.Template
/-!
# Running the program

The program loads a configuration, renders it and exports the text. Nothing is written before
both have succeeded. What it did is told in the journal on standard output; why it failed, on
standard error.
-/

namespace RunningConfig.CommandLine

open Journal (Record Filter)

/-- How a run ends. -/
structure Report where
  /-- Zero for success, one for a failure, two for a wrong command line. -/
  code : UInt8
  /-- What is written to the standard output. -/
  output : String := ""
  /-- What is written to the standard error. -/
  errors : String := ""
  deriving DecidableEq, Repr

/-- The parts of the program that speak in the journal. -/
def loadTarget : String := "ciscoconfrs::templates"

/-- The part that renders a document. -/
def renderTarget : String := "ciscoconfrs::render::document"

/-- The part that exports a text. -/
def exportTarget : String := "ciscoconfrs::export"

/-- What is told of loading: nothing of a template that is not there. -/
def loadRecords : Origin → List Record
  | .file path =>
    [{ level := .debug, target := loadTarget,
       message := "loading device config from '" ++ path ++ "'" }]
  | .template name =>
    if Template.names.contains name then
      [{ level := .debug, target := loadTarget,
         message := "loading embedded template '" ++ name ++ "'" }]
    else []

/-- A section can be rendered. -/
def succeeds (config : Config) (part : Section) : Bool :=
  match part.content config with
  | .ok _ => true
  | .error _ => false

/-- The sections up to the first one that fails, that one included. -/
def attempted (config : Config) : List Section :=
  Section.layout.takeWhile (succeeds config)
    ++ ((Section.layout.dropWhile (succeeds config)).take 1)

/-- What is told of rendering: every section that is attempted, and the document. -/
def renderRecords (config : Config) : List Record :=
  (attempted config).map (fun part =>
    { level := .debug, target := renderTarget,
      message := "rendering section '" ++ part.name ++ "'" })
    ++ match config.renderLines with
      | .ok lines =>
        [{ level := .info, target := renderTarget,
           message := "rendered config for '" ++ config.hostname.getD "<no hostname>" ++ "', "
            ++ toString lines.length ++ " lines" }]
      | .error _ => []

/-- What is told of an export. -/
def exportRecords : Except Export.Fault String → List Record
  | .ok path =>
    [{ level := .info, target := exportTarget,
       message := "config saved successfully to '" ++ path ++ "'" }]
  | .error fault => [{ level := .error, target := exportTarget, message := fault.message }]

/-- The configuration of an origin. -/
def Origin.load {m : Type → Type} [Monad m] (files : Files m) :
    Origin → m (Except LoadFault Config)
  | .file path => Config.ofFile files path
  | .template name => return Template.load name

/-- Load, render and export: the records told, and the message of a failure. -/
def renderSource {m : Type → Type} [Monad m] (files : Files m) (source name directory : String) :
    m (List Record × Except String Unit) := do
  let origin := Origin.ofText source
  match ← origin.load files with
  | .error fault =>
    return (loadRecords origin, .error ("failed loading '" ++ source ++ "': " ++ fault.message))
  | .ok config =>
    let records := loadRecords origin ++ renderRecords config
    match config.render with
    | .error fault =>
      return (records, .error ("failed rendering '" ++ source ++ "': " ++ fault.message))
    | .ok text =>
      let result ← Export.write files text name directory
      return (records ++ exportRecords result,
        match result with
        | .ok _ => .ok ()
        | .error fault => .error fault.message)

/-- The help text. -/
def helpText : String := Config.textOfLines [
  "structured cisco ios router configs rendered to device ready text, in rust!",
  "",
  "Usage: ciscoconfrs [OPTIONS] [SOURCE] [OUTPUT_NAME]",
  "",
  "Arguments:",
  "  [SOURCE]       Yaml config file to render, or `template:NAME` for an embedded template",
  "  [OUTPUT_NAME]  Output file name, `.txt` is appended",
  "",
  "Options:",
  "  -o, --output-dir <OUTPUT_DIR>  Directory the rendered config is written to "
    ++ "[default: output]",
  "      --list-templates           Print the embedded template names and exit",
  "  -h, --help                     Print help",
  "  -V, --version                  Print version"]

/-- The name and version of the program. -/
def versionText : String := "ciscoconfrs 0.0.1\n"

/-- What is told of a wrong command line. -/
def usageText : String := "Usage: ciscoconfrs [OPTIONS] [SOURCE] [OUTPUT_NAME]\n"

/-- Run what the command line asks for. -/
def run {m : Type → Type} [Monad m] (files : Files m) (filter : Option String) :
    Option Invocation → m Report
  | none => return { code := 2, errors := usageText }
  | some .help => return { code := 0, output := helpText }
  | some .version => return { code := 0, output := versionText }
  | some .listTemplates =>
    return { code := 0, output := Config.textOfLines Template.names,
             errors := (Filter.ofText filter).2 }
  | some (.render source name directory) => do
    let (filter, warnings) := Filter.ofText filter
    let (records, result) ← renderSource files source name directory
    match result with
    | .ok () => return { code := 0, output := filter.text records, errors := warnings }
    | .error message =>
      return { code := 1, output := filter.text records,
               errors := warnings ++ message ++ "\n" }

end RunningConfig.CommandLine
