import RunningConfig.Export
/-!
# What the command line asks for

The arguments are a source and the name of the exported file, in this order, with options
anywhere among them. After a double hyphen nothing is an option any more. Arguments are read
from left to right: asking for help or the version counts as soon as it is met, unless an
argument before it is wrong.
-/

namespace RunningConfig.CommandLine

/-- Where a configuration comes from. -/
inductive Origin where
  /-- A file, by its path. -/
  | file (path : String)
  /-- A template, by its name. -/
  | template (name : String)
  deriving DecidableEq, Repr

/-- What the name of a template is written after. -/
def templateMark : String := "template:"

/-- The origin that a source names. -/
def Origin.ofText (source : String) : Origin :=
  if source.startsWith templateMark then
    .template (String.ofList (source.toList.drop templateMark.length))
  else .file source

/-- What the command line asks for. -/
inductive Invocation where
  /-- Show how the program is used. -/
  | help
  /-- Show the version of the program. -/
  | version
  /-- List the names of the templates. -/
  | listTemplates
  /-- Render the configuration of a source and export the text. -/
  | render (source name directory : String)
  deriving DecidableEq, Repr

/-- Arguments that have been read. -/
structure Arguments where
  /-- The source and the name, as far as given. -/
  positionals : List String := []
  /-- The directory to export to, if given. -/
  directory : Option String := none
  /-- The list of templates is asked for. -/
  listTemplates : Bool := false
  deriving DecidableEq, Repr

namespace Arguments

/-- Add a positional argument, of which there are at most two. -/
def addPositional (arguments : Arguments) (text : String) : Option Arguments :=
  if arguments.positionals.length < 2 then
    some { arguments with positionals := arguments.positionals ++ [text] }
  else none

/-- Set the directory, which must not be empty or given twice. -/
def setDirectory (arguments : Arguments) (text : String) : Option Arguments :=
  if text.isEmpty || arguments.directory.isSome then none
  else some { arguments with directory := some text }

/-- Ask for the list of templates, once. -/
def askForTemplates (arguments : Arguments) : Option Arguments :=
  if arguments.listTemplates then none else some { arguments with listTemplates := true }

/-- What the arguments ask for, once all are read. The list of templates takes no positional
argument, everything else both. -/
def invocation? (arguments : Arguments) : Option Invocation :=
  match arguments.listTemplates, arguments.positionals with
  | true, [] => some .listTemplates
  | false, [source, name] =>
    some (.render source name (arguments.directory.getD Export.defaultDirectory))
  | _, _ => none

end Arguments

/-- An argument that is read as an option, a lone hyphen excepted. -/
def looksLikeOption (argument : String) : Bool :=
  argument.startsWith "-" && argument ≠ "-"

/-- The name of a long option and the value attached to it. -/
def splitLong (argument : String) : String × Option String :=
  let text := argument.toList.drop 2
  let name := text.takeWhile (· ≠ '=')
  (String.ofList name,
    match text.dropWhile (· ≠ '=') with
    | [] => none
    | _ :: value => some (String.ofList value))

/-- What a single argument is. -/
inductive Word where
  /-- No option follows. -/
  | endOfOptions
  /-- The option that asks for help. -/
  | help
  /-- The option that asks for the version. -/
  | version
  /-- The option that asks for the list of templates. -/
  | listTemplates
  /-- The directory, which is the next argument if it is not attached. -/
  | directory (attached : Option String)
  /-- No option: the source or the name. -/
  | positional (text : String)
  /-- An option that is unknown or wrongly written. -/
  | wrong
  deriving DecidableEq, Repr

/-- What an argument is: of short options only the first letter counts. -/
def Word.ofText (argument : String) : Word :=
  if argument = "--" then .endOfOptions
  else if argument.startsWith "--" then
    match splitLong argument with
    | ("output-dir", attached) => .directory attached
    | ("list-templates", none) => .listTemplates
    | ("help", none) => .help
    | ("version", none) => .version
    | _ => .wrong
  else if looksLikeOption argument then
    match argument.toList with
    | ['-', 'o'] => .directory none
    | '-' :: 'o' :: '=' :: value | '-' :: 'o' :: value => .directory (some (String.ofList value))
    | '-' :: 'h' :: _ => .help
    | '-' :: 'V' :: _ => .version
    | _ => .wrong
  else .positional argument

/-- Read arguments from left to right. -/
def readArguments : List String → Arguments → Option Invocation
  | [], arguments => arguments.invocation?
  | argument :: rest, arguments =>
    match Word.ofText argument with
    | .endOfOptions => (rest.foldlM Arguments.addPositional arguments).bind Arguments.invocation?
    | .help => some .help
    | .version => some .version
    | .listTemplates => arguments.askForTemplates.bind (readArguments rest)
    | .directory (some text) => (arguments.setDirectory text).bind (readArguments rest)
    | .directory none =>
      match rest with
      | [] => none
      | text :: rest =>
        if looksLikeOption text then none
        else (arguments.setDirectory text).bind (readArguments rest)
    | .positional text => (arguments.addPositional text).bind (readArguments rest)
    | .wrong => none

/-- What the command line asks for; nothing if it is wrong. -/
def Invocation.ofArguments? (arguments : List String) : Option Invocation :=
  readArguments arguments {}

end RunningConfig.CommandLine
