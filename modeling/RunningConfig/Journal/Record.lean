/-!
# Records of the journal

The program tells what it does in a journal. A record has a level, the part of the program that
speaks, and a message.
-/

namespace RunningConfig.Journal

/-- How much a record matters, the most important first. -/
inductive Level where
  /-- The program cannot go on. -/
  | error
  /-- Something is not as it should be. -/
  | warn
  /-- What is of interest to the user. -/
  | info
  /-- What helps to find a mistake. -/
  | debug
  /-- Every step. -/
  | trace
  deriving DecidableEq, Repr

namespace Level

/-- The rank of a level, one for the most important. -/
def rank : Level → Nat
  | error => 1
  | warn => 2
  | info => 3
  | debug => 4
  | trace => 5

/-- The label of a level, five characters wide. -/
def label : Level → String
  | error => "ERROR"
  | warn => "WARN "
  | info => "INFO "
  | debug => "DEBUG"
  | trace => "TRACE"

end Level

/-- A record of the journal. -/
structure Record where
  /-- How much the record matters. -/
  level : Level
  /-- The part of the program that speaks. -/
  target : String
  /-- What is told. -/
  message : String
  deriving DecidableEq, Repr

namespace Record

/-- The text of a record; further lines of its message are indented. -/
def text (record : Record) : String :=
  "[" ++ record.level.label ++ " " ++ record.target ++ "] "
    ++ record.message.replace "\n" "\n    " ++ "\n"

end Record

end RunningConfig.Journal
