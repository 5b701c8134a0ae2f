import RunningConfig.Render.Directive
import RunningConfig.Render.Fault
/-!
# Lines of the three classes

A class of lines has a header, which is there even when the class is not configured, and a body
of five lines when it is. What is unset in the body leaves an indented placeholder.
-/

namespace RunningConfig.Render

/-- The header of a class: its word, its first line number and its last. Without a last number
the blank in front of it stays. -/
def lineHeader (kind : LineClass) (line : Option Line) : String :=
  "line " ++ Keyword.word kind ++ " "
    ++ toString ((line.bind Line.portStart).getD Default.linePortStart).toNat ++ " "
    ++ match (line.bind Line.portEnd).or (Default.linePortEnd? kind) with
      | some last => toString last.toNat
      | none => ""

/-- The password of a line; only an encoded one shows its storage type. -/
def linePassword (password : Password) : Rendered String := do
  let encryption := password.effectiveEncryption
  let encoded ← credential password.plaintext encryption
  return if encryption = .plaintext then "password " ++ encoded
    else "password " ++ encryption.toText ++ " " ++ encoded

/-- The login policy of a line. -/
def login : Option LoginPolicy → String
  | some policy =>
    "login " ++ Keyword.word policy.method
      ++ match policy.methodList with
        | some name => " " ++ name
        | none => ""
  | none => "no login"

/-- The five lines of the body: exec timeout, password, logging, login and transport input. -/
def lineBody (line : Line) : Rendered (List String) := do
  let password ← match line.password with
    | some password => linePassword password
    | none => .ok Default.placeholder
  let minutes := match line.execTimeout.minutes with
    | some minutes => toString minutes.toNat
    | none => ""
  return [
    " exec-timeout " ++ minutes ++ " " ++ toString line.execTimeout.seconds.toNat,
    " " ++ password,
    " " ++ orPlaceholder (line.logging.map fun mode => "logging " ++ Keyword.word mode),
    " " ++ login line.login,
    " " ++ orPlaceholder
      (line.transportInput.map fun protocol => "transport input " ++ Keyword.word protocol)]

/-- The header and, when the class is configured, its body. -/
def lineClass (kind : LineClass) (line : Option Line) : Rendered (List String) := do
  let body ← match line with
    | some line => lineBody line
    | none => .ok []
  return lineHeader kind line :: body

end RunningConfig.Render
