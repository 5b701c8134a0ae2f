import RunningConfig.Credential
import RunningConfig.Keyword
/-!
# Access to the router

Who may use the router and how that is checked: the enable secret, local users with their
passwords, and the method lists of authentication.
-/

namespace RunningConfig

/-- The lowest privilege level of a local user. -/
def lowestPrivilege : UInt8 := 1

/-- The highest privilege level of a local user. -/
def highestPrivilege : UInt8 := 15

/-- The secret of privileged mode. -/
structure EnableSecret where
  /-- How the secret is stored. -/
  encryption : Encryption
  /-- The secret in plain text. -/
  plaintext : String
  deriving DecidableEq, Repr, Inhabited

/-- Where a credential is checked. -/
inductive AuthenticationSource where
  /-- The local users. -/
  | localUsers
  /-- The enable password. -/
  | enable
  /-- The radius servers. -/
  | groupRadius
  /-- The tacacs+ servers. -/
  | groupTacacs
  /-- The ldap servers. -/
  | groupLdap
  /-- The kerberos servers. -/
  | groupKerberos
  /-- The line password. -/
  | line
  deriving DecidableEq, Repr, Inhabited

instance : Keyword AuthenticationSource where
  all := [.localUsers, .enable, .groupRadius, .groupTacacs, .groupLdap, .groupKerberos, .line]
  word
    | .localUsers => "local"
    | .enable => "enable"
    | .groupRadius => "group radius"
    | .groupTacacs => "group tacacs+"
    | .groupLdap => "group ldap"
    | .groupKerberos => "group kerberos"
    | .line => "line"
  mem_all choice := by cases choice <;> simp
  word_injective := by
    intro left right
    cases left <;> cases right <;> simp

/-- A named method list and the sources it tries in order. -/
structure AuthenticationMethod where
  /-- The name of the list, "default" or one of the user's own. -/
  methodList : String
  /-- The sources, first tried first. -/
  sources : List AuthenticationSource
  deriving DecidableEq, Repr, Inhabited

/-- The method lists, by what they authenticate. -/
structure Authentication where
  /-- Access to a line. -/
  login : Option AuthenticationMethod := none
  /-- Access to privileged mode. -/
  enable : Option AuthenticationMethod := none
  /-- Point-to-point links. -/
  ppp : Option AuthenticationMethod := none
  deriving DecidableEq, Repr, Inhabited

namespace Authentication

/-- The method lists that are set, each with the keyword of what it authenticates, in the
order they are shown. -/
def methods (authentication : Authentication) : List (String × AuthenticationMethod) :=
  [("login", authentication.login), ("enable", authentication.enable),
    ("ppp", authentication.ppp)].filterMap fun (keyword, method) => method.map (keyword, ·)

end Authentication

/-- The names local users may have. -/
inductive Username where
  /-- The user of the name `cisco`. -/
  | cisco
  /-- The user of the name `class`. -/
  | classUser
  deriving DecidableEq, Repr, Inhabited

instance : Keyword Username where
  all := [.cisco, .classUser]
  word
    | .cisco => "cisco"
    | .classUser => "class"
  mem_all choice := by cases choice <;> simp
  word_injective := by
    intro left right
    cases left <;> cases right <;> simp

/-- A password of a user or of a line. -/
structure Password where
  /-- How the password is stored; plain text when unset. -/
  encryption : Option Encryption := none
  /-- The password in plain text. -/
  plaintext : String
  deriving DecidableEq, Repr, Inhabited

namespace Password

/-- The storage type in force. -/
def effectiveEncryption (password : Password) : Encryption :=
  password.encryption.getD .plaintext

end Password

/-- A local user. -/
structure User where
  /-- The name. -/
  username : Username
  /-- The privilege level. -/
  privilege : Option UInt8 := none
  /-- The password. -/
  password : Password
  deriving DecidableEq, Repr, Inhabited

end RunningConfig
