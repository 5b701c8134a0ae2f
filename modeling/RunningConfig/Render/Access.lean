import RunningConfig.Render.Default
import RunningConfig.Render.Fault
/-!
# The lines of access

The lines that say who may use the router: the enable secret, the authentication methods and the
local users. A list without users leaves one placeholder.
-/

namespace RunningConfig.Render

/-- The line of the enable secret. -/
def enableSecret (secret : EnableSecret) : Rendered String := do
  let encoded ← credential secret.plaintext secret.encryption
  return "enable secret " ++ secret.encryption.toText ++ " " ++ encoded

/-- The line of an authentication method: its keyword, its list and its sources in order. -/
def authentication (keyword : String) (method : AuthenticationMethod) : String :=
  "aaa authentication " ++ keyword ++ " " ++ method.methodList ++ " "
    ++ " ".intercalate (method.sources.map Keyword.word)

/-- The line of a user. -/
def user (user : User) : Rendered String := do
  let encryption := user.password.effectiveEncryption
  let password ← credential user.password.plaintext encryption
  return "username " ++ Keyword.word user.username ++ " privilege "
    ++ toString (user.privilege.getD Default.privilege).toNat
    ++ " password " ++ encryption.toText ++ " " ++ password

/-- The lines of every user. -/
def users (items : List User) : Rendered (List String) :=
  if items.isEmpty then .ok [Default.placeholder] else items.mapM user

end RunningConfig.Render
