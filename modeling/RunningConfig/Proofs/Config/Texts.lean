import RunningConfig.Proofs.Config.Accepted
import RunningConfig.Proofs.Text.Lines
/-!
# The texts of a configuration

The texts that reach the document as they are given. Some are free: nothing checks what they hold.
The others are names, which an accepted configuration has checked.
-/

namespace RunningConfig.Config

open Text (Unbroken)

/-- The texts that nothing checks, in the order of the document: the version, the host name, the
credentials, the domain name, the descriptions and the banner. -/
def freeTexts (config : Config) : List String :=
  config.version.toList
    ++ config.hostname.toList
    ++ (config.enableSecret.map EnableSecret.plaintext).toList
    ++ config.enablePassword.toList
    ++ config.users.map (fun account => account.password.plaintext)
    ++ config.ipDomainName.toList
    ++ config.interfaces.filterMap Interface.description
    ++ config.bannerMotd.toList
    ++ config.lines.filterMap fun (_, line) => line.password.map Password.plaintext

/-- The names that are checked: port indexes and method lists. -/
def names (config : Config) : List String :=
  config.ports.map Port.index
    ++ config.methods.map (fun (_, method) => method.methodList)
    ++ config.lines.filterMap fun (_, line) => line.login.bind LoginPolicy.methodList

/-- Every text field of a configuration. -/
def texts (config : Config) : List String := config.freeTexts ++ config.names

/-- No name of an accepted configuration holds a line feed. -/
theorem Accepted.unbroken_names {config : Config} (accepted : config.Accepted) :
    ∀ name ∈ config.names, Unbroken name := by
  simp only [names, List.forall_mem_append, List.forall_mem_map, List.mem_filterMap]
  refine ⟨⟨?_, ?_⟩, ?_⟩
  · exact fun port member => Name.newline_not_mem_portIndex (accepted.ports port member)
  · exact fun method member => Name.not_mem_methodList rfl (accepted.methods method member).2
  · rintro name ⟨line, member, named⟩
    exact Name.not_mem_methodList rfl (accepted.logins line member name named)

/-- A class of lines is listed with the line it is configured with. -/
theorem mem_lines {config : Config} {kind : LineClass} {line : Line} :
    (kind, line) ∈ config.lines ↔ config.line? kind = some line := by
  simp [lines, Keyword.mem_all]

/-- A property of every class of lines that is configured, class by class. -/
theorem forall_mem_lines {config : Config} {holds : LineClass × Line → Prop} :
    (∀ line ∈ config.lines, holds line) ↔
      (∀ line, config.lineCon = some line → holds (.console, line)) ∧
      (∀ line, config.lineAux = some line → holds (.auxiliary, line)) ∧
      ∀ line, config.lineVty = some line → holds (.virtualTerminal, line) := by
  constructor
  · intro each
    exact ⟨fun _ found => each _ (mem_lines.mpr found), fun _ found => each _ (mem_lines.mpr found),
      fun _ found => each _ (mem_lines.mpr found)⟩
  · rintro ⟨console, auxiliary, terminals⟩ ⟨kind, line⟩ member
    have found := mem_lines.mp member
    cases kind with
    | console => exact console line found
    | auxiliary => exact auxiliary line found
    | virtualTerminal => exact terminals line found

/-- A property of every text of a configuration, field by field. -/
structure EveryText (config : Config) (holds : String → Prop) : Prop where
  /-- The version tag. -/
  version : ∀ text, config.version = some text → holds text
  /-- The name of the router. -/
  hostname : ∀ text, config.hostname = some text → holds text
  /-- The secret of privileged mode. -/
  enableSecret : ∀ text, config.enableSecret.map EnableSecret.plaintext = some text → holds text
  /-- The password of privileged mode. -/
  enablePassword : ∀ text, config.enablePassword = some text → holds text
  /-- The names of the method lists. -/
  methods : ∀ method ∈ config.methods, holds method.2.methodList
  /-- The passwords of the users. -/
  users : ∀ account ∈ config.users, holds account.password.plaintext
  /-- The domain name. -/
  domain : ∀ text, config.ipDomainName = some text → holds text
  /-- The index and the description of each interface. -/
  interfaces : ∀ port ∈ config.interfaces,
    holds port.port.index ∧ ∀ text, port.description = some text → holds text
  /-- The index of each passive port. -/
  passive : ∀ port ∈ config.passivePorts, holds port.index
  /-- The message of the day. -/
  banner : ∀ text, config.bannerMotd = some text → holds text
  /-- The password of each class of lines, and the method list of its login. -/
  lines : ∀ line ∈ config.lines,
    (∀ text, line.2.password.map Password.plaintext = some text → holds text) ∧
    ∀ name, line.2.login.bind LoginPolicy.methodList = some name → holds name

/-- What holds of every text holds of each field, and conversely. -/
theorem forall_mem_texts {config : Config} {holds : String → Prop} :
    (∀ text ∈ config.texts, holds text) ↔ config.EveryText holds := by
  simp only [texts, freeTexts, names, ports, List.map_append, List.forall_mem_append,
    List.forall_mem_map, List.forall_mem_filterMap, Option.mem_toList]
  constructor
  · rintro ⟨⟨⟨⟨⟨⟨⟨⟨⟨version, hostname⟩, enableSecret⟩, enablePassword⟩, users⟩, domain⟩,
      descriptions⟩, banner⟩, passwords⟩, ⟨⟨indexes, passive⟩, methods⟩, logins⟩
    exact {
      version, hostname, enableSecret, enablePassword, methods, users, domain, passive, banner
      interfaces := fun port member => ⟨indexes port member, descriptions port member⟩
      lines := fun line member => ⟨passwords line member, logins line member⟩ }
  · intro every
    exact ⟨⟨⟨⟨⟨⟨⟨⟨⟨every.version, every.hostname⟩, every.enableSecret⟩, every.enablePassword⟩,
      every.users⟩, every.domain⟩, fun port member => (every.interfaces port member).2⟩,
      every.banner⟩, fun line member => (every.lines line member).1⟩,
      ⟨⟨fun port member => (every.interfaces port member).1, every.passive⟩, every.methods⟩,
      fun line member => (every.lines line member).2⟩

end RunningConfig.Config
