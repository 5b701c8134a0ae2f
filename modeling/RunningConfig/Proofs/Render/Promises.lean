import RunningConfig.Proofs.Name
import RunningConfig.Proofs.Render.Items
/-!
# What an accepted configuration shows

The checks of a configuration look at its users, ports, methods and lines; the document shows the
same data, found elsewhere and mixed with defaults and free text. Whatever of it a reader picks out
of the lines keeps what the checks promise.
-/

namespace RunningConfig

open Text

/-- A user violates nothing exactly when the privilege level, if set, is in range. -/
theorem User.violations_eq_nil {user : User} :
    user.violations = [] ↔ ∀ level, user.privilege = some level →
      lowestPrivilege ≤ level ∧ level ≤ highestPrivilege := by
  simp only [violations]
  cases user.privilege with
  | none => simp
  | some level =>
    by_cases valid : lowestPrivilege ≤ level ∧ level ≤ highestPrivilege <;> simp [valid]

namespace Config

open Render

variable {config : Config} {lines : List String}

/-- The users of an accepted configuration have privilege levels in range, as set or by default. -/
theorem privilege_of_validate (valid : config.validate = .ok ()) {user : User}
    (member : user ∈ config.users) :
    1 ≤ (user.privilege.getD Default.privilege).toNat ∧
      (user.privilege.getD Default.privilege).toNat ≤ 15 := by
  have none := validate_eq_ok.mp valid
  simp only [violations, List.append_eq_nil_iff, List.flatMap_eq_nil_iff] at none
  have levels := User.violations_eq_nil.mp (none.1.1.1 user member)
  cases given : user.privilege with
  | none => decide
  | some level =>
    obtain ⟨above, below⟩ := levels level given
    exact ⟨UInt8.le_iff_toNat_le.mp above, UInt8.le_iff_toNat_le.mp below⟩

/-- The keyword of a method says what it authenticates. -/
theorem keyword_of_mem_methods {keyword : String} {method : AuthenticationMethod}
    (member : (keyword, method) ∈ config.methods) : keyword ∈ ["login", "enable", "ppp"] := by
  unfold methods at member
  cases given : config.aaaNewModel with
  | none => simp [given] at member
  | some authentication =>
    rw [given] at member
    have each : ∀ method ∈ authentication.methods, method.1 ∈ ["login", "enable", "ppp"] :=
      Authentication.forall_mem_methods.mpr
        ⟨fun _ _ => by simp, fun _ _ => by simp, fun _ _ => by simp⟩
    exact each _ member

/-- The line of an accepted port is its directive, a family and a valid index. -/
theorem exists_of_mem_ports (valid : config.validate = .ok ()) {port : Port}
    (member : port ∈ config.ports) (directive : String) :
    ∃ (family : InterfaceFamily) (index : String), Name.isPortIndex index = true ∧
      directive ++ port.name = directive ++ Keyword.word family ++ index := by
  have accepted := (accepted_of_validate valid).ports port member
  exact ⟨port.family, port.index, accepted, by rw [Port.name, String.append_assoc]⟩

/-- The line of an accepted login policy is a method, and at most the name of a list after it. -/
theorem login_of_mem_lines (valid : config.validate = .ok ()) {kind : LineClass} {line : Line}
    {policy : LoginPolicy} (member : (kind, line) ∈ config.lines)
    (given : line.login = some policy) :
    ∃ method : LoginMethod, " " ++ login (some policy) = " login " ++ Keyword.word method ∨
      ∃ name, Name.IsListName name ∧
        " " ++ login (some policy) = " login " ++ Keyword.word method ++ " " ++ name := by
  have names := (accepted_of_validate valid).logins (kind, line) member
  obtain ⟨method, list⟩ := policy
  refine ⟨method, ?_⟩
  rw [login_some]
  cases list with
  | none =>
    left
    simp only [← String.append_assoc]
    exact String.append_empty
  | some name =>
    right
    have accepted := names name (by rw [given]; rfl)
    refine ⟨name, Name.isListName_of_isMethodList accepted, ?_⟩
    simp only [Option.map_some, Option.getD_some, ← String.append_assoc]
    rfl

/-- What a reader of some lines can rely on. -/
structure Reliable (lines : List String) : Prop where
  /-- The name of an interface is a family and an index. -/
  interfaces : ∀ line ∈ lines, line.startsWith "interface " = true →
    ∃ (family : InterfaceFamily) (index : String), Name.isPortIndex index = true ∧
      line = "interface " ++ Keyword.word family ++ index
  /-- So is that of a passive port. -/
  passivePorts : ∀ line ∈ lines, line.startsWith " passive-interface " = true →
    ∃ (family : InterfaceFamily) (index : String), Name.isPortIndex index = true ∧
      line = " passive-interface " ++ Keyword.word family ++ index
  /-- A user has a privilege level from 1 to 15. -/
  users : ∀ line ∈ lines, line.startsWith "username " = true →
    ∃ (name : Username) (level : Nat) (rest : String), 1 ≤ level ∧ level ≤ 15 ∧
      line = "username " ++ Keyword.word name ++ " privilege " ++ toString level
        ++ " password " ++ rest
  /-- A method has a keyword, the name of a list and a source or more. -/
  methods : ∀ line ∈ lines, line.startsWith "aaa authentication " = true →
    ∃ keyword ∈ ["login", "enable", "ppp"], ∃ (name : String) (sources : List AuthenticationSource),
      Name.IsListName name ∧ sources ≠ [] ∧
      line = "aaa authentication " ++ keyword ++ " " ++ name ++ " "
        ++ " ".intercalate (sources.map Keyword.word)
  /-- A login policy is a method, and at most the name of a list after it. -/
  logins : ∀ line ∈ lines, line.startsWith " login " = true → ∃ method : LoginMethod,
    line = " login " ++ Keyword.word method ∨
      ∃ name, Name.IsListName name ∧ line = " login " ++ Keyword.word method ++ " " ++ name

/-- The lines of an accepted configuration are reliable. -/
theorem reliable_of_validate (valid : config.validate = .ok ())
    (rendered : config.renderLines = .ok lines) : Reliable lines where
  interfaces line listed begins := by
    have found := mem_starting.mpr ⟨listed, begins⟩
    rw [starting_interface rendered] at found
    obtain ⟨port, member, rfl⟩ := List.mem_map.mp found
    exact exists_of_mem_ports valid (List.mem_append_left _ (List.mem_map_of_mem member)) _
  passivePorts line listed begins := by
    have found := mem_starting.mpr ⟨listed, begins⟩
    rw [starting_passivePorts rendered] at found
    obtain ⟨port, member, rfl⟩ := List.mem_map.mp found
    exact exists_of_mem_ports valid (List.mem_append_right _ member) _
  users line listed begins := by
    have found := mem_starting.mpr ⟨listed, begins⟩
    obtain ⟨account, member, shown⟩ := Rendered.exists_of_mem_mapM (mapM_user rendered) found
    obtain ⟨password, -, rfl⟩ := Rendered.bind_pure_eq_ok.mp shown
    obtain ⟨above, below⟩ := privilege_of_validate valid member
    exact ⟨account.username, _, account.password.effectiveEncryption.toText ++ " " ++ password,
      above, below, by simp only [String.append_assoc]⟩
  methods line listed begins := by
    have found := mem_starting.mpr ⟨listed, begins⟩
    rw [starting_methods rendered] at found
    obtain ⟨⟨keyword, method⟩, member, rfl⟩ := List.mem_map.mp found
    obtain ⟨sources, name⟩ := (accepted_of_validate valid).methods _ member
    exact ⟨keyword, keyword_of_mem_methods member, method.methodList, method.sources,
      Name.isListName_of_isMethodList name, sources, rfl⟩
  logins line listed begins := by
    obtain ⟨kind, cfg, policy, configured, given, rfl⟩ :=
      exists_login_of_mem rendered (mem_starting.mpr ⟨listed, begins⟩)
    exact login_of_mem_lines valid (mem_lines.mpr configured) given

/-- A configuration that uses every checked part is accepted, and its lines are reliable. -/
theorem reliable_of_branch_office : ∃ (config : Config) (lines : List String),
    config.validate = .ok () ∧ config.renderLines = .ok lines ∧ Reliable lines ∧
      " login authentication VTY-users" ∈ lines := by
  let config : Config := {
    aaaNewModel := some {
      login := some { methodList := "VTY-users", sources := [.groupTacacs, .localUsers] } }
    users := [{ username := .cisco, privilege := some 1, password := { plaintext := "cisco" } }]
    interfaces := [{ port := { family := .gigabitEthernet, index := "0/0.10" } }]
    routerOspf := some {
      processId := 1
      passiveInterfaces := some [{ family := .gigabitEthernet, index := "0/0.10" }] }
    lineVty := some {
      login := some { method := .authentication, methodList := some "VTY-users" }
      execTimeout := { seconds := 0 } } }
  have valid : config.validate = .ok () := by decide
  obtain ⟨lines, rendered⟩ : ∃ lines, config.renderLines = .ok lines := ⟨_, rfl⟩
  have reliable := reliable_of_validate valid rendered
  obtain rfl := Except.ok.inj rendered
  exact ⟨config, _, valid, rfl, reliable, by decide⟩

end Config

end RunningConfig
