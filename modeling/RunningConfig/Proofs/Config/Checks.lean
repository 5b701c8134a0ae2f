import RunningConfig.Proofs.Config.Accepted
/-!
# What is checked of a configuration, and in which order

Every value that the types leave to check stands at a place of its own. `Config.checks` lists them:
the privileges of the users, the ports of the interfaces, the passive ports, the three methods of
authentication with their sources before their names, and the lines. A configuration is accepted
exactly when every check is passed, and is otherwise refused for the first one that is not.
-/

namespace RunningConfig

/-- A value of a configuration that is checked, with what it is a value of. -/
inductive Check where
  /-- The privilege level of a user. -/
  | privilege (username : Username) (level : UInt8)
  /-- The index of a port. -/
  | portIndex (port : Port)
  /-- The sources of an authentication method. -/
  | sources (keyword : String) (tried : List AuthenticationSource)
  /-- The method list of an authentication method. -/
  | methodList (keyword name : String)
  /-- The method list of a login policy. -/
  | loginMethodList (kind : LineClass) (name : String)
  deriving DecidableEq, Repr

namespace Check

/-- The value is one the device accepts. -/
def Passed : Check → Prop
  | privilege _ level => 1 ≤ level.toNat ∧ level.toNat ≤ 15
  | portIndex port => Name.isPortIndex port.index = true
  | sources _ tried => tried ≠ []
  | methodList _ name | loginMethodList _ name => Name.isMethodList name = true

instance (check : Check) : Decidable check.Passed := by
  cases check <;> unfold Passed <;> infer_instance

/-- The violation of a check that is not passed. -/
def violation : Check → Violation
  | privilege username level => .privilege username level
  | portIndex port => .portIndex port
  | sources keyword _ => .noSources keyword
  | methodList keyword name => .methodList keyword name
  | loginMethodList kind name => .loginMethodList kind name

/-- What is said of a check that is not passed. -/
def complaint : Check → String
  | privilege username level =>
    "user '" ++ Keyword.word username ++ "' has privilege " ++ toString level.toNat
      ++ ", must be between 1 and 15"
  | portIndex port =>
    "interface index '" ++ port.index ++ "' of '" ++ Keyword.word port.family ++ port.index
      ++ "' is not slash delimited numbers"
  | sources keyword _ => "aaa authentication " ++ keyword ++ " has no authentication sources"
  | methodList keyword name =>
    "aaa authentication " ++ keyword ++ " method list '" ++ name ++ "' is not a valid name"
  | loginMethodList kind name =>
    "line " ++ Keyword.word kind ++ " login method list '" ++ name ++ "' is not a valid name"

/-- The details of a violation are what is said of its check. -/
theorem details_violation (check : Check) : check.violation.details = check.complaint := by
  have bounds : ", must be between " ++ (toString lowestPrivilege.toNat ++
      (" and " ++ toString highestPrivilege.toNat)) = ", must be between 1 and 15" := by cbv
  unfold violation Violation.details complaint Port.name
  cases check with
  | privilege username level => simp only [String.append_assoc, bounds]
  | portIndex port => simp only [String.append_assoc]
  | sources => rfl
  | methodList => rfl
  | loginMethodList => rfl

/-- The violation a check gives rise to, if any. -/
def violation? (check : Check) : Option Violation :=
  if check.Passed then none else some check.violation

/-- A check gives rise to no violation exactly when it is passed. -/
theorem violation?_eq_none {check : Check} : check.violation? = none ↔ check.Passed := by
  by_cases passed : check.Passed <;> simp [violation?, passed]

/-- A check gives rise to its own violation, exactly when it is not passed. -/
theorem violation?_eq_some {check : Check} {violation : Violation} :
    check.violation? = some violation ↔ ¬check.Passed ∧ check.violation = violation := by
  by_cases passed : check.Passed <;> simp [violation?, passed]

end Check

/-! ## The checks of a configuration -/

/-- A privilege level that is set is checked. -/
def User.checks (user : User) : List Check :=
  user.privilege.toList.map (.privilege user.username)

/-- Of an authentication method the sources are checked first, then the name of its list. -/
def AuthenticationMethod.checks (keyword : String) (method : AuthenticationMethod) : List Check :=
  [.sources keyword method.sources, .methodList keyword method.methodList]

/-- The name of a method list that a login policy sets is checked. -/
def Line.checks (kind : LineClass) (line : Line) : List Check :=
  (line.login.bind LoginPolicy.methodList).toList.map (.loginMethodList kind)

/-- What is checked of the method lists of authentication. -/
def Authentication.checks (authentication : Authentication) : List Check :=
  authentication.login.elim [] (·.checks "login")
    ++ authentication.enable.elim [] (·.checks "enable")
    ++ authentication.ppp.elim [] (·.checks "ppp")

/-- What is checked of a configuration, first to last. -/
def Config.checks (config : Config) : List Check :=
  config.users.flatMap User.checks
    ++ config.interfaces.map (fun interface => .portIndex interface.port)
    ++ config.passivePorts.map .portIndex
    ++ config.aaaNewModel.elim [] Authentication.checks
    ++ config.lineCon.elim [] (Line.checks .console)
    ++ config.lineAux.elim [] (Line.checks .auxiliary)
    ++ config.lineVty.elim [] (Line.checks .virtualTerminal)

/-! ## Violations are failed checks -/

/-- The violations of a user are those of its checks. -/
theorem User.violations_eq_checks (user : User) :
    user.violations = user.checks.filterMap Check.violation? := by
  have range (level : UInt8) : (lowestPrivilege ≤ level && level ≤ highestPrivilege) =
      decide (1 ≤ level.toNat ∧ level.toNat ≤ 15) := by
    rw [Bool.decide_and]
    rfl
  simp only [violations, checks]
  cases user.privilege with
  | none => rfl
  | some level =>
    simp only [range]
    by_cases inside : 1 ≤ level.toNat ∧ level.toNat ≤ 15 <;>
      simp [Check.violation?, Check.Passed, Check.violation, inside]

/-- The violation of a port is that of its check. -/
theorem Port.violations_eq_check (port : Port) :
    port.violations = (Check.portIndex port).violation?.toList := by
  by_cases valid : Name.isPortIndex port.index = true <;>
    simp [violations, Check.violation?, Check.Passed, Check.violation, valid]

/-- The violations of an authentication method are those of its checks. -/
theorem AuthenticationMethod.violations_eq_checks (keyword : String)
    (method : AuthenticationMethod) :
    method.violations keyword = (method.checks keyword).filterMap Check.violation? := by
  by_cases missing : method.sources = [] <;>
    by_cases valid : Name.isMethodList method.methodList = true <;>
      simp [violations, checks, Check.violation?, Check.Passed, Check.violation, missing, valid]

/-- The violations of a line are those of its checks. -/
theorem Line.violations_eq_checks (kind : LineClass) (line : Line) :
    line.violations kind = (line.checks kind).filterMap Check.violation? := by
  simp only [violations, checks]
  cases line.login.bind LoginPolicy.methodList with
  | none => rfl
  | some name =>
    by_cases valid : Name.isMethodList name = true <;>
      simp [Check.violation?, Check.Passed, Check.violation, valid]

/-- Items that are there come before those of the rest. -/
theorem filterMap_cons_eq_append {α β : Type} (item? : α → Option β) (first : α) (rest : List α) :
    (first :: rest).filterMap item? = (item? first).toList ++ rest.filterMap item? := by
  cases found : item? first <;> simp [found]

/-- The violations of the method lists of authentication are those of their checks. -/
theorem Authentication.violations_eq_checks (authentication : Authentication) :
    (authentication.methods.flatMap fun (keyword, method) => method.violations keyword) =
      authentication.checks.filterMap Check.violation? := by
  have each (keyword : String) (method : Option AuthenticationMethod) :
      ((method.map (keyword, ·)).toList.flatMap fun (keyword, method) =>
          method.violations keyword) =
        (method.elim [] (·.checks keyword)).filterMap Check.violation? := by
    cases method with
    | none => rfl
    | some method => exact (List.flatMap_singleton ..).trans (method.violations_eq_checks keyword)
  simp only [methods, checks, filterMap_cons_eq_append, List.filterMap_nil, List.flatMap_append,
    List.filterMap_append, each, List.append_nil, List.append_assoc]

namespace Config

/-- The violations of the lines are those of their checks, class by class. -/
theorem lineViolations_eq_checks (config : Config) :
    (config.lines.flatMap fun (kind, line) => line.violations kind) =
      (config.lineCon.elim [] (Line.checks .console) ++
        (config.lineAux.elim [] (Line.checks .auxiliary) ++
          config.lineVty.elim [] (Line.checks .virtualTerminal))).filterMap Check.violation? := by
  have each (kind : LineClass) (line : Option Line) :
      ((line.map (kind, ·)).toList.flatMap fun (kind, line) => line.violations kind) =
        (line.elim [] (Line.checks kind)).filterMap Check.violation? := by
    cases line with
    | none => rfl
    | some line => exact (List.flatMap_singleton ..).trans (line.violations_eq_checks kind)
  simp only [lines, Keyword.all, line?, filterMap_cons_eq_append, List.filterMap_nil,
    List.flatMap_append, List.filterMap_append, each, List.append_nil]

/-- The violations of a configuration are those of its checks, in the same order. -/
theorem violations_eq_checks (config : Config) :
    config.violations = config.checks.filterMap Check.violation? := by
  have users : config.users.flatMap User.violations =
      (config.users.flatMap User.checks).filterMap Check.violation? := by
    rw [List.filterMap_flatMap, funext User.violations_eq_checks]
  have ports (items : List Port) : items.flatMap Port.violations =
      (items.map Check.portIndex).filterMap Check.violation? := by
    induction items with
    | nil => rfl
    | cons port items ih =>
      rw [List.flatMap_cons, List.map_cons, filterMap_cons_eq_append, ih, port.violations_eq_check]
  have methods : (config.methods.flatMap fun (keyword, method) => method.violations keyword) =
      (config.aaaNewModel.elim [] Authentication.checks).filterMap Check.violation? := by
    unfold Config.methods
    cases config.aaaNewModel with
    | none => rfl
    | some authentication => exact authentication.violations_eq_checks
  simp only [violations, checks, users, Config.ports, ports, methods, lineViolations_eq_checks,
    List.map_append, List.map_map, Function.comp_def, List.filterMap_append, List.append_assoc]

/-- A configuration is refused for its first violation. -/
theorem validate_eq_error {config : Config} {violation : Violation} :
    config.validate = .error violation ↔ config.violations.head? = some violation := by
  simp only [validate]
  cases config.violations <;> simp

/-- What a configuration needs to be accepted. -/
structure Sound (config : Config) : Prop where
  /-- The privileges that are set are in range. -/
  privileges : ∀ user ∈ config.users, ∀ level, user.privilege = some level →
    1 ≤ level.toNat ∧ level.toNat ≤ 15
  /-- Every interface has a valid index. -/
  interfaces : ∀ interface ∈ config.interfaces, Name.isPortIndex interface.port.index = true
  /-- Every passive port has a valid index. -/
  passivePorts : ∀ process, config.routerOspf = some process →
    ∀ ports, process.passiveInterfaces = some ports →
      ∀ port ∈ ports, Name.isPortIndex port.index = true
  /-- Every method of authentication has a source and a valid name. -/
  methods : ∀ authentication, config.aaaNewModel = some authentication →
    ∀ method, (authentication.login = some method ∨ authentication.enable = some method ∨
      authentication.ppp = some method) →
        method.sources ≠ [] ∧ Name.isMethodList method.methodList = true
  /-- The login policies that set a method list set a valid name. -/
  logins : ∀ kind line, config.line? kind = some line →
    ∀ policy, line.login = some policy → ∀ name, policy.methodList = some name →
      Name.isMethodList name = true

/-- The checks of a part that may be missing are passed when those of the part are. -/
theorem forall_mem_elim {α : Type} {part : Option α} {checks : α → List Check} :
    (∀ check ∈ part.elim [] checks, check.Passed) ↔
      ∀ there, part = some there → ∀ check ∈ checks there, check.Passed := by
  cases part <;> simp

/-- The checks of the method lists are passed when each has a source and a valid name. -/
theorem forall_mem_authenticationChecks {authentication : Authentication} :
    (∀ check ∈ authentication.checks, check.Passed) ↔
      ∀ method, (authentication.login = some method ∨ authentication.enable = some method ∨
        authentication.ppp = some method) →
          method.sources ≠ [] ∧ Name.isMethodList method.methodList = true := by
  have each (keyword : String) (method : AuthenticationMethod) :
      (∀ check ∈ method.checks keyword, check.Passed) ↔
        method.sources ≠ [] ∧ Name.isMethodList method.methodList = true := by
    simp only [AuthenticationMethod.checks, List.forall_mem_cons, List.not_mem_nil, false_implies,
      implies_true, and_true, Check.Passed]
  simp only [Authentication.checks, List.forall_mem_append, forall_mem_elim, each]
  constructor
  · rintro ⟨⟨login, enable⟩, ppp⟩ method (given | given | given)
    · exact login method given
    · exact enable method given
    · exact ppp method given
  · intro every
    exact ⟨⟨fun method given => every method (.inl given),
      fun method given => every method (.inr (.inl given))⟩,
      fun method given => every method (.inr (.inr given))⟩

/-- The checks of the lines are passed when the method lists they set have valid names. -/
theorem forall_mem_lineChecks {kind : LineClass} {line : Option Line} :
    (∀ check ∈ line.elim [] (Line.checks kind), check.Passed) ↔
      ∀ there, line = some there → ∀ policy, there.login = some policy →
        ∀ name, policy.methodList = some name → Name.isMethodList name = true := by
  have each (there : Line) : (∀ check ∈ there.checks kind, check.Passed) ↔
      ∀ policy, there.login = some policy →
        ∀ name, policy.methodList = some name → Name.isMethodList name = true := by
    simp only [Line.checks, List.forall_mem_map, Option.mem_toList, Option.bind_eq_some_iff,
      Check.Passed, forall_exists_index, and_imp]
    exact ⟨fun every policy given name => every name policy given,
      fun every name policy given => every policy given name⟩
  simp only [forall_mem_elim, each]

/-- A configuration has what it needs exactly when every check is passed. -/
theorem sound_iff {config : Config} : config.Sound ↔ ∀ check ∈ config.checks, check.Passed := by
  have users : (∀ check ∈ config.users.flatMap User.checks, check.Passed) ↔
      ∀ user ∈ config.users, ∀ level, user.privilege = some level →
        1 ≤ level.toNat ∧ level.toNat ≤ 15 := by
    simp only [List.forall_mem_flatMap, User.checks, List.forall_mem_map, Option.mem_toList,
      Check.Passed]
  have passivePorts : (∀ port ∈ config.passivePorts, (Check.portIndex port).Passed) ↔
      ∀ process, config.routerOspf = some process →
        ∀ ports, process.passiveInterfaces = some ports →
          ∀ port ∈ ports, Name.isPortIndex port.index = true := by
    unfold Config.passivePorts
    cases config.routerOspf with
    | none => simp
    | some process =>
      cases listed : process.passiveInterfaces <;> simp [listed, Check.Passed]
  simp only [checks, List.forall_mem_append, users, List.forall_mem_map, passivePorts,
    forall_mem_lineChecks]
  rw [forall_mem_elim]
  simp only [forall_mem_authenticationChecks]
  constructor
  · intro sound
    exact ⟨⟨⟨⟨⟨⟨sound.privileges, sound.interfaces⟩, sound.passivePorts⟩, sound.methods⟩,
      sound.logins .console⟩, sound.logins .auxiliary⟩, sound.logins .virtualTerminal⟩
  · rintro ⟨⟨⟨⟨⟨⟨privileges, interfaces⟩, passivePorts⟩, methods⟩, console⟩, auxiliary⟩, vty⟩
    exact {
      privileges, interfaces, passivePorts, methods
      logins := fun kind => match kind with
        | .console => console
        | .auxiliary => auxiliary
        | .virtualTerminal => vty }

/-- A configuration is accepted exactly when it has what it needs: privileges from 1 to 15, valid
indexes of interfaces and passive ports, sources and valid names of authentication methods, and
valid names of the method lists that lines set. When it is refused, the violation is that of the
first check that is not passed, and its details say what that check is of. -/
theorem validate_outcome (config : Config) :
    (config.validate = .ok () ↔ config.Sound) ∧
      ∀ violation, config.validate = .error violation ↔
        ∃ before check after, config.checks = before ++ check :: after ∧
          (∀ earlier ∈ before, earlier.Passed) ∧ ¬check.Passed ∧ check.violation = violation ∧
            violation.details = check.complaint := by
  constructor
  · rw [validate_eq_ok, violations_eq_checks, List.filterMap_eq_nil_iff, sound_iff]
    simp only [Check.violation?_eq_none]
  · intro violation
    -- The first violation is that of the first check that gives rise to one.
    rw [validate_eq_error, violations_eq_checks, List.head?_filterMap, List.findSome?_eq_some_iff]
    simp only [Check.violation?_eq_none, Check.violation?_eq_some]
    constructor
    · rintro ⟨before, check, after, split, ⟨failed, rfl⟩, earlier⟩
      exact ⟨before, check, after, split, earlier, failed, rfl, check.details_violation⟩
    · rintro ⟨before, check, after, split, earlier, failed, same, -⟩
      exact ⟨before, check, after, split, ⟨failed, same⟩, earlier⟩

end Config

end RunningConfig
