import RunningConfig.Device.Violation
/-!
# What acceptance promises

A configuration without violations has valid names in every place where a name is checked: the
index of each port, the method list of each authentication method and of each login policy. A valid
name is made of a few characters, so there is no blank and no line feed in it.
-/

namespace RunningConfig

namespace Text

/-- A character of a text is the separator or is in one of the pieces. -/
theorem mem_pieces_of_mem {separator char : Char} {text : List Char} (member : char ∈ text) :
    char = separator ∨ ∃ piece ∈ splitOn separator text, char ∈ piece := by
  induction text with
  | nil => contradiction
  | cons first rest ih =>
    simp only [splitOn]
    by_cases same : first = separator
    · rw [if_pos same]
      rcases List.mem_cons.mp member with rfl | later
      · exact Or.inl same
      · refine (ih later).imp_right ?_
        rintro ⟨piece, inside, holds⟩
        exact ⟨piece, List.mem_cons_of_mem _ inside, holds⟩
    · rw [if_neg same]
      cases cut : splitOn separator rest with
      | nil => exact absurd cut (splitOn_ne_nil _ _)
      | cons piece pieces =>
        rcases List.mem_cons.mp member with rfl | later
        · exact Or.inr ⟨_, List.mem_cons_self, List.mem_cons_self⟩
        · refine (ih later).imp_right ?_
          rw [cut]
          rintro ⟨other, inside, holds⟩
          rcases List.mem_cons.mp inside with rfl | tail
          · exact ⟨_, List.mem_cons_self, List.mem_cons_of_mem _ holds⟩
          · exact ⟨other, List.mem_cons_of_mem _ tail, holds⟩

end Text

namespace Name

/-- A number holds decimal digits only. -/
theorem isDecimalDigit_of_isNumber {text : List Char} {char : Char} (number : isNumber text = true)
    (member : char ∈ text) : Text.isDecimalDigit char = true := by
  simp only [isNumber, Bool.and_eq_true, List.all_eq_true] at number
  exact number.2 char member

/-- Slash delimited numbers hold decimal digits and slashes only. -/
theorem mem_isSlashNumbers {text : List Char} {char : Char} (slots : isSlashNumbers text = true)
    (member : char ∈ text) : char = '/' ∨ Text.isDecimalDigit char = true := by
  refine (Text.mem_pieces_of_mem member).imp_right ?_
  rintro ⟨piece, inside, holds⟩
  exact isDecimalDigit_of_isNumber (List.all_eq_true.mp slots piece inside) holds

/-- A port index holds decimal digits, slashes and dots only. -/
theorem mem_isPortIndex {text : String} {char : Char} (index : isPortIndex text = true)
    (member : char ∈ text.toList) :
    char = '.' ∨ char = '/' ∨ Text.isDecimalDigit char = true := by
  refine (Text.mem_pieces_of_mem member).imp_right ?_
  rintro ⟨piece, inside, holds⟩
  simp only [isPortIndex] at index
  split at index
  case h_1 slot cut =>
    rw [cut, List.mem_singleton] at inside
    subst inside
    exact mem_isSlashNumbers index holds
  case h_2 slot unit cut =>
    rw [cut, List.mem_cons, List.mem_singleton] at inside
    obtain ⟨slots, number⟩ := Bool.and_eq_true_iff.mp index
    rcases inside with rfl | rfl
    · exact mem_isSlashNumbers slots holds
    · exact Or.inr (isDecimalDigit_of_isNumber number holds)
  case h_3 => contradiction

/-- The name of a method list holds letters, digits, underscores, hyphens and dots only. -/
theorem mem_isMethodList {text : String} {char : Char} (name : isMethodList text = true)
    (member : char ∈ text.toList) : isMethodListChar char = true := by
  simp only [isMethodList, Bool.and_eq_true, List.all_eq_true] at name
  exact name.2 char member

/-- There is no line feed in a port index. -/
theorem newline_not_mem_portIndex {text : String} (index : isPortIndex text = true) :
    '\n' ∉ text.toList := by
  intro member
  have noDigit : Text.isDecimalDigit '\n' = false := by decide
  rcases mem_isPortIndex index member with impossible | impossible | digit
  · contradiction
  · contradiction
  · rw [noDigit] at digit
    contradiction

/-- A character that no name has is not in the name of a method list. -/
theorem not_mem_methodList {text : String} {char : Char} (other : isMethodListChar char = false)
    (name : isMethodList text = true) : char ∉ text.toList := by
  intro member
  rw [mem_isMethodList name member] at other
  contradiction

end Name

/-- A port violates nothing exactly when its index is valid. -/
theorem Port.violations_eq_nil {port : Port} :
    port.violations = [] ↔ Name.isPortIndex port.index = true := by
  by_cases valid : Name.isPortIndex port.index = true <;> simp [violations, valid]

/-- An authentication method violates nothing exactly when it has a source and a valid name. -/
theorem AuthenticationMethod.violations_eq_nil {keyword : String} {method : AuthenticationMethod} :
    method.violations keyword = [] ↔
      method.sources ≠ [] ∧ Name.isMethodList method.methodList = true := by
  by_cases valid : Name.isMethodList method.methodList = true <;>
    simp [violations, valid]

/-- A line violates nothing exactly when the method list of its login policy, if any, is valid. -/
theorem Line.violations_eq_nil {kind : LineClass} {line : Line} :
    line.violations kind = [] ↔
      ∀ name, line.login.bind LoginPolicy.methodList = some name →
        Name.isMethodList name = true := by
  simp only [violations]
  cases line.login.bind LoginPolicy.methodList with
  | none => simp
  | some name => by_cases valid : Name.isMethodList name = true <;> simp [valid]

/-- A property of every method that is set, one purpose at a time. -/
theorem Authentication.forall_mem_methods {authentication : Authentication}
    {holds : String × AuthenticationMethod → Prop} :
    (∀ method ∈ authentication.methods, holds method) ↔
      (∀ method, authentication.login = some method → holds ("login", method)) ∧
      (∀ method, authentication.enable = some method → holds ("enable", method)) ∧
      ∀ method, authentication.ppp = some method → holds ("ppp", method) := by
  simp only [methods, List.forall_mem_filterMap, List.forall_mem_cons, List.not_mem_nil,
    false_implies, implies_true, and_true, Option.map_eq_some_iff, forall_exists_index, and_imp,
    forall_apply_eq_imp_iff₂]

namespace Config

/-- A configuration is accepted exactly when it has no violation. -/
theorem validate_eq_ok {config : Config} : config.validate = .ok () ↔ config.violations = [] := by
  simp only [validate]
  cases config.violations <;> simp

/-- What is checked of an accepted configuration, beside the privilege of its users. -/
structure Accepted (config : Config) : Prop where
  /-- Every port has a valid index. -/
  ports : ∀ port ∈ config.ports, Name.isPortIndex port.index = true
  /-- Every authentication method has a source and a valid name. -/
  methods : ∀ method ∈ config.methods,
    method.2.sources ≠ [] ∧ Name.isMethodList method.2.methodList = true
  /-- Every login policy that names a method list names a valid one. -/
  logins : ∀ line ∈ config.lines, ∀ name,
    line.2.login.bind LoginPolicy.methodList = some name → Name.isMethodList name = true

/-- An accepted configuration has valid names. -/
theorem accepted_of_validate {config : Config} (valid : config.validate = .ok ()) :
    config.Accepted := by
  have none := validate_eq_ok.mp valid
  simp only [violations, List.append_eq_nil_iff, List.flatMap_eq_nil_iff] at none
  obtain ⟨⟨⟨-, ports⟩, methods⟩, lines⟩ := none
  exact {
    ports := fun port member => Port.violations_eq_nil.mp (ports port member)
    methods := fun method member =>
      AuthenticationMethod.violations_eq_nil.mp (methods method member)
    logins := fun line member => Line.violations_eq_nil.mp (lines line member) }

end Config

end RunningConfig
