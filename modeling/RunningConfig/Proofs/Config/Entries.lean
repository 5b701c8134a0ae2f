import RunningConfig.Proofs.Config.Schema
import RunningConfig.Proofs.Schema.Records
/-!
# What a configuration holds of the value it is read from

A setting is given when the value has an entry for it that is not null. The services, the
forwarding and classless settings and the flow export of a configuration that is read are what is
given for them, and nothing else of the value counts.
-/

namespace RunningConfig

open Schema

/-- What an object gives under a key. A null gives nothing, and what is no object does neither. -/
def Value.given? (value : Value) (key : String) : Option Value :=
  match value with
  | .object entries =>
    match entries.lookup key with
    | some .null => none
    | found => found
  | _ => none

/-- What a setting is, by what is given for it. -/
def Given {α : Type} (read : Value → Read α) : Option Value → Option α → Prop
  | none, setting => setting = none
  | some node, setting => ∃ item, read node = .ok item ∧ setting = some item

/-- What a block is, by what is given for it: absent, or an object with one optional setting. -/
def GivenBlock {α : Type} (read : Value → Read α) (key : String) :
    Option Value → Presence α → Prop
  | none, presence => presence = .absent
  | some block, presence => (∃ entries, block = .object entries) ∧
    ∃ setting, Given read (block.given? key) setting ∧ presence = setting.elim .defaulted .valued

/-- What is given for a setting is the setting as it is written. -/
theorem Given.eq_map {α : Type} {read : Value → Read α} {write : α → Value}
    {given : Option Value} {setting : Option α} (held : Given read given setting)
    (undo : ∀ node item, read node = .ok item → node = write item) :
    given = setting.map write := by
  cases given with
  | none =>
    obtain rfl := held
    rfl
  | some node =>
    obtain ⟨item, read, rfl⟩ := held
    exact congrArg some (undo node item read)

section Held

variable {α : Type} {value : Value} {entries : List (String × Value)} {key : String}

/-- A field without another name is given the first entry under its name. -/
theorem given_eq_lookup (key : String) (entries : List (String × Value)) :
    (⟨key, none⟩ : FieldName).given entries = entries.lookup key := by
  induction entries with
  | nil => rfl
  | cons entry entries ih =>
    obtain ⟨name, node⟩ := entry
    simp only [FieldName.given] at ih ⊢
    by_cases same : name = key
    · simp [FieldName.accepts, same]
    · have other : (key == name) = false := beq_eq_false_iff_ne.mpr fun equal => same equal.symm
      have refused : (⟨key, none⟩ : FieldName).accepts name = false := by
        simp [FieldName.accepts, same]
      rw [List.find?_cons, refused, List.lookup_cons, other]
      exact ih

/-- What a value gives under a key is the first entry under it, unless that is null. -/
theorem given?_eq (listed : entries? value = some entries) (key : String) :
    value.given? key = match entries.lookup key with
      | some .null => none
      | found => found := by
  cases value with
  | object =>
    obtain rfl := Option.some.inj listed
    rfl
  | null =>
    obtain rfl := Option.some.inj listed
    rfl
  | _ => contradiction

/-- Either a value gives what the first entry under a key holds, which is not null, or it gives
nothing, and the field of that name is not given or given a null. -/
theorem given?_cases (listed : entries? value = some entries) (key : String) :
    (∃ node, node ≠ .null ∧ value.given? key = some node ∧
      (⟨key, none⟩ : FieldName).given entries = some node) ∨
    value.given? key = none ∧ ((⟨key, none⟩ : FieldName).given entries = none ∨
      (⟨key, none⟩ : FieldName).given entries = some .null) := by
  rw [given_eq_lookup, given?_eq listed]
  cases found : entries.lookup key with
  | none => exact Or.inr ⟨rfl, Or.inl rfl⟩
  | some node =>
    cases node with
    | null => exact Or.inr ⟨rfl, Or.inr rfl⟩
    | _ => exact Or.inl ⟨_, by nofun, rfl, rfl⟩

/-- An optional setting is what is given for it. -/
theorem given_of_held {shape : Shape α} {setting : Option α}
    (listed : entries? value = some entries)
    (held : Held ⟨key, none⟩ shape.option.ofValue none entries setting) :
    Given shape.ofValue (value.given? key) setting := by
  unfold Held at held
  rcases given?_cases listed key with ⟨node, other, given, found⟩ | ⟨none, found | found⟩
  · rw [found] at held
    rw [given]
    rcases Shape.ofValue_option held with ⟨null, -⟩ | ⟨-, item, read, rfl⟩
    · exact absurd null other
    · exact ⟨item, read, rfl⟩
  · rw [found] at held
    rw [none]
    exact held
  · rw [found] at held
    rw [none]
    exact (Except.ok.inj held).symm

/-- A block is what is given for it. -/
theorem givenBlock_of_held {name mode : String} {shape : Shape α} {presence : Presence α}
    (listed : entries? value = some entries)
    (held : Held ⟨key, none⟩ (Presence.shape name ⟨mode, none⟩ shape).ofValue .absent entries
      presence) :
    GivenBlock shape.ofValue mode (value.given? key) presence := by
  have distinct : (Fields.sparse ⟨mode, none⟩ shape .nil).candidates.Nodup := by
    simp [Fields.candidates, FieldName.candidates]
  unfold Held at held
  rcases given?_cases listed key with ⟨node, other, given, found⟩ | ⟨none, found | found⟩
  · rw [found] at held
    rw [given]
    obtain ⟨block, read, made⟩ := bind_eq_ok.mp held
    obtain rfl := pure_eq_ok.mp made
    rcases Shape.ofValue_option read with ⟨null, -⟩ | ⟨-, values, recorded, rfl⟩
    · exact absurd null other
    · obtain ⟨inner, listed, holds⟩ := Shape.holds_of_record distinct recorded
      obtain ⟨held, -⟩ := holds
      have object : ∃ entries, node = .object entries := by
        cases node with
        | object entries => exact ⟨entries, rfl⟩
        | _ => contradiction
      refine ⟨object, values.1, given_of_held listed held, ?_⟩
      obtain ⟨setting, -⟩ := values
      cases setting <;> rfl
  · rw [found] at held
    rw [none]
    exact held
  · rw [found] at held
    rw [none]
    exact (Except.ok.inj held).symm

end Held

/-- The services of a configuration are what is given for them in their object. -/
structure GivenServices (block : Option Value) (services : Services) : Prop where
  /-- Timestamps of debug messages. -/
  debug : GivenBlock (Shape.keyword TimestampMode).ofValue "mode"
    (block.bind (·.given? "timestamps_debug")) services.timestampsDebug
  /-- Timestamps of log messages. -/
  log : GivenBlock (Shape.keyword TimestampMode).ofValue "mode"
    (block.bind (·.given? "timestamps_log")) services.timestampsLog
  /-- Encryption of passwords. -/
  encryption : Given Shape.boolean.ofValue (block.bind (·.given? "password_encryption"))
    services.passwordEncryption

/-- Services that are read are what is given for them. -/
theorem givenServices_of_read {value : Value} {services : Services}
    (read : Services.shape.ofValue value = .ok services) :
    GivenServices (some value) services := by
  obtain ⟨entries, values, listed, holds, rfl⟩ := holds_of_structureShape (by decide) read
  obtain ⟨debug, log, encryption, -⟩ := holds
  exact ⟨givenBlock_of_held listed debug, givenBlock_of_held listed log,
    given_of_held listed encryption⟩

/-- The services of a record are what is given for them, whether their object is or not. -/
theorem givenServices_of_held {value : Value} {entries : List (String × Value)}
    {services : Services} (listed : entries? value = some entries)
    (held : Held ⟨"services", none⟩ Services.shape.ofValue {} entries services) :
    GivenServices (value.given? "services") services := by
  unfold Held at held
  rcases given?_cases listed "services" with ⟨node, -, given, found⟩ | ⟨none, found | found⟩
  · rw [found] at held
    rw [given]
    exact givenServices_of_read held
  · rw [found] at held
    rw [none]
    obtain rfl := held
    exact ⟨rfl, rfl, rfl⟩
  · rw [found] at held
    rw [none]
    -- A null has no entry, so every service is as if it were not given.
    obtain ⟨debug, log, encryption⟩ := givenServices_of_read held
    exact ⟨debug, log, encryption⟩

/-- What a configuration that is read takes from its value for the directives that are switched. -/
structure GivenSwitches (value : Value) (config : Config) : Prop where
  /-- The services. -/
  services : GivenServices (value.given? "services") config.services
  /-- Express forwarding. -/
  ipCef : Given Shape.boolean.ofValue (value.given? "ip_cef") config.ipCef
  /-- Express forwarding of the longer addresses. -/
  ipv6Cef : Given Shape.boolean.ofValue (value.given? "ipv6_cef") config.ipv6Cef
  /-- Classless routing. -/
  ipClassless : Given Shape.boolean.ofValue (value.given? "ip_classless") config.ipClassless
  /-- Flow export. -/
  ipFlowExport : GivenBlock (Shape.integer UInt16).ofValue "version" (value.given? "ip_flow_export")
    config.ipFlowExport

/-- A configuration that is read takes what is given for the directives that are switched. -/
theorem givenSwitches_of_ofValue {value : Value} {config : Config}
    (read : Config.ofValue value = .ok config) : GivenSwitches value config := by
  obtain ⟨entries, values, listed, holds, rfl⟩ := holds_of_structureShape (by decide) read
  obtain ⟨-, services, -, -, -, -, -, ipCef, ipv6Cef, -, -, -, -, -, -, ipClassless, -,
    ipFlowExport, -⟩ := holds
  exact ⟨givenServices_of_held listed services, given_of_held listed ipCef,
    given_of_held listed ipv6Cef, given_of_held listed ipClassless,
    givenBlock_of_held listed ipFlowExport⟩

end RunningConfig
