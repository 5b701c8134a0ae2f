import RunningConfig.Proofs.Config.Entries
import RunningConfig.Proofs.Render.Heads
/-!
# Directives that a value switches

Some directives are always shown, in one of two forms. Which of them, and with which value, is what
the value gives for the directive, or its default. A line that a reader takes for either form is the
one of the directive, so no other entry of the value has a say in it.
-/

namespace RunningConfig

open Text Schema

/-! ## What is shown -/

/-- Of the two forms of a directive the lines show one, once, and nothing that starts like the
other. -/
def Toggled (on : Prop) (positive negative : String) (lines : List String) : Prop :=
  (on → starting positive lines = [positive] ∧ starting negative lines = []) ∧
    (¬on → starting positive lines = [] ∧ starting negative lines = [negative])

/-- What the lines show of a timestamp service by the block given for it: off where there is none,
else on, with the mode that the block gives. -/
def Timestamped (positive negative : String) (lines : List String) : Option Value → Prop
  | none =>
    starting positive lines = [] ∧ starting negative lines = [negative ++ " datetime msec"]
  | some block => (∃ entries, block = .object entries) ∧
    ∃ word, (block.given? "mode").getD (.text "datetime msec") = .text word ∧
      starting positive lines = [positive ++ " " ++ word] ∧ starting negative lines = []

/-- What the lines show of flow export by the version given for it. -/
def Exported (lines : List String) (given : Option Value) : Prop :=
  ∃ version : Int, given.getD (.integer 9) = .integer version ∧
    starting "ip flow-export " lines = ["ip flow-export " ++ toString version]

/-- What the lines show of the directives that a value switches. -/
structure Gated (value : Value) (lines : List String) : Prop where
  /-- Timestamps of log messages are shown by their block. -/
  timestampsLog : Timestamped " service timestamps log" "no service timestamps log" lines
    ((value.given? "services").bind (·.given? "timestamps_log"))
  /-- Timestamps of debug messages are shown by their block. -/
  timestampsDebug : Timestamped " service timestamps debug" "no service timestamps debug" lines
    ((value.given? "services").bind (·.given? "timestamps_debug"))
  /-- Passwords are encrypted exactly where the value says so. -/
  passwordEncryption : Toggled
    ((value.given? "services").bind (·.given? "password_encryption") = some (.boolean true))
    " service password-encryption" "no service password-encryption" lines
  /-- Packets are forwarded by the express path exactly where the value says so. -/
  ipCef : Toggled (value.given? "ip_cef" = some (.boolean true)) " ip cef" "no ip cef" lines
  /-- So are packets with longer addresses. -/
  ipv6Cef : Toggled (value.given? "ipv6_cef" = some (.boolean true)) " ipv6 cef" "no ipv6 cef" lines
  /-- Routing is classless unless the value says that it is not. -/
  ipClassless : Toggled (value.given? "ip_classless" ≠ some (.boolean false))
    "ip classless" "no ip classless" lines
  /-- Flows are exported in the version of the block, if it gives one. -/
  ipFlowExport : Exported lines ((value.given? "ip_flow_export").bind (·.given? "version"))

/-! ## Forms of a directive -/

section Forms

variable {positive negative : Literal} {lines : List String} {line : String}

/-- A line is found by its start. -/
theorem starting_own (start rest : String) : starting start [start ++ rest] = [start ++ rest] :=
  starting_eq_self (List.forall_mem_singleton.mpr (startsWith_append start rest))

/-- A line is not found by a start that clashes with its own. -/
theorem starting_other {start head : Literal} (apart : clashes start.letters head.letters = true)
    (rest : String) : starting start.text [head.text ++ rest] = [] :=
  starting_eq_nil
    (List.forall_mem_singleton.mpr (startsWith_append_of_clashes start head apart rest))

/-- Two forms of a directive, and a line that alone decides which of them is found. -/
structure Decides (line : String) (positive negative : Literal) (lines : List String) : Prop where
  /-- The positive form does not start like the negation. -/
  positiveApart : clashes negative.letters positive.letters = true
  /-- Nor does the negation start like the positive form. -/
  negativeApart : clashes positive.letters negative.letters = true
  /-- The positive form is found as in the line. -/
  positiveFound : starting positive.text lines = starting positive.text [line]
  /-- So is the negation. -/
  negativeFound : starting negative.text lines = starting negative.text [line]

namespace Decides

variable (decides : Decides line positive negative lines)

include decides

/-- Where the line is the positive form, it is found and no negation is. -/
theorem of_positive {rest : String} (form : line = positive.text ++ rest) :
    starting positive.text lines = [positive.text ++ rest] ∧ starting negative.text lines = [] := by
  rw [decides.positiveFound, decides.negativeFound, form]
  exact ⟨starting_own _ _, starting_other decides.positiveApart rest⟩

/-- Where the line is the negation, it is found and no positive form is. -/
theorem of_negative {rest : String} (form : line = negative.text ++ rest) :
    starting positive.text lines = [] ∧ starting negative.text lines = [negative.text ++ rest] := by
  rw [decides.positiveFound, decides.negativeFound, form]
  exact ⟨starting_other decides.negativeApart rest, starting_own _ _⟩

/-- A line that is one of the forms toggles the directive. -/
theorem toggled {on : Bool} {given : Prop} (same : on = true ↔ given)
    (form : line = if on then positive.text else negative.text) :
    Toggled given positive.text negative.text lines := by
  rw [← same]
  cases on with
  | true =>
    have shown := decides.of_positive (form.trans String.append_empty.symm)
    rw [String.append_empty] at shown
    exact ⟨fun _ => shown, fun off => absurd rfl off⟩
  | false =>
    have shown := decides.of_negative (form.trans String.append_empty.symm)
    rw [String.append_empty] at shown
    exact ⟨nofun, fun _ => shown⟩

/-- The line of a timestamp service shows what is given for it. -/
theorem timestamped {given : Option Value} {presence : Presence TimestampMode}
    (held : GivenBlock (Shape.keyword TimestampMode).ofValue "mode" given presence)
    (form : line = (if presence.isPresent then positive.text else negative.text) ++ " "
      ++ Keyword.word (presence.valueOr Default.timestampMode)) :
    Timestamped positive.text negative.text lines given := by
  rw [String.append_assoc] at form
  cases given with
  | none =>
    obtain rfl := held
    exact decides.of_negative form
  | some block =>
    obtain ⟨object, mode, held, rfl⟩ := held
    have given := held.eq_map fun _ _ => Shape.ofValue_keyword
    refine ⟨object, Keyword.word (mode.getD Default.timestampMode), ?_, ?_⟩
    · rw [given]
      cases mode <;> rfl
    · rw [String.append_assoc]
      cases mode <;> exact decides.of_positive form

end Decides

end Forms

/-! ## Forms in a document -/

namespace Section

variable {start positive negative : Literal} {owner : Section} {others : List Literal}
  {config : Config} {lines front back : List String} {line : String}

/-- A text that starts lines of one section only, and none of those of its lines that start with
some others. -/
structure Owns (owner : Section) (others : List Literal) (start : Literal) : Prop where
  /-- No separator starts with the text. -/
  marked : Marked start
  /-- No other section has a line that may start with it. -/
  only : layout.filter (mayStart start) = [owner]
  /-- Nor have the other lines of the section. -/
  apart : others.all (fun head => clashes start.letters head.letters) = true

/-- A line among others of its section is found in the document as it is alone. -/
theorem Owns.starting (owns : owner.Owns others start)
    (rendered : config.renderLines = .ok lines)
    (shown : owner.content config = .ok (front ++ line :: back))
    (headed : ∀ other ∈ front ++ back, Headed others other) :
    Text.starting start.text lines = Text.starting start.text [line] := by
  obtain ⟨content, shown', found⟩ := starting_renderLines owns.marked owns.only rendered
  obtain rfl := Except.ok.inj (shown.symm.trans shown')
  have none {part : List String} (subset : part ⊆ front ++ back) :
      Text.starting start.text part = [] :=
    starting_eq_nil fun other member =>
      (headed other (subset member)).startsWith_eq_false start owns.apart
  rw [found, ← List.singleton_append, starting_append, starting_append,
    none (List.subset_append_left _ _), none (List.subset_append_right _ _), List.nil_append,
    List.append_nil]

/-- A line among others of its section decides which form of its directive the document shows. -/
theorem decides (apart : clashes negative.letters positive.letters = true)
    (apart' : clashes positive.letters negative.letters = true)
    (ownsPositive : owner.Owns others positive) (ownsNegative : owner.Owns others negative)
    (rendered : config.renderLines = .ok lines)
    (shown : owner.content config = .ok (front ++ line :: back))
    (headed : ∀ other ∈ front ++ back, Headed others other) :
    Decides line positive negative lines :=
  ⟨apart, apart', ownsPositive.starting rendered shown headed,
    ownsNegative.starting rendered shown headed⟩

end Section

namespace Render

open Section

variable {config : Config} {lines : List String}

/-- The line of log timestamps decides which form of its directive is shown. -/
theorem decides_timestampsLog (rendered : config.renderLines = .ok lines) :
    Decides (timestamps "log" config.services.timestampsLog)
      (literal " service timestamps log") (literal "no service timestamps log") lines := by
  have headed : ∀ other ∈ [] ++ [timestamps "debug" config.services.timestampsDebug,
      toggle (config.services.passwordEncryption.getD Default.passwordEncryption)
        "service password-encryption"], Headed (debugHeads ++ encryptionHeads) other :=
    List.forall_mem_cons.mpr ⟨headed_timestamps (by decide) (by decide),
      List.forall_mem_singleton.mpr (headed_toggle (by decide) (by decide))⟩
  exact decides (by decide) (by decide) ⟨by decide, rfl, by decide⟩ ⟨by decide, rfl, by decide⟩
    rendered rfl headed

/-- So does the line of debug timestamps. -/
theorem decides_timestampsDebug (rendered : config.renderLines = .ok lines) :
    Decides (timestamps "debug" config.services.timestampsDebug)
      (literal " service timestamps debug") (literal "no service timestamps debug") lines := by
  have headed : ∀ other ∈ [timestamps "log" config.services.timestampsLog] ++
      [toggle (config.services.passwordEncryption.getD Default.passwordEncryption)
        "service password-encryption"], Headed (logHeads ++ encryptionHeads) other :=
    List.forall_mem_cons.mpr ⟨headed_timestamps (by decide) (by decide),
      List.forall_mem_singleton.mpr (headed_toggle (by decide) (by decide))⟩
  exact decides (by decide) (by decide) ⟨by decide, rfl, by decide⟩ ⟨by decide, rfl, by decide⟩
    rendered rfl headed

/-- So does the line of password encryption. -/
theorem decides_passwordEncryption (rendered : config.renderLines = .ok lines) :
    Decides (toggle (config.services.passwordEncryption.getD Default.passwordEncryption)
        "service password-encryption")
      (literal " service password-encryption") (literal "no service password-encryption")
      lines := by
  have headed : ∀ other ∈ [timestamps "log" config.services.timestampsLog,
      timestamps "debug" config.services.timestampsDebug] ++ [],
      Headed (logHeads ++ debugHeads) other :=
    List.forall_mem_cons.mpr ⟨headed_timestamps (by decide) (by decide),
      List.forall_mem_singleton.mpr (headed_timestamps (by decide) (by decide))⟩
  exact decides (by decide) (by decide) ⟨by decide, rfl, by decide⟩ ⟨by decide, rfl, by decide⟩
    rendered rfl headed

/-- So does the line of express forwarding. -/
theorem decides_ipCef (rendered : config.renderLines = .ok lines) :
    Decides (toggle (config.ipCef.getD Default.ipCef) "ip cef") (literal " ip cef")
      (literal "no ip cef") lines := by
  have headed : ∀ other ∈ [] ++ [toggle (config.ipv6Cef.getD Default.ipv6Cef) "ipv6 cef"],
      Headed [literal " ipv6 cef", literal "no ipv6 cef"] other :=
    List.forall_mem_singleton.mpr (headed_toggle (by decide) (by decide))
  exact decides (by decide) (by decide) ⟨by decide, rfl, by decide⟩ ⟨by decide, rfl, by decide⟩
    rendered rfl headed

/-- So does the line of express forwarding of the longer addresses. -/
theorem decides_ipv6Cef (rendered : config.renderLines = .ok lines) :
    Decides (toggle (config.ipv6Cef.getD Default.ipv6Cef) "ipv6 cef") (literal " ipv6 cef")
      (literal "no ipv6 cef") lines := by
  have headed : ∀ other ∈ [toggle (config.ipCef.getD Default.ipCef) "ip cef"] ++ [],
      Headed [literal " ip cef", literal "no ip cef"] other :=
    List.forall_mem_singleton.mpr (headed_toggle (by decide) (by decide))
  exact decides (by decide) (by decide) ⟨by decide, rfl, by decide⟩ ⟨by decide, rfl, by decide⟩
    rendered rfl headed

/-- So does the line of classless routing. -/
theorem decides_ipClassless (rendered : config.renderLines = .ok lines) :
    Decides (if config.ipClassless.getD Default.ipClassless then "ip classless"
      else "no ip classless") (literal "ip classless") (literal "no ip classless") lines := by
  have headed : ∀ other ∈ ([] : List String) ++ [], Headed [] other := List.forall_mem_nil _
  exact decides (by decide) (by decide) ⟨by decide, rfl, by decide⟩ ⟨by decide, rfl, by decide⟩
    rendered rfl headed

/-- The line of flow export is found by its start. -/
theorem starting_flowExport (rendered : config.renderLines = .ok lines) :
    starting "ip flow-export " lines = ["ip flow-export "
      ++ toString (config.ipFlowExport.valueOr Default.flowExportVersion).toNat] := by
  have only : layout.filter (mayStart (literal "ip flow-export ")) =
    [⟨"flow-export", 0, Render.flowExportLines, 3⟩] := rfl
  obtain ⟨content, shown, found⟩ : ∃ content, flowExportLines config = .ok content ∧
      starting "ip flow-export " lines = starting "ip flow-export " content :=
    starting_renderLines (by decide) only rendered
  obtain rfl := Except.ok.inj shown
  rw [found]
  exact starting_own _ _

/-- The line of a timestamp service is one of two forms with the mode behind it. -/
theorem timestamps_form {kind positive negative : String} (presence : Presence TimestampMode)
    (on : " service timestamps " ++ kind = positive)
    (off : "no service timestamps " ++ kind = negative) :
    timestamps kind presence = (if presence.isPresent then positive else negative) ++ " "
      ++ Keyword.word (presence.valueOr Default.timestampMode) := by
  rw [timestamps_eq, ← on, ← off]
  cases presence.isPresent <;> rfl

end Render

/-! ## From the value to the lines -/

/-- A switch that is off by default is on where the value says so. -/
theorem Given.getD_false_iff {given : Option Value} {setting : Option Bool}
    (held : Given Shape.boolean.ofValue given setting) :
    setting.getD false = true ↔ given = some (.boolean true) := by
  rw [held.eq_map fun _ _ => Shape.ofValue_boolean]
  cases setting <;> simp

/-- A switch that is on by default is on unless the value says that it is not. -/
theorem Given.getD_true_iff {given : Option Value} {setting : Option Bool}
    (held : Given Shape.boolean.ofValue given setting) :
    setting.getD true = true ↔ given ≠ some (.boolean false) := by
  rw [held.eq_map fun _ _ => Shape.ofValue_boolean]
  cases setting <;> simp

/-- The version of a flow export is the one its block gives, or the default. -/
theorem exported_of_givenBlock {block : Option Value} {presence : Presence UInt16}
    {lines : List String}
    (held : GivenBlock (Shape.integer UInt16).ofValue "version" block presence)
    (found : starting "ip flow-export " lines = ["ip flow-export "
      ++ toString (presence.valueOr Default.flowExportVersion).toNat]) :
    Exported lines (block.bind (·.given? "version")) := by
  refine ⟨(presence.valueOr Default.flowExportVersion).toNat, ?_, found⟩
  cases block with
  | none =>
    obtain rfl := held
    rfl
  | some block =>
    obtain ⟨-, setting, held, rfl⟩ := held
    have given : block.given? "version" = setting.map fun held => .integer held.toNat :=
      held.eq_map fun node version read => by
        obtain ⟨number, rfl, found⟩ := Shape.ofValue_integer read
        rw [← MachineInteger.toInt_of_ofInt? found]
        rfl
    rw [Option.bind_some, given]
    cases setting <;> rfl

namespace Config

open Render

variable {value : Value} {config : Config} {lines : List String}

/-- Which directives are shown, in which form and how often, is what the value gives for them:
whatever else a value that is accepted holds, the lines show nothing else of them. -/
theorem gated_of_ofValue (read : Config.ofValue value = .ok config)
    (rendered : config.renderLines = .ok lines) : Gated value lines := by
  obtain ⟨⟨debug, log, encryption⟩, ipCef, ipv6Cef, ipClassless, ipFlowExport⟩ :=
    givenSwitches_of_ofValue read
  exact {
    timestampsLog := (decides_timestampsLog rendered).timestamped log
      (timestamps_form _ (by decide) (by decide))
    timestampsDebug := (decides_timestampsDebug rendered).timestamped debug
      (timestamps_form _ (by decide) (by decide))
    passwordEncryption :=
      (decides_passwordEncryption rendered).toggled encryption.getD_false_iff rfl
    ipCef := (decides_ipCef rendered).toggled ipCef.getD_false_iff rfl
    ipv6Cef := (decides_ipv6Cef rendered).toggled ipv6Cef.getD_false_iff rfl
    ipClassless := (decides_ipClassless rendered).toggled ipClassless.getD_true_iff rfl
    ipFlowExport := exported_of_givenBlock ipFlowExport (starting_flowExport rendered) }

/-- A hostname and a banner that look like services switch nothing, and the switch that is given
does. -/
theorem gated_of_lookalikes : ∃ (value : Value) (config : Config) (lines : List String),
    Config.ofValue value = .ok config ∧ config.renderLines = .ok lines ∧ Gated value lines ∧
      " service timestamps log uptime" ∈ lines ∧ "no ip classless" ∈ lines ∧
      "hostname  ip cef" ∈ lines := by
  let value : Value := .object [
    ("hostname", .text " ip cef"),
    ("services", .object [
      ("timestamps_log", .object [("mode", .text "uptime")]),
      ("timestamps_debug", .null)]),
    ("banner_motd", .text "no service timestamps log datetime msec"),
    ("ip_classless", .boolean false)]
  obtain ⟨config, read⟩ : ∃ config, Config.ofValue value = .ok config := ⟨_, rfl⟩
  obtain ⟨lines, rendered⟩ : ∃ lines, config.renderLines = .ok lines := by
    obtain rfl := Except.ok.inj read
    exact ⟨_, rfl⟩
  have gated := gated_of_ofValue read rendered
  obtain rfl := Except.ok.inj read
  obtain rfl := Except.ok.inj rendered
  exact ⟨value, _, _, read, rendered, gated, by decide, by decide, by decide⟩

end Config

end RunningConfig
