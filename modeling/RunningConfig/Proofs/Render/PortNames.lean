import RunningConfig.Proofs.Name
import RunningConfig.Proofs.Render.Items
/-!
# The names of ports

Every port that a configuration shows is one whose index was checked, be it that of an interface or
a passive one. So the index that is shown behind the family is in the grammar of port indexes over
the decimal digits of all scripts. The device counts with ASCII digits: whether it can read the
index depends on nothing but whether its characters are ASCII, which the check does not ask.
-/

namespace RunningConfig

/-- The index of a port is one that the device can read. -/
def Port.Legible (port : Port) : Prop := Name.IsIndex Char.isDigit port.index.toList

namespace Config

open Text Render

variable {config : Config} {lines : List String}

/-- A line that starts like that of an interface or of a passive port is that of a port. -/
theorem exists_port_of_mem (rendered : config.renderLines = .ok lines) {directive line : String}
    (shows : directive = "interface " ∨ directive = " passive-interface ")
    (listed : line ∈ lines) (begins : line.startsWith directive = true) :
    ∃ port ∈ config.ports, line = directive ++ Keyword.word port.family ++ port.index := by
  have found : line ∈ starting directive lines := mem_starting.mpr ⟨listed, begins⟩
  rcases shows with rfl | rfl
  · rw [starting_interface rendered] at found
    obtain ⟨interface, member, rfl⟩ := List.mem_map.mp found
    refine ⟨interface.port, List.mem_append_left _ (List.mem_map_of_mem member), ?_⟩
    rw [Port.name, String.append_assoc]
  · rw [starting_passivePorts rendered] at found
    obtain ⟨port, member, rfl⟩ := List.mem_map.mp found
    refine ⟨port, List.mem_append_right _ member, ?_⟩
    rw [Port.name, String.append_assoc]

/-- What acceptance promises of the names of ports. -/
structure PortsNamed (config : Config) : Prop where
  /-- The index of every port is in the grammar over the decimal digits of all scripts. -/
  indexed : ∀ port ∈ config.ports, Name.IsIndex isDecimalDigit port.index.toList
  /-- The device can read it exactly when all of its characters are ASCII. -/
  legible : ∀ port ∈ config.ports, port.Legible ↔ ∀ char ∈ port.index.toList, char.toNat < 128
  /-- The names that are shown are those of these ports. -/
  shown : ∀ lines, config.renderLines = .ok lines →
    ∀ directive, directive = "interface " ∨ directive = " passive-interface " →
      ∀ line ∈ lines, line.startsWith directive = true →
        ∃ port ∈ config.ports, line = directive ++ Keyword.word port.family ++ port.index

/-- The ports of an accepted configuration are named in the grammar of port indexes, and legibly so
exactly where their indexes are ASCII. -/
theorem portsNamed_of_validate (valid : config.validate = .ok ()) : config.PortsNamed where
  indexed port member := Name.isPortIndex_iff.mp ((accepted_of_validate valid).ports port member)
  legible port member := by
    have index := Name.isPortIndex_iff.mp ((accepted_of_validate valid).ports port member)
    unfold Port.Legible
    rw [Name.isIndex_isDigit_iff, and_iff_right index]
  shown _ rendered _ shows _ listed begins := exists_port_of_mem rendered shows listed begins

/-- A router with a subinterface that is passive names both of its ports legibly. -/
theorem portsNamed_of_subinterface : ∃ config : Config, config.validate = .ok () ∧
    config.PortsNamed ∧ config.ports.map Port.index = ["0/1/0", "0/1/0.100"] ∧
    ∀ port ∈ config.ports, port.Legible := by
  let config : Config := {
    interfaces := [{ port := { family := .serial, index := "0/1/0" } }]
    routerOspf := some {
      processId := 1
      passiveInterfaces := some [{ family := .serial, index := "0/1/0.100" }] } }
  have valid : config.validate = .ok () := by decide
  have named := portsNamed_of_validate valid
  have shown : ∀ port ∈ config.ports, port.index.toList.all (·.toNat < 128) = true := by decide
  have ascii (port : Port) (member : port ∈ config.ports) :
      ∀ char ∈ port.index.toList, char.toNat < 128 := fun char inside =>
    of_decide_eq_true (List.all_eq_true.mp (shown port member) char inside)
  exact ⟨config, valid, named, rfl, fun port member =>
    (named.legible port member).mpr (ascii port member)⟩

/-- A digit of another script is accepted and shown, and the device cannot read it. -/
theorem not_legible_of_arabic_digit : ∃ (config : Config) (lines : List String) (port : Port),
    config.validate = .ok () ∧ config.renderLines = .ok lines ∧ port ∈ config.ports ∧
      "interface Serial\u0660" ∈ lines ∧ ¬port.Legible := by
  let port : Port := { family := .serial, index := "\u0660" }
  let config : Config := { interfaces := [{ port := port }] }
  obtain ⟨lines, rendered⟩ : ∃ lines, config.renderLines = .ok lines := ⟨_, rfl⟩
  have foreign : ¬port.Legible := by
    unfold Port.Legible
    rw [Name.isIndex_isDigit_iff]
    rintro ⟨-, ascii⟩
    have digit : (1632 : Nat) < 128 := ascii '\u0660' (by decide)
    omega
  obtain rfl := Except.ok.inj rendered
  exact ⟨config, _, port, by decide, rfl, by decide, by decide, foreign⟩

end Config

end RunningConfig
