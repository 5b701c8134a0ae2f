import RunningConfig.Proofs.Config.Grammar
import RunningConfig.Proofs.Schema.Respelling
import RunningConfig.Proofs.Schema.Writing
/-!
# Configurations and model values

A model value is read as a configuration exactly when it conforms to the grammar of configurations
(`Config.reads_conforming`). A configuration that is written is read back as it was, under canonical
names (`Config.written_faithfully`), and a value that is spelled differently is read as the same
configuration (`Config.reads_respelled`). All three hold of whatever follows a grammar; here are
the grammars of a configuration and of its larger parts.
-/

namespace RunningConfig

open Schema (Conforms Doubled Member Respelled Stands)

namespace Config

/-- A model value is read as a configuration exactly when it conforms. No key anywhere in a value
that is read is passed over. -/
theorem reads_conforming (value : Value) :
    ((∃ config, ofValue value = .ok config) ↔ Conforms grammar value) ∧
      ∀ config entries, ofValue value = .ok config → Value.Inside (.object entries) value →
        ∃ members, Stands (.record members) (.object entries) grammar value ∧
          ∀ entry ∈ entries, ∃ member ∈ members, member.field.accepts entry.1 = true := by
  have accepts : (∃ config, ofValue value = .ok config) ↔ Conforms grammar value :=
    Config.follows.accepts legible value
  refine ⟨accepts, fun config entries read inside => ?_⟩
  exact Schema.names_of_inside (accepts.mp ⟨config, read⟩) inside

/-- The address of an interface is read under the other name of its prefix length, three objects
down, and both of its keys are names of the record there. -/
theorem reads_conforming_address : ∃ (value : Value) (config : Config) (members : List Member),
    ofValue value = .ok config ∧ Conforms grammar value ∧
      Stands (.record members)
        (.object [("ip", .text "192.0.2.1"), ("subnetPrefix", .integer 24)]) grammar value ∧
      ∃ member ∈ members, member.field.accepts "subnetPrefix" = true := by
  let value : Value := .object [
    ("hostname", .text "R1"),
    ("interfaces", .list [.object [
      ("port", .object [("type", .text "Vlan"), ("index", .text "1")]),
      ("ip4_address", .object [("ip", .text "192.0.2.1"), ("subnetPrefix", .integer 24)])]])]
  obtain ⟨config, read⟩ : ∃ config, ofValue value = .ok config := ⟨_, rfl⟩
  obtain ⟨accepts, names⟩ := reads_conforming value
  have inside : Value.Inside
      (.object [("ip", .text "192.0.2.1"), ("subnetPrefix", .integer 24)]) value :=
    .entry (.tail _ (.head _)) (.item (.head _) (.entry (.tail _ (.head _)) .whole))
  obtain ⟨members, stands, known⟩ := names config _ read inside
  exact ⟨value, config, members, read, accepts.mp ⟨config, read⟩, stands,
    known ("subnetPrefix", .integer 24) (by simp)⟩

/-- The parts of a configuration that are records of their own are legible as it is. -/
theorem parts_legible : Services.shape.Legible ∧ Authentication.shape.Legible ∧
    User.shape.Legible ∧ Interface.shape.Legible ∧ Ospf.shape.Legible ∧
    StaticRoute.shape.Legible ∧ Line.shape.Legible := by
  obtain ⟨-, -, services, -, -, -, authentication, users, -, -, -, -, -, -, interfaces, ospf, -,
    routes, -, line, -⟩ := legible
  exact ⟨services, authentication.2.2.1, users, interfaces, ospf.2, routes.2, line.2⟩

/-- A configuration and each of its larger parts is written faithfully. What is unset, what is there
but empty and what is there with a value are written apart from each other, as all values are. -/
theorem written_faithfully :
    Config.shape.Faithful Config.grammar ∧ Interface.shape.Faithful Interface.grammar ∧
      Ospf.shape.Faithful Ospf.grammar ∧ StaticRoute.shape.Faithful StaticRoute.grammar ∧
      User.shape.Faithful User.grammar ∧ Line.shape.Faithful Line.grammar ∧
      Services.shape.Faithful Services.grammar ∧
      Authentication.shape.Faithful Authentication.grammar := by
  obtain ⟨services, authentication, user, interface, ospf, route, line⟩ := parts_legible
  exact ⟨Config.follows.faithful legible, Interface.follows.faithful interface,
    Ospf.follows.faithful ospf, StaticRoute.follows.faithful route, User.follows.faithful user,
    Line.follows.faithful line, Services.follows.faithful services,
    Authentication.follows.faithful authentication⟩

/-- A value that is read is read alike in another spelling, and one that gives a member under two
names is refused. -/
theorem reads_respelled (value : Value) :
    (∀ config other, ofValue value = .ok config → Respelled grammar value other →
      ofValue other = .ok config) ∧
    (Doubled grammar value → ∃ fault, ofValue value = .error fault) := by
  constructor
  · intro config other read respelled
    exact Config.follows.steady legible value other config respelled read
  · exact Config.follows.refuses_doubled legible

/-- A network of a routing process goes by either name of its prefix length but not by both. -/
theorem reads_respelled_network : ∃ (value other doubled : Value) (config : Config),
    ofValue value = .ok config ∧ Respelled grammar value other ∧ ofValue other = .ok config ∧
      Doubled grammar doubled ∧ ∃ fault, ofValue doubled = .error fault := by
  let process (network : List (String × Value)) : Value := .object [
    ("router_ospf", .object [
      ("process_id", .integer 1),
      ("networks", .list [.object (("ip_address", .text "10.0.0.0") :: network)])])]
  let value := process [("subnet_prefix", .integer 8), ("area", .integer 0)]
  let other := process [("subnetPrefix", .integer 8), ("area", .integer 0)]
  let both : List (String × Value) := [("subnet_prefix", .integer 8), ("area", .integer 0),
    ("subnetPrefix", .integer 8)]
  let doubled := process both
  obtain ⟨config, read⟩ : ∃ config, ofValue value = .ok config := ⟨_, rfl⟩
  have respelled : Respelled grammar value other := by
    refine .entry [] [] (by simp : Member.may "router_ospf" (.optional Ospf.grammar) ∈ _) rfl ?_
    refine .given (.entry [_] [] (by simp : Member.may "networks" (.list OspfNetwork.grammar) ∈ _)
      rfl ?_)
    exact .item [] [] (.rename [_] [_] _ (.tail _ (.head _)) rfl rfl)
  have stands : Stands OspfNetwork.grammar (.object (("ip_address", .text "10.0.0.0") :: both))
      grammar doubled := by
    refine .entry (by simp : Member.may "router_ospf" (.optional Ospf.grammar) ∈ _) (.head _) rfl ?_
    refine .given nofun (.entry (by simp : Member.may "networks" (.list OspfNetwork.grammar) ∈ _)
      (.tail _ (.head _)) rfl ?_)
    exact .item (.head _) .here
  have twice : Doubled grammar doubled :=
    ⟨_, _, stands, _, .tail _ (.head _), ("subnet_prefix", .integer 8), .tail _ (.head _),
      ("subnetPrefix", .integer 8), .tail _ (.tail _ (.tail _ (.head _))), by decide, rfl, rfl⟩
  exact ⟨value, other, doubled, config, read, respelled,
    (reads_respelled value).1 config other read respelled, twice,
    (reads_respelled doubled).2 twice⟩

end Config

end RunningConfig
