import RunningConfig.Proofs.Config.Schema
import RunningConfig.Proofs.Schema.Grammar
/-!
# The grammar of a configuration

The grammar spells out what a configuration may be read from: every record with its members, the
words and the limits of every place. The schema follows it, so a model value is read as a
configuration exactly when it conforms, and no key anywhere in it is passed over.
-/

namespace RunningConfig

open Schema (Conforms Grammar Member Shape Fields Stands)

/-! ## The grammar, record by record -/

/-- The storage type of a credential. -/
def Encryption.grammar : Grammar := .number [0, 5, 7]

/-- A prefix length as it is configured; its range is checked where it is rendered. -/
def prefixLengthGrammar : Grammar := .integer (-2147483648) 2147483647

/-- The block of a timestamp service. -/
def timestampsGrammar : Grammar := .record [
  .may "mode" (.optional (.word ["uptime", "datetime", "datetime msec"]))]

/-- The services. -/
def Services.grammar : Grammar := .record [
  .may "timestamps_debug" (.optional timestampsGrammar),
  .may "timestamps_log" (.optional timestampsGrammar),
  .may "password_encryption" (.optional .boolean)]

/-- An enable secret; its storage type has to be given. -/
def EnableSecret.grammar : Grammar := .record [
  (Member.must "encryption_type" Encryption.grammar).orNamed "ecryption_type",
  .must "plaintext" .text]

/-- A method list. -/
def AuthenticationMethod.grammar : Grammar := .record [
  .must "method_list" .text,
  .must "source" (.list (.word ["local", "enable", "group radius", "group tacacs+", "group ldap",
    "group kerberos", "line"]))]

/-- The method lists for login, privileged mode and point to point links. -/
def Authentication.grammar : Grammar := .record [
  .may "login" (.optional AuthenticationMethod.grammar),
  .may "enable" (.optional AuthenticationMethod.grammar),
  .may "ppp" (.optional AuthenticationMethod.grammar)]

/-- The block that turns the new authentication model on. -/
def Authentication.blockGrammar : Grammar := .record [
  .may "authentication" Authentication.grammar]

/-- The password of a user. -/
def Password.userGrammar : Grammar := .record [
  (Member.may "encryption_type" (.optional Encryption.grammar)).orNamed "ecryption_type",
  .must "plaintext" .text]

/-- The password of a line. -/
def Password.lineGrammar : Grammar := .record [
  .must "plaintext" .text,
  (Member.may "encryption_type" (.optional Encryption.grammar)).orNamed "ecryption_type"]

/-- A local user. -/
def User.grammar : Grammar := .record [
  .must "username" (.word ["cisco", "class"]),
  .may "privilege" (.optional (.integer 0 255)),
  .must "password" Password.userGrammar]

/-- A port. -/
def Port.grammar : Grammar := .record [
  .must "type" (.word ["Loopback", "GigabitEthernet", "FastEthernet", "Serial", "Vlan"]),
  .must "index" .text]

/-- The address of an interface. -/
def Ipv4Interface.grammar : Grammar := .record [
  .must "ip" .address,
  (Member.must "subnet_prefix" prefixLengthGrammar).orNamed "subnetPrefix"]

/-- An interface. -/
def Interface.grammar : Grammar := .record [
  .must "port" Port.grammar,
  .may "description" (.optional .text),
  .may "ip4_address" (.optional Ipv4Interface.grammar),
  .may "clock_rate" (.optional (.integer 0 4294967295)),
  .may "duplex" (.optional (.word ["auto", "full", "half"])),
  .may "speed" (.optional (.word ["auto", "10", "100", "1000"])),
  .may "mtu" (.optional (.integer 0 65535)),
  .may "shutdown" (.optional .boolean)]

/-- A network of an OSPF process. -/
def OspfNetwork.grammar : Grammar := .record [
  .must "ip_address" .address,
  (Member.must "subnet_prefix" prefixLengthGrammar).orNamed "subnetPrefix",
  .must "area" (.integer 0 4294967295)]

/-- An OSPF process. -/
def Ospf.grammar : Grammar := .record [
  .must "process_id" (.integer 0 65535),
  .may "log_adjacency_changes" (.optional .boolean),
  .may "passive_interfaces" (.optional (.list Port.grammar)),
  .may "networks" (.list OspfNetwork.grammar)]

/-- A static route. -/
def StaticRoute.grammar : Grammar := .record [
  .must "destination" .address,
  (Member.must "subnet_prefix" prefixLengthGrammar).orNamed "subnetPrefix",
  .must "forwarding_router" .address]

/-- A login policy. -/
def LoginPolicy.grammar : Grammar := .record [
  .must "method" (.word ["local", "authentication"]),
  .may "method_list" (.optional .text)]

/-- An idle time. -/
def ExecTimeout.grammar : Grammar := .record [
  .may "minutes" (.optional (.integer 0 4294967295)),
  .must "seconds" (.integer 0 4294967295)]

/-- A class of lines. -/
def Line.grammar : Grammar := .record [
  .may "port_start" (.optional (.integer 0 65535)),
  .may "port_end" (.optional (.integer 0 65535)),
  .may "logging" (.optional (.word ["synchronous", "monitor"])),
  .may "password" (.optional Password.lineGrammar),
  .may "login" (.optional LoginPolicy.grammar),
  .must "exec_timeout" ExecTimeout.grammar,
  .may "transport_input" (.optional (.word ["all", "none", "ssh", "telnet", "raw", "lat"]))]

/-- The block of the flow export. -/
def flowExportGrammar : Grammar := .record [
  .may "version" (.optional (.integer 0 65535))]

/-- What a configuration may be read from. -/
def Config.grammar : Grammar := .record [
  .may "version" (.optional .text),
  .may "services" Services.grammar,
  .may "hostname" (.optional .text),
  .may "enable_secret" (.optional EnableSecret.grammar),
  .may "enable_password" (.optional .text),
  .may "aaa_new_model" (.optional Authentication.blockGrammar),
  .may "users" (.list User.grammar),
  .may "ip_cef" (.optional .boolean),
  .may "ipv6_cef" (.optional .boolean),
  .may "ip_domain_lookup" (.optional .boolean),
  .may "ip_domain_name" (.optional .text),
  .may "banner_motd" (.optional .text),
  .may "spanning_tree_mode" (.optional (.word ["pvst", "rapid-pvst", "mst"])),
  .may "interfaces" (.list Interface.grammar),
  .may "router_ospf" (.optional Ospf.grammar),
  .may "ip_classless" (.optional .boolean),
  .may "ip_route" (.optional (.list StaticRoute.grammar)),
  .may "ip_flow_export" (.optional flowExportGrammar),
  .may "line_con" (.optional Line.grammar),
  .may "line_aux" (.optional Line.grammar),
  .may "line_vty" (.optional Line.grammar)]

/-! ## The schema follows it -/

/-- The number of a storage type that is found is the one it was found by. -/
theorem Encryption.number_of_ofNumber? {number : UInt8} {encryption : Encryption}
    (found : ofNumber? number = some encryption) : encryption.number = number := by
  unfold ofNumber? at found
  split_ifs at found with zero five seven
  · obtain rfl := Option.some.inj found
    exact zero.symm
  · obtain rfl := Option.some.inj found
    exact five.symm
  · obtain rfl := Option.some.inj found
    exact seven.symm

/-- A storage type is read exactly from one of its three numbers. -/
theorem Encryption.exists_ofValue_iff {value : Value} :
    (∃ encryption, Encryption.shape.ofValue value = .ok encryption) ↔
      ∃ number ∈ ([0, 5, 7] : List Int), value = .integer number := by
  constructor
  · rintro ⟨encryption, read⟩
    obtain ⟨byte, read, admitted⟩ := Shape.ofValue_refine.mp read
    obtain ⟨number, rfl, held⟩ := Shape.ofValue_integer read
    have found : ofNumber? byte = some encryption := by
      split at admitted
      case h_1 found => rw [found, Except.ok.inj admitted]
      case h_2 => contradiction
    obtain rfl := number_of_ofNumber? found
    obtain rfl := MachineInteger.toInt_of_ofInt? held
    refine ⟨_, ?_, rfl⟩
    cases encryption <;> decide
  · rintro ⟨number, among, rfl⟩
    simp only [List.mem_cons, List.not_mem_nil, or_false] at among
    rcases among with rfl | rfl | rfl
    · exact ⟨.plaintext, rfl⟩
    · exact ⟨.md5, rfl⟩
    · exact ⟨.vigenere, rfl⟩

/-- A storage type is one of three integers. -/
theorem Encryption.follows : Encryption.shape.Follows Encryption.grammar :=
  Or.inr ⟨[0, 5, 7], rfl, fun _ => exists_ofValue_iff⟩

/-- The services follow their grammar. -/
theorem Services.follows : Services.shape.Follows Services.grammar :=
  .ofStructure
    (.defaulted (.presence (.keyword rfl)) rfl
      <| .defaulted (.presence (.keyword rfl)) rfl
      <| .optional .boolean .nil)

/-- An enable secret follows its grammar. -/
theorem EnableSecret.follows : EnableSecret.shape.Follows EnableSecret.grammar :=
  .ofStructure (.required Encryption.follows <| .required .text .nil)

/-- A method list follows its grammar. -/
theorem AuthenticationMethod.follows :
    AuthenticationMethod.shape.Follows AuthenticationMethod.grammar :=
  .ofStructure (.required .text <| .required (.list (.keyword rfl)) .nil)

/-- The method lists follow their grammar. -/
theorem Authentication.follows : Authentication.shape.Follows Authentication.grammar :=
  .ofStructure
    (.optional AuthenticationMethod.follows
      <| .optional AuthenticationMethod.follows
      <| .optional AuthenticationMethod.follows .nil)

/-- The block that turns the new model on follows its grammar. -/
theorem Authentication.followsBlock :
    Authentication.blockShape.Follows Authentication.blockGrammar :=
  .ofStructure (.defaulted Authentication.follows rfl .nil)

/-- The password of a user follows its grammar. -/
theorem Password.followsUser : Password.userShape.Follows Password.userGrammar :=
  .ofStructure (.optional Encryption.follows <| .required .text .nil)

/-- The password of a line follows its grammar. -/
theorem Password.followsLine : Password.lineShape.Follows Password.lineGrammar :=
  .ofStructure (.required .text <| .optional Encryption.follows .nil)

/-- A local user follows its grammar. -/
theorem User.follows : User.shape.Follows User.grammar :=
  .ofStructure
    (.required (.keyword rfl)
      <| .optional (.integer rfl rfl)
      <| .required Password.followsUser .nil)

/-- A port follows its grammar. -/
theorem Port.follows : Port.shape.Follows Port.grammar :=
  .ofStructure (.required (.keyword rfl) <| .required .text .nil)

/-- The address of an interface follows its grammar. -/
theorem Ipv4Interface.follows : Ipv4Interface.shape.Follows Ipv4Interface.grammar :=
  .ofStructure (.required .address <| .required (.integer rfl rfl) .nil)

/-- An interface follows its grammar. -/
theorem Interface.follows : Interface.shape.Follows Interface.grammar :=
  .ofStructure
    (.required Port.follows
      <| .optional .text
      <| .optional Ipv4Interface.follows
      <| .optional (.integer rfl rfl)
      <| .optional (.keyword rfl)
      <| .optional (.keyword rfl)
      <| .optional (.integer rfl rfl)
      <| .optional .boolean .nil)

/-- A network follows its grammar. -/
theorem OspfNetwork.follows : OspfNetwork.shape.Follows OspfNetwork.grammar :=
  .ofStructure
    (.required .address
      <| .required (.integer rfl rfl)
      <| .required (.integer rfl rfl) .nil)

/-- An OSPF process follows its grammar. -/
theorem Ospf.follows : Ospf.shape.Follows Ospf.grammar :=
  .ofStructure
    (.required (.integer rfl rfl)
      <| .optional .boolean
      <| .optional (.list Port.follows)
      <| .defaulted (.list OspfNetwork.follows) rfl .nil)

/-- A static route follows its grammar. -/
theorem StaticRoute.follows : StaticRoute.shape.Follows StaticRoute.grammar :=
  .ofStructure
    (.required .address <| .required (.integer rfl rfl) <| .required .address .nil)

/-- A login policy follows its grammar. -/
theorem LoginPolicy.follows : LoginPolicy.shape.Follows LoginPolicy.grammar :=
  .ofStructure (.required (.keyword rfl) <| .optional .text .nil)

/-- An idle time follows its grammar. -/
theorem ExecTimeout.follows : ExecTimeout.shape.Follows ExecTimeout.grammar :=
  .ofStructure (.optional (.integer rfl rfl) <| .required (.integer rfl rfl) .nil)

/-- A class of lines follows its grammar. -/
theorem Line.follows : Line.shape.Follows Line.grammar :=
  .ofStructure
    (.optional (.integer rfl rfl)
      <| .optional (.integer rfl rfl)
      <| .optional (.keyword rfl)
      <| .optional Password.followsLine
      <| .optional LoginPolicy.follows
      <| .required ExecTimeout.follows
      <| .optional (.keyword rfl) .nil)

/-- The schema of a configuration follows its grammar. -/
theorem Config.follows : Config.shape.Follows Config.grammar :=
  .ofStructure
    (.optional .text
      <| .defaulted Services.follows rfl
      <| .optional .text
      <| .optional EnableSecret.follows
      <| .optional .text
      <| .optional Authentication.followsBlock
      <| .defaulted (.list User.follows) rfl
      <| .optional .boolean
      <| .optional .boolean
      <| .optional .boolean
      <| .optional .text
      <| .optional .text
      <| .optional (.keyword rfl)
      <| .defaulted (.list Interface.follows) rfl
      <| .optional Ospf.follows
      <| .optional .boolean
      <| .optional (.list StaticRoute.follows)
      <| .defaulted (.presence (.integer rfl rfl)) rfl
      <| .optional Line.follows
      <| .optional Line.follows
      <| .optional Line.follows .nil)

end RunningConfig
