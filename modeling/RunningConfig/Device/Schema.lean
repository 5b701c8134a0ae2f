import RunningConfig.Device.Config
import RunningConfig.Schema.Shape
/-!
# The schema of a configuration

The shape of every type of the configuration: the names of its fields in the order of
declaration, the names accepted beside them, and the defaults of fields that may be left out.
-/

namespace RunningConfig

open Schema (Shape Fields FieldName)

/-- A record whose fields are exactly the parts of a structure. -/
def Schema.structureShape {α β σ : Type} (name : String) (fields : Fields β σ) (make : β → α)
    (parts : α → β) (make_parts : ∀ value, make (parts value) = value) : Shape α :=
  .refine (.record name fields) (fun values => .ok (make values)) parts
    fun value => by rw [make_parts]

/-- A field that is unset unless it is given. -/
def Schema.optionalField {α β σ : Type} (field : FieldName) (shape : Shape α)
    (rest : Fields β σ) : Fields (Option α × β) (Option (Option α) × σ) :=
  .defaulted field (.option shape) none rest

/-- A block whose presence counts, with one optional field. -/
def Presence.shape {α : Type} (name : String) (field : FieldName) (shape : Shape α) :
    Shape (Presence α) :=
  .refine (.option (.record name (.sparse field shape .nil)))
    (fun block => .ok (.ofBlock (block.map Prod.fst)))
    (fun presence => presence.toBlock.map (·, ()))
    fun presence => by cases presence <;> rfl

open Schema (structureShape optionalField)

/-- A storage type stands as its number. -/
def Encryption.shape : Shape Encryption :=
  .refine (.integer UInt8)
    (fun number =>
      match ofNumber? number with
      | some encryption => .ok encryption
      | none => .error (.encryptionType number))
    number
    fun encryption => by rw [ofNumber?_number]

/-- The field of a storage type and the other spelling it is known by. -/
def Encryption.field : FieldName := { name := "encryption_type", also := some "ecryption_type" }

/-- The field of a prefix length and the other spelling it is known by. -/
def prefixLengthField : FieldName := { name := "subnet_prefix", also := some "subnetPrefix" }

/-- The services, each unset or absent unless given. -/
def Services.shape : Shape Services :=
  structureShape "ServicesConfig"
    (.defaulted ⟨"timestamps_debug", none⟩
        (Presence.shape "TimestampsBlock" ⟨"mode", none⟩ (.keyword TimestampMode)) .absent
      <| .defaulted ⟨"timestamps_log", none⟩
        (Presence.shape "TimestampsBlock" ⟨"mode", none⟩ (.keyword TimestampMode)) .absent
      <| optionalField ⟨"password_encryption", none⟩ .boolean .nil)
    (fun (timestampsDebug, timestampsLog, passwordEncryption, ()) =>
      { timestampsDebug, timestampsLog, passwordEncryption })
    (fun services =>
      (services.timestampsDebug, services.timestampsLog, services.passwordEncryption, ()))
    fun _ => rfl

/-- A secret and its storage type, which has to be given. -/
def EnableSecret.shape : Shape EnableSecret :=
  structureShape "EnableSecret"
    (.required Encryption.field Encryption.shape
      <| .required ⟨"plaintext", none⟩ .text .nil)
    (fun (encryption, plaintext, ()) => { encryption, plaintext })
    (fun secret => (secret.encryption, secret.plaintext, ()))
    fun _ => rfl

/-- A method list: its name and its sources in order. -/
def AuthenticationMethod.shape : Shape AuthenticationMethod :=
  structureShape "AuthenticationMethod"
    (.required ⟨"method_list", none⟩ .text
      <| .required ⟨"source", none⟩ (.list (.keyword AuthenticationSource)) .nil)
    (fun (methodList, sources, ()) => { methodList, sources })
    (fun method => (method.methodList, method.sources, ()))
    fun _ => rfl

/-- The method lists for login, privileged mode and point to point links. -/
def Authentication.shape : Shape Authentication :=
  structureShape "AuthenticationConfig"
    (optionalField ⟨"login", none⟩ AuthenticationMethod.shape
      <| optionalField ⟨"enable", none⟩ AuthenticationMethod.shape
      <| optionalField ⟨"ppp", none⟩ AuthenticationMethod.shape .nil)
    (fun (login, enable, ppp, ()) => { login, enable, ppp })
    (fun authentication =>
      (authentication.login, authentication.enable, authentication.ppp, ()))
    fun _ => rfl

/-- The block that turns the new model on holds the method lists in one field. -/
def Authentication.blockShape : Shape Authentication :=
  structureShape "AaaConfig"
    (.defaulted ⟨"authentication", none⟩ Authentication.shape {} .nil)
    (fun (authentication, ()) => authentication)
    (fun authentication => (authentication, ()))
    fun _ => rfl

/-- The password of a user. -/
def Password.userShape : Shape Password :=
  structureShape "UserPassword"
    (optionalField Encryption.field Encryption.shape
      <| .required ⟨"plaintext", none⟩ .text .nil)
    (fun (encryption, plaintext, ()) => { encryption, plaintext })
    (fun password => (password.encryption, password.plaintext, ()))
    fun _ => rfl

/-- The password of a line. -/
def Password.lineShape : Shape Password :=
  structureShape "LinePassword"
    (.required ⟨"plaintext", none⟩ .text
      <| optionalField Encryption.field Encryption.shape .nil)
    (fun (plaintext, encryption, ()) => { encryption, plaintext })
    (fun password => (password.plaintext, password.encryption, ()))
    fun _ => rfl

/-- A local user, with a privilege or without. -/
def User.shape : Shape User :=
  structureShape "User"
    (.required ⟨"username", none⟩ (.keyword Username)
      <| optionalField ⟨"privilege", none⟩ (.integer UInt8)
      <| .required ⟨"password", none⟩ Password.userShape .nil)
    (fun (username, privilege, password, ()) => { username, privilege, password })
    (fun user => (user.username, user.privilege, user.password, ()))
    fun _ => rfl

/-- A port: its family and its index. -/
def Port.shape : Shape Port :=
  structureShape "PortId"
    (.required ⟨"type", none⟩ (.keyword InterfaceFamily)
      <| .required ⟨"index", none⟩ .text .nil)
    (fun (family, index, ()) => { family, index })
    (fun port => (port.family, port.index, ()))
    fun _ => rfl

/-- The address of an interface and the length of its prefix. -/
def Ipv4Interface.shape : Shape Ipv4Interface :=
  structureShape "Ipv4Interface"
    (.required ⟨"ip", none⟩ .address
      <| .required prefixLengthField (.integer Int32) .nil)
    (fun (ip, prefixLength, ()) => { ip, prefixLength })
    (fun address => (address.ip, address.prefixLength, ()))
    fun _ => rfl

/-- An interface; only its port has to be given. -/
def Interface.shape : Shape Interface :=
  structureShape "Interface"
    (.required ⟨"port", none⟩ Port.shape
      <| optionalField ⟨"description", none⟩ .text
      <| optionalField ⟨"ip4_address", none⟩ Ipv4Interface.shape
      <| optionalField ⟨"clock_rate", none⟩ (.integer UInt32)
      <| optionalField ⟨"duplex", none⟩ (.keyword Duplex)
      <| optionalField ⟨"speed", none⟩ (.keyword Speed)
      <| optionalField ⟨"mtu", none⟩ (.integer UInt16)
      <| optionalField ⟨"shutdown", none⟩ .boolean .nil)
    (fun (port, description, ip4Address, clockRate, duplex, speed, mtu, shutdown, ()) =>
      { port, description, ip4Address, clockRate, duplex, speed, mtu, shutdown })
    (fun interface =>
      (interface.port, interface.description, interface.ip4Address, interface.clockRate,
        interface.duplex, interface.speed, interface.mtu, interface.shutdown, ()))
    fun _ => rfl

/-- A network of a process: its address, the length of its prefix and its area. -/
def OspfNetwork.shape : Shape OspfNetwork :=
  structureShape "OspfNetwork"
    (.required ⟨"ip_address", none⟩ .address
      <| .required prefixLengthField (.integer Int32)
      <| .required ⟨"area", none⟩ (.integer UInt32) .nil)
    (fun (address, prefixLength, area, ()) => { address, prefixLength, area })
    (fun network => (network.address, network.prefixLength, network.area, ()))
    fun _ => rfl

/-- A process; only its number has to be given. -/
def Ospf.shape : Shape Ospf :=
  structureShape "OspfConfig"
    (.required ⟨"process_id", none⟩ (.integer UInt16)
      <| optionalField ⟨"log_adjacency_changes", none⟩ .boolean
      <| optionalField ⟨"passive_interfaces", none⟩ (.list Port.shape)
      <| .defaulted ⟨"networks", none⟩ (.list OspfNetwork.shape) [] .nil)
    (fun (processId, logAdjacencyChanges, passiveInterfaces, networks, ()) =>
      { processId, logAdjacencyChanges, passiveInterfaces, networks })
    (fun process =>
      (process.processId, process.logAdjacencyChanges, process.passiveInterfaces,
        process.networks, ()))
    fun _ => rfl

/-- A route: its destination, the length of the prefix and the next router. -/
def StaticRoute.shape : Shape StaticRoute :=
  structureShape "StaticRoute"
    (.required ⟨"destination", none⟩ .address
      <| .required prefixLengthField (.integer Int32)
      <| .required ⟨"forwarding_router", none⟩ .address .nil)
    (fun (destination, prefixLength, forwardingRouter, ()) =>
      { destination, prefixLength, forwardingRouter })
    (fun route => (route.destination, route.prefixLength, route.forwardingRouter, ()))
    fun _ => rfl

/-- How a login is checked, and by which method list. -/
def LoginPolicy.shape : Shape LoginPolicy :=
  structureShape "LoginPolicy"
    (.required ⟨"method", none⟩ (.keyword LoginMethod)
      <| optionalField ⟨"method_list", none⟩ .text .nil)
    (fun (method, methodList, ()) => { method, methodList })
    (fun policy => (policy.method, policy.methodList, ()))
    fun _ => rfl

/-- The idle time; seconds have to be given. -/
def ExecTimeout.shape : Shape ExecTimeout :=
  structureShape "ExecTimeout"
    (optionalField ⟨"minutes", none⟩ (.integer UInt32)
      <| .required ⟨"seconds", none⟩ (.integer UInt32) .nil)
    (fun (minutes, seconds, ()) => { minutes, seconds })
    (fun timeout => (timeout.minutes, timeout.seconds, ()))
    fun _ => rfl

/-- A class of lines; only its idle time has to be given. -/
def Line.shape : Shape Line :=
  structureShape "LineConfig"
    (optionalField ⟨"port_start", none⟩ (.integer UInt16)
      <| optionalField ⟨"port_end", none⟩ (.integer UInt16)
      <| optionalField ⟨"logging", none⟩ (.keyword LineLogging)
      <| optionalField ⟨"password", none⟩ Password.lineShape
      <| optionalField ⟨"login", none⟩ LoginPolicy.shape
      <| .required ⟨"exec_timeout", none⟩ ExecTimeout.shape
      <| optionalField ⟨"transport_input", none⟩ (.keyword TransportInput) .nil)
    (fun (portStart, portEnd, logging, password, login, execTimeout, transportInput, ()) =>
      { portStart, portEnd, logging, password, login, execTimeout, transportInput })
    (fun line =>
      (line.portStart, line.portEnd, line.logging, line.password, line.login,
        line.execTimeout, line.transportInput, ()))
    fun _ => rfl

/-- The whole configuration; nothing in it has to be given. -/
def Config.shape : Shape Config :=
  structureShape "DeviceConfig"
    (optionalField ⟨"version", none⟩ .text
      <| .defaulted ⟨"services", none⟩ Services.shape {}
      <| optionalField ⟨"hostname", none⟩ .text
      <| optionalField ⟨"enable_secret", none⟩ EnableSecret.shape
      <| optionalField ⟨"enable_password", none⟩ .text
      <| optionalField ⟨"aaa_new_model", none⟩ Authentication.blockShape
      <| .defaulted ⟨"users", none⟩ (.list User.shape) []
      <| optionalField ⟨"ip_cef", none⟩ .boolean
      <| optionalField ⟨"ipv6_cef", none⟩ .boolean
      <| optionalField ⟨"ip_domain_lookup", none⟩ .boolean
      <| optionalField ⟨"ip_domain_name", none⟩ .text
      <| optionalField ⟨"banner_motd", none⟩ .text
      <| optionalField ⟨"spanning_tree_mode", none⟩ (.keyword SpanningTreeMode)
      <| .defaulted ⟨"interfaces", none⟩ (.list Interface.shape) []
      <| optionalField ⟨"router_ospf", none⟩ Ospf.shape
      <| optionalField ⟨"ip_classless", none⟩ .boolean
      <| optionalField ⟨"ip_route", none⟩ (.list StaticRoute.shape)
      <| .defaulted ⟨"ip_flow_export", none⟩
        (Presence.shape "FlowExportBlock" ⟨"version", none⟩ (.integer UInt16)) .absent
      <| optionalField ⟨"line_con", none⟩ Line.shape
      <| optionalField ⟨"line_aux", none⟩ Line.shape
      <| optionalField ⟨"line_vty", none⟩ Line.shape .nil)
    (fun (version, services, hostname, enableSecret, enablePassword, aaaNewModel, users, ipCef,
        ipv6Cef, ipDomainLookup, ipDomainName, bannerMotd, spanningTreeMode, interfaces,
        routerOspf, ipClassless, ipRoute, ipFlowExport, lineCon, lineAux, lineVty, ()) =>
      { version, services, hostname, enableSecret, enablePassword, aaaNewModel, users, ipCef,
        ipv6Cef, ipDomainLookup, ipDomainName, bannerMotd, spanningTreeMode, interfaces,
        routerOspf, ipClassless, ipRoute, ipFlowExport, lineCon, lineAux, lineVty })
    (fun config =>
      (config.version, config.services, config.hostname, config.enableSecret,
        config.enablePassword, config.aaaNewModel, config.users, config.ipCef, config.ipv6Cef,
        config.ipDomainLookup, config.ipDomainName, config.bannerMotd, config.spanningTreeMode,
        config.interfaces, config.routerOspf, config.ipClassless, config.ipRoute,
        config.ipFlowExport, config.lineCon, config.lineAux, config.lineVty, ()))
    fun _ => rfl

end RunningConfig
