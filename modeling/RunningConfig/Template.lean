import RunningConfig.Load
import RunningConfig.Render.Config
/-!
# Templates

Three configurations that come with the program, as yaml texts under names.
-/

namespace RunningConfig.Template

/-- A router of a branch office, with every section in use. -/
def branchRouter : String := Config.textOfLines [
  "---",
  "version: \"15.4\"",
  "services:",
  "  timestamps_log: \x7b\x7d",
  "  password_encryption: true",
  "hostname: BRANCH_01",
  "enable_secret:",
  "  encryption_type: 5",
  "  plaintext: class",
  "aaa_new_model:",
  "  authentication:",
  "    login:",
  "      method_list: MGT",
  "      source:",
  "        - group tacacs+",
  "        - local",
  "    enable:",
  "      method_list: default",
  "      source:",
  "        - group tacacs+",
  "        - enable",
  "    ppp:",
  "      method_list: default",
  "      source:",
  "        - local",
  "users:",
  "  - username: class",
  "    privilege: 15",
  "    password:",
  "      encryption_type: 7",
  "      plaintext: class",
  "  - username: cisco",
  "    privilege: 1",
  "    password:",
  "      plaintext: cisco",
  "ip_cef: true",
  "ipv6_cef: true",
  "ip_domain_name: branch.example.net",
  "spanning_tree_mode: rapid-pvst",
  "interfaces:",
  "  - port:",
  "      type: Loopback",
  "      index: \"0\"",
  "    ip4_address:",
  "      ip: 10.255.0.1",
  "      subnet_prefix: 32",
  "  - port:",
  "      type: Serial",
  "      index: \"0/0/0\"",
  "    description: WAN to HQ",
  "    ip4_address:",
  "      ip: 10.0.0.2",
  "      subnet_prefix: 30",
  "    clock_rate: 64000",
  "  - port:",
  "      type: GigabitEthernet",
  "      index: \"0/1\"",
  "    description: Branch LAN",
  "    ip4_address:",
  "      ip: 192.168.10.1",
  "      subnet_prefix: 24",
  "    duplex: full",
  "    speed: \"100\"",
  "    mtu: 1500",
  "  - port:",
  "      type: GigabitEthernet",
  "      index: \"0/2\"",
  "    shutdown: true",
  "router_ospf:",
  "  process_id: 10",
  "  log_adjacency_changes: true",
  "  passive_interfaces:",
  "    - type: GigabitEthernet",
  "      index: \"0/1\"",
  "  networks:",
  "    - ip_address: 10.0.0.0",
  "      subnet_prefix: 30",
  "      area: 0",
  "    - ip_address: 192.168.10.0",
  "      subnet_prefix: 24",
  "      area: 10",
  "    - ip_address: 10.255.0.1",
  "      subnet_prefix: 32",
  "      area: 0",
  "ip_route:",
  "  - destination: 0.0.0.0",
  "    subnet_prefix: 0",
  "    forwarding_router: 10.0.0.1",
  "ip_flow_export:",
  "  version: 5",
  "banner_motd: Authorized access only",
  "line_con:",
  "  exec_timeout:",
  "    minutes: 5",
  "    seconds: 0",
  "  logging: synchronous",
  "  login:",
  "    method: local",
  "line_aux:",
  "  exec_timeout:",
  "    seconds: 1",
  "  transport_input: none",
  "line_vty:",
  "  port_end: 15",
  "  exec_timeout:",
  "    minutes: 10",
  "    seconds: 0",
  "  password:",
  "    plaintext: cisco",
  "    encryption_type: 7",
  "  login:",
  "    method: authentication",
  "    method_list: MGT",
  "  transport_input: ssh"]

/-- A router of a lab. -/
def labRouter : String := Config.textOfLines [
  "---",
  "version: \"12.2\"",
  "services:",
  "  timestamps_debug:",
  "    mode: datetime msec",
  "  timestamps_log:",
  "    mode: datetime msec",
  "  password_encryption: true",
  "hostname: ROUTER_MADELINE",
  "enable_secret:",
  "  encryption_type: 5",
  "  plaintext: cisco",
  "users:",
  "  - username: cisco",
  "    privilege: 15",
  "    password:",
  "      plaintext: cisco",
  "aaa_new_model:",
  "  authentication:",
  "    login:",
  "      method_list: default",
  "      source:",
  "        - local",
  "ip_domain_lookup: false",
  "ip_domain_name: hhs.nl",
  "banner_motd: Welcome at ROUTER_MADELINE!",
  "interfaces:",
  "  - port:",
  "      type: FastEthernet",
  "      index: \"0/0\"",
  "    ip4_address:",
  "      ip: 192.168.0.1",
  "      subnet_prefix: 24",
  "    shutdown: false",
  "  - port:",
  "      type: GigabitEthernet",
  "      index: \"0/1/0\"",
  "    ip4_address:",
  "      ip: 172.16.0.1",
  "      subnet_prefix: 24",
  "    description: Interface on LAN 2",
  "    duplex: half",
  "    speed: \"1000\"",
  "    shutdown: false",
  "router_ospf:",
  "  process_id: 1",
  "  networks:",
  "    - ip_address: 192.168.0.0",
  "      subnet_prefix: 24",
  "      area: 0",
  "ip_classless: true",
  "ip_route:",
  "  - destination: 172.16.1.0",
  "    subnet_prefix: 24",
  "    forwarding_router: 192.168.0.5",
  "line_vty:",
  "  exec_timeout:",
  "    minutes: 0",
  "    seconds: 60",
  "  logging: synchronous",
  "  login:",
  "    method: authentication",
  "    method_list: default",
  "  transport_input: ssh"]

/-- A router with one interface. -/
def minimalRouter : String := Config.textOfLines [
  "---",
  "services: \x7b\x7d",
  "users: []",
  "interfaces:",
  "  - port:",
  "      type: FastEthernet",
  "      index: \"0/0\"",
  "    ip4_address:",
  "      ip: 10.0.0.1",
  "      subnet_prefix: 30"]

/-- The templates in the order of their names. -/
def all : List (String × String) := [
  ("branch_router", branchRouter), ("lab_router", labRouter), ("minimal_router", minimalRouter)]

/-- The names of the templates. -/
def names : List String := all.map Prod.fst

/-- The configuration of a template. -/
def load (name : String) : Except LoadFault Config :=
  match all.lookup name with
  | some text => Config.ofYaml text
  | none => .error (.unknownTemplate name)

end RunningConfig.Template
