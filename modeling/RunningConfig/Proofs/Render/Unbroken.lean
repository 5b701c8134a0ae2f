import RunningConfig.Proofs.Config.Texts
import RunningConfig.Proofs.Mask
import RunningConfig.Proofs.Render.Content
/-!
# Where line feeds in a document come from

The layout, the keywords, the numbers and the addresses hold no line feed, and neither do the two
credentials that have encodings. So the lines of a configuration are free of line feeds exactly when
its texts are. Each section is a lemma of its own, in the order of the document.
-/

namespace RunningConfig

open Text (Unbroken)

/-- A choice has an unbroken word when every word on offer is unbroken. -/
theorem Keyword.unbroken_word {α : Type} [Keyword α]
    (words : ∀ word ∈ Keyword.words α, Unbroken word) (choice : α) :
    Unbroken (Keyword.word choice) :=
  words _ (List.mem_map_of_mem (Keyword.mem_all choice))

/-- The text of a number is unbroken. -/
theorem Text.unbroken_toString (number : Nat) : Unbroken (toString number) :=
  not_mem_toString rfl number

/-- The number of a storage type is unbroken. -/
theorem Encryption.unbroken_toText (encryption : Encryption) : Unbroken encryption.toText :=
  Text.unbroken_toString _

/-- The dotted quad of an address is unbroken. -/
theorem Address.unbroken_toText (address : Address) : Unbroken address.toText :=
  not_mem_toText rfl (by decide) address

namespace Render

/-- A mask is unbroken. -/
theorem unbroken_mask {length : Int32} {text : String} (shown : mask length = .ok text) :
    Unbroken text :=
  not_mem_mask rfl (by decide) shown

/-- A wildcard is unbroken. -/
theorem unbroken_wildcard {length : Int32} {text : String} (shown : wildcard length = .ok text) :
    Unbroken text :=
  not_mem_wildcard rfl (by decide) shown

/-- A credential is shown without a line feed exactly when it holds none. -/
theorem unbroken_credential {plaintext shown : String} {encryption : Encryption}
    (encoded : credential plaintext encryption = .ok shown) :
    Unbroken shown ↔ Unbroken plaintext := by
  have table : ∀ entry ∈ Credential.table,
      Unbroken entry.plaintext ∧ Unbroken entry.md5 ∧ Unbroken entry.vigenere := by decide
  cases found : Credential.lookup? plaintext with
  | none =>
    cases encryption <;> simp [credential, Credential.encode?, found] at encoded
    rw [encoded]
  | some entry =>
    obtain ⟨free, md5, vigenere⟩ := table entry (List.mem_of_find?_eq_some found)
    have same : entry.plaintext = plaintext := by simpa using List.find?_some found
    rw [same] at free
    cases encryption <;> simp [credential, Credential.encode?, found] at encoded <;>
      simp only [← encoded, free, md5, vigenere]

/-- A line that may be missing is unbroken when its text is. -/
theorem unbroken_orPlaceholder {α : Type} {text? : Option α} {shape : α → String} :
    Unbroken (orPlaceholder (text?.map shape)) ↔
      ∀ text, text? = some text → Unbroken (shape text) := by
  cases text? with
  | none =>
    have placeholder : Unbroken Default.placeholder := by decide
    simpa [orPlaceholder] using placeholder
  | some text => simp [orPlaceholder]

/-- An item that may be missing is shown unbroken when its text is. -/
theorem unbroken_ofOption {α : Type} {act : α → Rendered String} {view : α → String}
    {item? : Option α} {line : String}
    (each : ∀ item line, act item = .ok line → (Unbroken line ↔ Unbroken (view item)))
    (shown : Rendered.ofOption act Default.placeholder item? = .ok line) :
    Unbroken line ↔ ∀ text, item?.map view = some text → Unbroken text := by
  cases item? with
  | none =>
    obtain rfl := Except.ok.inj shown
    simp [Default.placeholder, Unbroken]
  | some item => simp [each item line shown]

/-- A directive is unbroken when on exactly when it is when off. -/
theorem unbroken_toggle {on : Bool} {directive : String} :
    Unbroken (toggle on directive) ↔ Unbroken directive := by
  have blank : Unbroken " " := by decide
  have negation : Unbroken "no " := by decide
  cases on <;> simp [toggle, blank, negation]

/-! ## Access -/

/-- The line of an enable secret breaks only where its text does. -/
theorem unbroken_enableSecret {secret : EnableSecret} {line : String}
    (shown : enableSecret secret = .ok line) : Unbroken line ↔ Unbroken secret.plaintext := by
  obtain ⟨encoded, credential, rfl⟩ := Rendered.bind_pure_eq_ok.mp shown
  rw [← unbroken_credential credential]
  have type := secret.encryption.unbroken_toText
  simp_all [Unbroken]

/-- The line of an authentication method breaks only where the name of its list does. -/
theorem unbroken_authentication {keyword : String} (plain : Unbroken keyword)
    (method : AuthenticationMethod) :
    Unbroken (authentication keyword method) ↔ Unbroken method.methodList := by
  have directive : Unbroken "aaa authentication " := by decide
  have blank : Unbroken " " := by decide
  have words : ∀ word ∈ Keyword.words AuthenticationSource, Unbroken word := by decide
  have sources : Unbroken (" ".intercalate (method.sources.map Keyword.word)) :=
    Text.unbroken_intercalate blank
      (List.forall_mem_map.mpr fun source _ => Keyword.unbroken_word words source)
  unfold authentication
  generalize " ".intercalate (method.sources.map Keyword.word) = joined at sources
  simp only [Text.unbroken_append]
  constructor
  · exact fun unbroken => unbroken.1.1.2
  · exact fun name => ⟨⟨⟨⟨⟨directive, plain⟩, blank⟩, name⟩, blank⟩, sources⟩

/-- The line of a user breaks only where the password does. -/
theorem unbroken_user {account : User} {line : String} (shown : user account = .ok line) :
    Unbroken line ↔ Unbroken account.password.plaintext := by
  obtain ⟨password, encoded, rfl⟩ := Rendered.bind_pure_eq_ok.mp shown
  rw [← unbroken_credential encoded]
  have name : Unbroken (Keyword.word account.username) := Keyword.unbroken_word (by decide) _
  have level := Text.unbroken_toString (account.privilege.getD Default.privilege).toNat
  have type := account.password.effectiveEncryption.unbroken_toText
  simp_all [Unbroken]

/-- The lines of users break only where their passwords do. -/
theorem unbroken_users {items : List User} {lines : List String}
    (shown : users items = .ok lines) :
    (∀ line ∈ lines, Unbroken line) ↔
      ∀ account ∈ items, Unbroken account.password.plaintext := by
  cases items with
  | nil =>
    obtain rfl := Except.ok.inj shown
    decide
  | cons first rest => exact Rendered.forall_mem_iff_of_mapM (fun _ _ => unbroken_user) shown

/-! ## Interfaces -/

/-- The name of a port breaks only where its index does. -/
theorem unbroken_portName (port : Port) : Unbroken port.name ↔ Unbroken port.index := by
  have family : Unbroken (Keyword.word port.family) := Keyword.unbroken_word (by decide) _
  simp only [Port.name, Text.unbroken_append, family, true_and]

/-- The address line is unbroken. -/
theorem unbroken_interfaceAddress {address : Option Ipv4Interface} {line : String}
    (shown : interfaceAddress address = .ok line) : Unbroken line := by
  cases address with
  | none =>
    obtain rfl := Except.ok.inj shown
    decide
  | some address =>
    obtain ⟨text, masked, rfl⟩ := Rendered.bind_pure_eq_ok.mp shown
    have mask := unbroken_mask masked
    have ip := address.ip.unbroken_toText
    simp_all [Unbroken]

/-- The lines of an interface break only where its index or its description does. -/
theorem unbroken_interface {port : Interface} {lines : List String}
    (shown : interface port = .ok lines) :
    (∀ line ∈ lines, Unbroken line) ↔
      Unbroken port.port.index ∧ ∀ text, port.description = some text → Unbroken text := by
  obtain ⟨address, addressed, rfl⟩ := Rendered.bind_pure_eq_ok.mp shown
  rw [← unbroken_portName]
  have address := unbroken_interfaceAddress addressed
  have duplex : Unbroken (Keyword.word (port.duplex.getD Default.duplex)) :=
    Keyword.unbroken_word (by decide) _
  have speed : Unbroken (Keyword.word (port.speed.getD Default.speed)) :=
    Keyword.unbroken_word (by decide) _
  have number := Text.unbroken_toString
  have shutdown : ∀ line ∈ (if port.shutdown = some true then [" shutdown"] else []),
      Unbroken line := by
    split <;> decide
  simp only [List.forall_mem_append, List.forall_mem_singleton]
  simp_all [Unbroken]

/-- The lines of interfaces break only where their indexes or their descriptions do. -/
theorem unbroken_interfaces {items : List Interface} {lines : List String}
    (shown : interfaces items = .ok lines) :
    (∀ line ∈ lines, Unbroken line) ↔ ∀ port ∈ items,
      Unbroken port.port.index ∧ ∀ text, port.description = some text → Unbroken text := by
  have placeholder : Unbroken Default.placeholder := by decide
  cases items with
  | nil =>
    obtain rfl := Except.ok.inj shown
    decide
  | cons first rest =>
    obtain ⟨blocks, traversed, rfl⟩ := Rendered.bind_pure_eq_ok.mp shown
    rw [← Rendered.forall_mem_iff_of_mapM (fun _ _ => unbroken_interface) traversed]
    simp only [List.forall_mem_flatMap, List.forall_mem_append, List.forall_mem_singleton,
      placeholder, and_true]

/-! ## Routing -/

/-- The line of an OSPF network is unbroken. -/
theorem unbroken_ospfNetwork {network : OspfNetwork} {line : String}
    (shown : ospfNetwork network = .ok line) : Unbroken line := by
  obtain ⟨text, inverted, rfl⟩ := Rendered.bind_pure_eq_ok.mp shown
  have wildcard := unbroken_wildcard inverted
  have address := network.address.unbroken_toText
  have area := Text.unbroken_toString network.area.toNat
  simp_all [Unbroken]

/-- The lines of an OSPF process break only where the index of a passive interface does. -/
theorem unbroken_ospf {process : Ospf} {lines : List String} (shown : ospf process = .ok lines) :
    (∀ line ∈ lines, Unbroken line) ↔
      ∀ port ∈ process.passiveInterfaces.getD [], Unbroken port.index := by
  obtain ⟨networks, traversed, rfl⟩ := Rendered.bind_pure_eq_ok.mp shown
  have networks := Rendered.forall_mem_of_mapM (fun _ _ => unbroken_ospfNetwork) traversed
  have number := Text.unbroken_toString process.processId.toNat
  have header : Unbroken ("router ospf " ++ toString process.processId.toNat) := by
    simp_all [Unbroken]
  have logging : Unbroken (if process.logAdjacencyChanges.getD Default.logAdjacencyChanges
      then " log-adjacency-changes " else " no log-adjacency-changes ") := by
    split <;> decide
  have directive : Unbroken " passive-interface " := by decide
  simp only [List.forall_mem_append, List.forall_mem_singleton, List.forall_mem_map,
    Text.unbroken_append, unbroken_portName]
  constructor
  · exact fun unbroken port member => (unbroken.1.2 port member).2
  · exact fun passive => ⟨⟨⟨Text.unbroken_append.mp header, logging⟩,
      fun port member => ⟨directive, passive port member⟩⟩, networks⟩

/-- The line of a static route is unbroken. -/
theorem unbroken_staticRoute {route : StaticRoute} {line : String}
    (shown : staticRoute route = .ok line) : Unbroken line := by
  obtain ⟨text, masked, rfl⟩ := Rendered.bind_pure_eq_ok.mp shown
  have mask := unbroken_mask masked
  have destination := route.destination.unbroken_toText
  have router := route.forwardingRouter.unbroken_toText
  simp_all [Unbroken]

/-- The lines of static routes are unbroken. -/
theorem unbroken_staticRoutes {items : List StaticRoute} {lines : List String}
    (shown : staticRoutes items = .ok lines) : ∀ line ∈ lines, Unbroken line := by
  cases items with
  | nil =>
    obtain rfl := Except.ok.inj shown
    decide
  | cons first rest => exact Rendered.forall_mem_of_mapM (fun _ _ => unbroken_staticRoute) shown

/-! ## Lines of the three classes -/

/-- The header of a class is unbroken. -/
theorem unbroken_lineHeader (kind : LineClass) (line : Option Line) :
    Unbroken (lineHeader kind line) := by
  have word : Unbroken (Keyword.word kind) := Keyword.unbroken_word (by decide) _
  have number := Text.unbroken_toString
  unfold lineHeader
  cases (line.bind Line.portEnd).or (Default.linePortEnd? kind) <;> simp_all [Unbroken]

/-- The line of a password breaks only where the password does. -/
theorem unbroken_linePassword {password : Password} {line : String}
    (shown : linePassword password = .ok line) : Unbroken line ↔ Unbroken password.plaintext := by
  obtain ⟨encoded, credential, rfl⟩ := Rendered.bind_pure_eq_ok.mp shown
  rw [← unbroken_credential credential]
  have type := password.effectiveEncryption.unbroken_toText
  split <;> simp_all [Unbroken]

/-- The login line breaks only where the name of the method list does. -/
theorem unbroken_login (policy : Option LoginPolicy) :
    Unbroken (login policy) ↔
      ∀ name, policy.bind LoginPolicy.methodList = some name → Unbroken name := by
  cases policy with
  | none => simp [login, Unbroken]
  | some policy =>
    have word : Unbroken (Keyword.word policy.method) := Keyword.unbroken_word (by decide) _
    simp only [login, Option.bind_some]
    cases policy.methodList <;> simp_all [Unbroken]

/-- A body breaks only where its password or its method list does. -/
theorem unbroken_lineBody {line : Line} {lines : List String} (shown : lineBody line = .ok lines) :
    (∀ text ∈ lines, Unbroken text) ↔
      (∀ text, line.password.map Password.plaintext = some text → Unbroken text) ∧
      ∀ name, line.login.bind LoginPolicy.methodList = some name → Unbroken name := by
  obtain ⟨shownPassword, password, rfl⟩ := lineBody_eq_ok.mp shown
  have password := unbroken_ofOption (fun _ _ => unbroken_linePassword) password
  have number := Text.unbroken_toString
  have timeout : Unbroken (" exec-timeout " ++ minutes line.execTimeout ++ " "
      ++ toString line.execTimeout.seconds.toNat) := by
    unfold minutes
    cases line.execTimeout.minutes <;> simp_all [Unbroken]
  have logging : Unbroken (orPlaceholder
      (line.logging.map fun mode => "logging " ++ Keyword.word mode)) := by
    refine unbroken_orPlaceholder.mpr fun mode _ => ?_
    exact Text.unbroken_append.mpr ⟨by decide, Keyword.unbroken_word (by decide) mode⟩
  have transport : Unbroken (orPlaceholder
      (line.transportInput.map fun protocol => "transport input " ++ Keyword.word protocol)) := by
    refine unbroken_orPlaceholder.mpr fun protocol _ => ?_
    exact Text.unbroken_append.mpr ⟨by decide, Keyword.unbroken_word (by decide) protocol⟩
  have blank : Unbroken " " := by decide
  rw [← password, ← unbroken_login]
  simp only [List.forall_mem_cons, List.not_mem_nil, false_implies, implies_true, and_true]
  constructor
  · rintro ⟨-, password, -, login, -⟩
    exact ⟨(Text.unbroken_append.mp password).2, (Text.unbroken_append.mp login).2⟩
  · rintro ⟨password, login⟩
    exact ⟨timeout, Text.unbroken_append.mpr ⟨blank, password⟩,
      Text.unbroken_append.mpr ⟨blank, logging⟩, Text.unbroken_append.mpr ⟨blank, login⟩,
      Text.unbroken_append.mpr ⟨blank, transport⟩⟩

/-- The lines of a class break only where the password or the method list of its line does. -/
theorem unbroken_lineClass {kind : LineClass} {line : Option Line} {lines : List String}
    (shown : lineClass kind line = .ok lines) :
    (∀ text ∈ lines, Unbroken text) ↔ ∀ given, line = some given →
      (∀ text, given.password.map Password.plaintext = some text → Unbroken text) ∧
      ∀ name, given.login.bind LoginPolicy.methodList = some name → Unbroken name := by
  obtain ⟨body, bodied, rfl⟩ := lineClass_eq_ok.mp shown
  have header := unbroken_lineHeader kind line
  cases line with
  | none =>
    obtain rfl := Except.ok.inj bodied
    simp [header]
  | some line =>
    rw [List.forall_mem_cons, unbroken_lineBody bodied]
    simp only [header, true_and, Option.some.injEq, forall_eq']

end Render

end RunningConfig
