import RunningConfig.Proofs.Render.Document
/-!
# What can keep a configuration from rendering

Two kinds of items can have no text: a prefix length, which needs a mask, and a credential, which
needs an encoding of its storage type. `Config.demands` lists the items of a configuration in the
order of the document. A configuration renders exactly when each of them is met, and otherwise
fails with the fault of the first one that is not.
-/

namespace RunningConfig

/-- What an item of a configuration needs to be shown. -/
inductive Demand where
  /-- The mask of a prefix length. -/
  | mask (length : Int32)
  /-- The encoding of a credential for its storage type. -/
  | encoding (plaintext : String) (encryption : Encryption)
  deriving DecidableEq, Repr

namespace Demand

/-- A prefix length is at most the size of an address, and an encoded credential is one of the
two that have encodings. -/
def Met : Demand → Prop
  | mask length => 0 ≤ length.toInt ∧ length.toInt ≤ 32
  | encoding plaintext encryption =>
    encryption = .plaintext ∨ plaintext = "cisco" ∨ plaintext = "class"

instance (demand : Demand) : Decidable demand.Met := by
  cases demand <;> unfold Met <;> infer_instance

/-- The fault of a demand that is not met. -/
def fault : Demand → RenderFault
  | mask length => .prefixLength length
  | encoding plaintext encryption => .credential plaintext encryption

/-- The fault a demand gives rise to, if any. -/
def fault? (demand : Demand) : Option RenderFault :=
  if demand.Met then none else some demand.fault

/-- A demand gives rise to no fault exactly when it is met. -/
theorem fault?_eq_none {demand : Demand} : demand.fault? = none ↔ demand.Met := by
  by_cases met : demand.Met <;> simp [fault?, met]

/-- A demand gives rise to its own fault, exactly when it is not met. -/
theorem fault?_eq_some {demand : Demand} {fault : RenderFault} :
    demand.fault? = some fault ↔ ¬demand.Met ∧ demand.fault = fault := by
  by_cases met : demand.Met <;> simp [fault?, met]

end Demand

/-! ## The items of a configuration -/

/-- What an enable secret needs. -/
def EnableSecret.demand (secret : EnableSecret) : Demand :=
  .encoding secret.plaintext secret.encryption

/-- What a password needs: plain text is its storage type when unset. -/
def Password.demand (password : Password) : Demand :=
  .encoding password.plaintext (password.encryption.getD .plaintext)

/-- What an interface needs: a mask if it has an address. -/
def Interface.demand? (interface : Interface) : Option Demand :=
  interface.ip4Address.map fun address => .mask address.prefixLength

/-- What a line needs: an encoding if it has a password. -/
def Line.demand? (line : Line) : Option Demand := line.password.map Password.demand

/-- The networks the OSPF process runs on, none when unset. -/
def Config.networks (config : Config) : List OspfNetwork := config.routerOspf.elim [] Ospf.networks

/-- What a configuration needs to be shown, in the order of the document. -/
def Config.demands (config : Config) : List Demand :=
  config.enableSecret.toList.map EnableSecret.demand
    ++ config.users.map (fun user => user.password.demand)
    ++ config.interfaces.filterMap Interface.demand?
    ++ config.networks.map (fun network => .mask network.prefixLength)
    ++ config.routes.map (fun route => .mask route.prefixLength)
    ++ config.lines.filterMap fun (_, line) => line.demand?

/-! ## Codecs -/

/-- Exactly the prefix lengths from 0 to 32 have a mask. -/
theorem Mask.bits?_eq_none {length : Int32} :
    Mask.bits? length = none ↔ ¬(0 ≤ length.toInt ∧ length.toInt ≤ 32) := by
  have below : length < 0 ↔ length.toInt < 0 := Int32.lt_iff_toInt_lt
  have above : Mask.longest < length ↔ 32 < length.toInt := Int32.lt_iff_toInt_lt
  have range : (length < 0 ∨ Mask.longest < length) ↔
      ¬(0 ≤ length.toInt ∧ length.toInt ≤ 32) := by
    rw [below, above]
    omega
  simp only [bits?, Bool.or_eq_true, decide_eq_true_eq, range]
  split
  case isTrue outside => simp only [outside, not_false_eq_true]
  case isFalse inside =>
    split <;> simp only [reduceCtorEq, inside]

/-- Exactly the two credentials of the table are found in it. -/
theorem Credential.lookup?_eq_none {plaintext : String} :
    Credential.lookup? plaintext = none ↔ ¬(plaintext = "cisco" ∨ plaintext = "class") := by
  simp only [lookup?, table, List.find?_eq_none, List.forall_mem_cons, List.not_mem_nil,
    false_implies, implies_true, and_true, decide_eq_true_eq, not_or]
  rw [eq_comm, @eq_comm _ "class"]

namespace Render

open Rendered (fault?_bind_pure fault?_mapM)

/-- A mask fails as its prefix length demands. -/
theorem fault?_mask (length : Int32) : (mask length).fault? = (Demand.mask length).fault? := by
  by_cases met : (Demand.mask length).Met
  · obtain ⟨word, found⟩ := Option.ne_none_iff_exists'.mp
      (mt Mask.bits?_eq_none.mp (not_not.mpr met))
    simp only [mask, Mask.mask?, found, Option.map_some, Rendered.fault?, Demand.fault?, if_pos met]
  · have missing := Mask.bits?_eq_none.mpr met
    simp only [mask, Mask.mask?, missing, Option.map_none, Rendered.fault?, Demand.fault?,
      if_neg met, Demand.fault]

/-- A wildcard fails as its prefix length demands. -/
theorem fault?_wildcard (length : Int32) :
    (wildcard length).fault? = (Demand.mask length).fault? := by
  rw [← fault?_mask]
  cases found : Mask.bits? length <;>
    simp [wildcard, mask, Mask.wildcard?, Mask.mask?, found, Rendered.fault?]

/-- A credential fails as its storage type demands. -/
theorem fault?_credential (plaintext : String) (encryption : Encryption) :
    (credential plaintext encryption).fault? = (Demand.encoding plaintext encryption).fault? := by
  by_cases known : plaintext = "cisco" ∨ plaintext = "class"
  · obtain ⟨entry, found⟩ := Option.ne_none_iff_exists'.mp
      (mt Credential.lookup?_eq_none.mp (not_not.mpr known))
    have met : (Demand.encoding plaintext encryption).Met := Or.inr known
    cases encryption <;>
      simp only [credential, Credential.encode?, found, Option.map_some, Rendered.fault?,
        Demand.fault?, if_pos met]
  · have missing := Credential.lookup?_eq_none.mpr known
    cases encryption <;>
      simp [credential, Credential.encode?, missing, Rendered.fault?, Demand.fault?, Demand.Met,
        Demand.fault, known]

/-! ## Contents -/

/-- The enable lines fail as the secret does. -/
theorem fault?_enableLines (config : Config) :
    (enableLines config).fault? =
      (config.enableSecret.toList.map EnableSecret.demand).findSome? Demand.fault? := by
  simp only [enableLines]
  cases config.enableSecret with
  | none => rfl
  | some secret =>
    simp only [enableSecret, fault?_bind_pure, fault?_credential, Option.toList_some, List.map_cons,
      List.map_nil, List.findSome?_singleton, EnableSecret.demand]

/-- A list of users fails as the first password that does. -/
theorem fault?_users (items : List User) :
    (users items).fault? =
      (items.map fun account => account.password.demand).findSome? Demand.fault? := by
  have each (account : User) : (user account).fault? = account.password.demand.fault? := by
    simp only [user, fault?_bind_pure, fault?_credential]
    rfl
  cases items with
  | nil => rfl
  | cons first rest =>
    simp only [users, List.isEmpty_cons, Bool.false_eq_true, if_false, fault?_mapM,
      List.findSome?_map, Function.comp_def, each]

/-- The first result of a list is that of its first item, or else of the rest. -/
theorem findSome?_cons {α β : Type} (act : α → Option β) (item : α) (items : List α) :
    (item :: items).findSome? act = (act item).or (items.findSome? act) := by
  cases found : act item <;> simp [found]

/-- The first fault among the items that have a demand is that of the first demand. -/
theorem findSome?_demands {α : Type} (demand? : α → Option Demand) (items : List α) :
    (items.filterMap demand?).findSome? Demand.fault? =
      items.findSome? fun item => (demand? item).bind Demand.fault? := by
  rw [← List.head?_filterMap, List.filterMap_filterMap, List.head?_filterMap]

/-- A list of interfaces fails as the first address that does. -/
theorem fault?_interfaces (items : List Interface) :
    (interfaces items).fault? = (items.filterMap Interface.demand?).findSome? Demand.fault? := by
  have each (port : Interface) :
      (interface port).fault? = port.demand?.bind Demand.fault? := by
    simp only [interface, fault?_bind_pure, Interface.demand?]
    cases port.ip4Address with
    | none => rfl
    | some address =>
      simp only [interfaceAddress, fault?_bind_pure, fault?_mask, Option.map_some, Option.bind_some]
  rw [findSome?_demands]
  cases items with
  | nil => rfl
  | cons first rest =>
    simp only [interfaces, List.isEmpty_cons, Bool.false_eq_true, if_false, fault?_bind_pure,
      fault?_mapM, each]

/-- A process fails as its first network that does. -/
theorem fault?_ospfLines (config : Config) :
    (ospfLines config).fault? =
      (config.networks.map fun network =>
        Demand.mask network.prefixLength).findSome? Demand.fault? := by
  have each (network : OspfNetwork) :
      (ospfNetwork network).fault? = (Demand.mask network.prefixLength).fault? := by
    simp only [ospfNetwork, fault?_bind_pure, fault?_wildcard]
  simp only [ospfLines, Config.networks]
  cases config.routerOspf with
  | none => rfl
  | some process =>
    simp only [ospf, fault?_bind_pure, fault?_mapM, each, Option.elim_some, List.findSome?_map,
      Function.comp_def]

/-- A list of static routes fails as the first route that does. -/
theorem fault?_staticRoutes (items : List StaticRoute) :
    (staticRoutes items).fault? =
      (items.map fun route => Demand.mask route.prefixLength).findSome? Demand.fault? := by
  have each (route : StaticRoute) :
      (staticRoute route).fault? = (Demand.mask route.prefixLength).fault? := by
    simp only [staticRoute, fault?_bind_pure, fault?_mask]
  cases items with
  | nil => rfl
  | cons first rest =>
    simp only [staticRoutes, List.isEmpty_cons, Bool.false_eq_true, if_false, fault?_mapM,
      List.findSome?_map, Function.comp_def, each]

/-- A class of lines fails as its password does. -/
theorem fault?_lineClass (kind : LineClass) (line : Option Line) :
    (lineClass kind line).fault? = (line.bind Line.demand?).bind Demand.fault? := by
  simp only [lineClass]
  cases line with
  | none => rfl
  | some line =>
    simp only [lineBody, fault?_bind_pure, Option.bind_some, Line.demand?]
    cases line.password with
    | none => rfl
    | some password =>
      simp only [linePassword, fault?_bind_pure, fault?_credential, Option.map_some,
        Option.bind_some]
      rfl

end Render

namespace Config

/-- The three classes of lines fail in their order. -/
theorem findSome?_lines (config : Config) :
    (config.lines.filterMap fun (_, line) => line.demand?).findSome? Demand.fault? =
      ((config.lineCon.bind Line.demand?).bind Demand.fault?).or
        (((config.lineAux.bind Line.demand?).bind Demand.fault?).or
          ((config.lineVty.bind Line.demand?).bind Demand.fault?)) := by
  have each : (config.lines.filterMap fun (_, line) => line.demand?) =
      (Keyword.all : List LineClass).filterMap fun kind =>
        (config.line? kind).bind Line.demand? := by
    simp only [lines, List.filterMap_filterMap, Option.bind_map, Function.comp_def]
  rw [each, Render.findSome?_demands]
  simp only [Keyword.all, Render.findSome?_cons, List.findSome?_nil, Option.or_none, line?]

/-- A configuration fails to render with the fault of its first demand that is not met. The
sections that only copy text cannot fail. -/
theorem fault?_render_eq_findSome? (config : Config) :
    config.render.fault? = config.demands.findSome? Demand.fault? := by
  rw [fault?_render, renderLines_eq_document, Section.fault?_document]
  -- Sections with demands give their first fault, the others give none and drop out.
  simp only [Section.layout, Render.findSome?_cons, List.findSome?_nil,
    Render.fault?_enableLines, Render.fault?_users, Render.fault?_interfaces,
    Render.fault?_ospfLines, Render.fault?_staticRoutes, Render.fault?_lineClass]
  simp only [demands, List.findSome?_append, findSome?_lines, Option.or_assoc,
    Render.versionLines, Render.serviceLines, Render.hostnameLines, Render.aaaLines,
    Render.forwardingLines, Render.domainLines, Render.spanningTreeLines, Render.classlessLines,
    Render.flowExportLines, Render.bannerLines, Rendered.fault?, Option.none_or, Option.or_none]

/-- A configuration renders exactly when every prefix length it shows is from 0 to 32 and every
credential it shows encoded is one of the two that have encodings. When it does not render, the
fault is that of the first item, in the order of the document, that asks for more. -/
theorem render_outcome (config : Config) :
    ((∃ text, config.render = .ok text) ↔ ∀ demand ∈ config.demands, demand.Met) ∧
      ∀ fault, config.render = .error fault ↔
        ∃ before demand after, config.demands = before ++ demand :: after ∧
          (∀ earlier ∈ before, earlier.Met) ∧ ¬demand.Met ∧ demand.fault = fault := by
  constructor
  · rw [← Rendered.fault?_eq_none, fault?_render_eq_findSome?, List.findSome?_eq_none_iff]
    simp only [Demand.fault?_eq_none]
  · intro fault
    rw [← Rendered.fault?_eq_some, fault?_render_eq_findSome?, List.findSome?_eq_some_iff]
    simp only [Demand.fault?_eq_none, Demand.fault?_eq_some]
    constructor
    · rintro ⟨before, demand, after, split, ⟨unmet, same⟩, earlier⟩
      exact ⟨before, demand, after, split, earlier, unmet, same⟩
    · rintro ⟨before, demand, after, split, earlier, unmet, same⟩
      exact ⟨before, demand, after, split, ⟨unmet, same⟩, earlier⟩

end Config

end RunningConfig
