import RunningConfig.Device.Violation
import RunningConfig.Proofs.Config.Slots
import RunningConfig.Proofs.Render.Document
/-!
# What edits can assemble

Any arguments can be brought to the slots by some edits (`Edit.given_bringing`), so a configuration
can be assembled exactly when it is what its slots hold of some arguments. Two kinds of
configurations are out of reach: those with express forwarding set for one kind of addresses only,
and those with a list of routes that is there and empty. Each of them has a configuration within
reach that renders alike and is accepted alike.
-/

namespace RunningConfig

/-- Every slot. -/
def Slot.all : List Slot := [
  .version, .services, .hostname, .enableSecret, .enablePassword, .aaa, .users, .forwarding,
  .domainLookup, .domainName, .bannerMotd, .spanningTreeMode, .interfaces, .ospf, .classless,
  .routes, .flowExport, .line .console, .line .auxiliary, .line .virtualTerminal]

/-- No slot is missing. -/
theorem Slot.mem_all (slot : Slot) : slot ∈ all := by
  cases slot with
  | line kind => cases kind <;> decide
  | _ => decide

/-- No slot is listed twice. -/
theorem Slot.nodup_all : all.Nodup := by decide

namespace Edit

/-- The edit that brings an argument to a slot. -/
def ofArgument : (slot : Slot) → slot.Argument → Edit
  | .version, text => .version text
  | .services, value => .services value
  | .hostname, text => .hostname text
  | .enableSecret, value => .enableSecret value
  | .enablePassword, text => .enablePassword text
  | .aaa, value => .aaa value
  | .users, value => .user value
  | .forwarding, (ipv4, ipv6) => .cef ipv4 ipv6
  | .domainLookup, on => .domainLookup on
  | .domainName, text => .domainName text
  | .bannerMotd, text => .bannerMotd text
  | .spanningTreeMode, mode => .spanningTreeMode mode
  | .interfaces, value => .interface value
  | .ospf, value => .ospf value
  | .classless, on => .classless on
  | .routes, value => .staticRoute value
  | .flowExport, number => .flowExport number
  | .line kind, value => .line kind value

/-- The edit of an argument acts on its slot. -/
theorem slot_ofArgument (slot : Slot) (value : slot.Argument) :
    (ofArgument slot value).slot = slot := by
  cases slot <;> rfl

/-- The edit of an argument brings the argument. -/
theorem argument?_ofArgument (slot : Slot) (value : slot.Argument) :
    argument? slot (ofArgument slot value) = some value := by
  rw [argument?, dif_pos (slot_ofArgument slot value)]
  cases slot <;> rfl

/-- The edits of a slot bring their arguments to it. -/
theorem given_map_ofArgument (slot : Slot) (values : List slot.Argument) :
    given (values.map (ofArgument slot)) slot = values := by
  have each : (fun value => argument? slot (ofArgument slot value)) = some :=
    funext (argument?_ofArgument slot)
  rw [given, List.filterMap_map, Function.comp_def, each, List.filterMap_some]

/-- The edits of a slot bring nothing to other slots. -/
theorem given_map_ofArgument_other {slot other : Slot} (different : other ≠ slot)
    (values : List other.Argument) : given (values.map (ofArgument other)) slot = [] := by
  rw [given, List.filterMap_map, List.filterMap_eq_nil_iff]
  intro value _
  rw [Function.comp_apply, argument?, dif_neg]
  rwa [slot_ofArgument]

/-- Edits that bring some arguments to each slot. -/
def bringing (values : (slot : Slot) → List slot.Argument) : List Edit :=
  Slot.all.flatMap fun slot => (values slot).map (ofArgument slot)

/-- Any arguments are brought to the slots by some edits. -/
theorem given_bringing (values : (slot : Slot) → List slot.Argument) :
    given (bringing values) = values := by
  funext slot
  obtain ⟨front, back, cut⟩ := List.append_of_mem slot.mem_all
  have distinct := Slot.nodup_all
  rw [cut, List.nodup_middle, List.nodup_cons] at distinct
  -- The edits of the slots before and after this one drop out.
  have others : ∀ others ⊆ front ++ back,
      (others.flatMap fun other => given ((values other).map (ofArgument other)) slot) = [] := by
    intro others around
    rw [List.flatMap_eq_nil_iff]
    intro other member
    apply given_map_ofArgument_other
    rintro rfl
    exact distinct.1 (around member)
  have whole : given (bringing values) slot =
      Slot.all.flatMap fun other => given ((values other).map (ofArgument other)) slot := by
    rw [given, bringing, List.filterMap_flatMap]
    rfl
  rw [whole, cut, List.flatMap_append, List.flatMap_cons,
    others front (List.subset_append_left _ _), others back (List.subset_append_right _ _),
    given_map_ofArgument, List.nil_append, List.append_nil]

end Edit

namespace Config

/-- Arguments that leave in the slots what a configuration holds. -/
def arguments (config : Config) : (slot : Slot) → List slot.Argument
  | .version => config.version.toList
  | .services => [config.services]
  | .hostname => config.hostname.toList
  | .enableSecret => config.enableSecret.toList
  | .enablePassword => config.enablePassword.toList
  | .aaa => config.aaaNewModel.toList
  | .users => config.users
  | .forwarding => config.ipCef.toList.zip config.ipv6Cef.toList
  | .domainLookup => config.ipDomainLookup.toList
  | .domainName => config.ipDomainName.toList
  | .bannerMotd => config.bannerMotd.toList
  | .spanningTreeMode => config.spanningTreeMode.toList
  | .interfaces => config.interfaces
  | .ospf => config.routerOspf.toList
  | .classless => config.ipClassless.toList
  | .routes => config.routes
  | .flowExport => config.ipFlowExport.toBlock.toList
  | .line kind => (config.line? kind).toList

/-- Two values that are both there or both missing are those of the pair they make. -/
theorem eq_getLast?_zip {α β : Type} {left : Option α} {right : Option β}
    (paired : left.isSome = right.isSome) :
    left = (left.toList.zip right.toList).getLast?.map Prod.fst ∧
      right = (left.toList.zip right.toList).getLast?.map Prod.snd := by
  cases left <;> cases right <;> first | contradiction | exact ⟨rfl, rfl⟩

/-- A configuration within reach is what its own arguments leave in the slots. -/
theorem assembled_arguments {config : Config}
    (paired : config.ipCef.isSome = config.ipv6Cef.isSome) (routes : config.ipRoute ≠ some []) :
    config.Assembled config.arguments := by
  have held {α : Type} (value : Option α) : value = value.toList.getLast? := by
    cases value <;> rfl
  exact {
    version := held _
    services := rfl
    hostname := held _
    enableSecret := held _
    enablePassword := held _
    aaa := held _
    users := rfl
    ipv4Forwarding := (eq_getLast?_zip paired).1
    ipv6Forwarding := (eq_getLast?_zip paired).2
    domainLookup := held _
    domainName := held _
    bannerMotd := held _
    spanningTreeMode := held _
    interfaces := rfl
    ospf := held _
    classless := held _
    routes := by
      change config.ipRoute = if config.routes.isEmpty then none else some config.routes
      unfold Config.routes
      cases listed : config.ipRoute with
      | none => rfl
      | some items =>
        cases items with
        | nil => exact absurd listed routes
        | cons => rfl
    flowExport := by
      simp only [arguments]
      cases config.ipFlowExport <;> rfl
    lines := fun kind => held _ }

/-- The configurations that edits assemble are those with express forwarding set for both kinds of
addresses or for none, and without a list of routes that is there but empty. -/
theorem exists_assemble_iff {config : Config} :
    (∃ edits, assemble edits = config) ↔
      config.ipCef.isSome = config.ipv6Cef.isSome ∧ config.ipRoute ≠ some [] := by
  constructor
  · rintro ⟨edits, rfl⟩
    have assembled := assembled_given edits
    constructor
    · rw [assembled.ipv4Forwarding, assembled.ipv6Forwarding, Option.isSome_map, Option.isSome_map]
    · rw [assembled.routes]
      cases Edit.given edits .routes <;> nofun
  · rintro ⟨paired, routes⟩
    refine ⟨Edit.bringing config.arguments, ?_⟩
    have assembled := assembled_given (Edit.bringing config.arguments)
    rw [Edit.given_bringing] at assembled
    exact assembled.unique (assembled_arguments paired routes)

/-- The configuration with express forwarding written out for both kinds of addresses, and without
an empty list of routes. -/
def withinReach (config : Config) : Config :=
  { config with
    ipCef := some (config.ipCef.getD false)
    ipv6Cef := some (config.ipv6Cef.getD false)
    ipRoute := if config.routes.isEmpty then none else some config.routes }

/-- An empty list of routes is left out. -/
theorem ipRoute_withinReach (config : Config) : config.withinReach.ipRoute ≠ some [] := by
  simp only [withinReach]
  cases config.routes <;> nofun

/-- A list of routes that is left out when empty lists the same routes. -/
theorem routes_withinReach (config : Config) : config.withinReach.routes = config.routes := by
  unfold routes
  cases listed : config.ipRoute with
  | none => rw [withinReach, routes, listed]; rfl
  | some items => rw [withinReach, routes, listed]; cases items <;> rfl

/-- Bringing a configuration within reach changes the content of no section. -/
theorem content_withinReach (config : Config) : ∀ part ∈ Section.layout,
    part.content config.withinReach = part.content config :=
  Section.forall_mem_layout.mpr
    { version := rfl
      services := rfl
      hostname := rfl
      enable := rfl
      aaa := rfl
      forwarding := rfl
      users := rfl
      domain := rfl
      spanningTree := rfl
      interfaces := rfl
      ospf := rfl
      classless := rfl
      routes := congrArg Render.staticRoutes config.routes_withinReach
      flowExport := rfl
      banner := rfl
      lineCon := rfl
      lineAux := rfl
      lineVty := rfl
      terminator := rfl }

/-- Edits assemble exactly the configurations with express forwarding set for both kinds of
addresses or for none and without an empty list of routes, and for every configuration whatsoever
one that is accepted or refused alike and renders alike, in text or in fault. -/
theorem assemble_complete :
    (∀ config : Config, (∃ edits, assemble edits = config) ↔
      config.ipCef.isSome = config.ipv6Cef.isSome ∧ config.ipRoute ≠ some []) ∧
    ∀ config : Config, ∃ edits,
      (assemble edits).validate = config.validate ∧ (assemble edits).render = config.render := by
  refine ⟨fun config => exists_assemble_iff, fun config => ?_⟩
  obtain ⟨edits, assembled⟩ : ∃ edits, assemble edits = config.withinReach :=
    exists_assemble_iff.mpr ⟨rfl, config.ipRoute_withinReach⟩
  exact ⟨edits, by rw [assembled]; rfl,
    by rw [assembled]; exact render_congr config.content_withinReach⟩

end Config

end RunningConfig
