import Mathlib.Data.List.Induction
import RunningConfig.Device.Edit
/-!
# What edits leave in each slot

An edit acts on one slot of a configuration: it sets the slot or appends to its list. One edit after
the other, a slot that is set holds what it was given last, and a list holds everything it was
given, in order. The edits of other slots do not matter, so edits may be reordered as long as those
of each slot keep their order.
-/

namespace RunningConfig

/-- A part of a configuration that edits act on as a whole. -/
inductive Slot where
  /-- The version tag. -/
  | version
  /-- The global services, set all at once. -/
  | services
  /-- The name of the router. -/
  | hostname
  /-- The encoded secret of privileged mode. -/
  | enableSecret
  /-- The plain password of privileged mode. -/
  | enablePassword
  /-- The method lists of authentication. -/
  | aaa
  /-- The list of local users. -/
  | users
  /-- Express forwarding of both kinds of addresses. -/
  | forwarding
  /-- Name lookup. -/
  | domainLookup
  /-- The domain name. -/
  | domainName
  /-- The message of the day. -/
  | bannerMotd
  /-- The spanning tree protocol. -/
  | spanningTreeMode
  /-- The list of interfaces. -/
  | interfaces
  /-- The OSPF process. -/
  | ospf
  /-- Classless routing. -/
  | classless
  /-- The list of static routes. -/
  | routes
  /-- Flow export and its version. -/
  | flowExport
  /-- The configuration of one class of lines. -/
  | line (kind : LineClass)
  deriving DecidableEq, Repr

/-- What an edit of a slot brings. -/
abbrev Slot.Argument : Slot → Type
  | .version | .hostname | .enablePassword | .domainName | .bannerMotd => String
  | .services => Services
  | .enableSecret => EnableSecret
  | .aaa => Authentication
  | .users => User
  | .forwarding => Bool × Bool
  | .domainLookup | .classless => Bool
  | .spanningTreeMode => SpanningTreeMode
  | .interfaces => Interface
  | .ospf => Ospf
  | .routes => StaticRoute
  | .flowExport => Option UInt16
  | .line _ => Line

namespace Edit

/-- The slot an edit acts on. -/
def slot : Edit → Slot
  | .version _ => .version
  | .services _ => .services
  | .hostname _ => .hostname
  | .enableSecret _ => .enableSecret
  | .enablePassword _ => .enablePassword
  | .aaa _ => .aaa
  | .user _ => .users
  | .cef _ _ => .forwarding
  | .domainLookup _ => .domainLookup
  | .domainName _ => .domainName
  | .bannerMotd _ => .bannerMotd
  | .spanningTreeMode _ => .spanningTreeMode
  | .interface _ => .interfaces
  | .ospf _ => .ospf
  | .classless _ => .classless
  | .staticRoute _ => .routes
  | .flowExport _ => .flowExport
  | .line kind _ => .line kind

/-- What an edit brings to its slot. -/
def argument : (edit : Edit) → edit.slot.Argument
  | .version text | .hostname text | .enablePassword text | .domainName text
  | .bannerMotd text => text
  | .services value => value
  | .enableSecret value => value
  | .aaa value => value
  | .user value => value
  | .cef ipv4 ipv6 => (ipv4, ipv6)
  | .domainLookup on | .classless on => on
  | .spanningTreeMode mode => mode
  | .interface value => value
  | .ospf value => value
  | .staticRoute value => value
  | .flowExport number => number
  | .line _ value => value

/-- What an edit brings to a slot, nothing if it acts on another one. -/
def argument? (slot : Slot) (edit : Edit) : Option slot.Argument :=
  if acts : edit.slot = slot then some (acts ▸ edit.argument) else none

/-- What edits bring to a slot, in order. -/
def given (edits : List Edit) (slot : Slot) : List slot.Argument :=
  edits.filterMap (argument? slot)

/-- An edit of a slot brings its argument first, before those of later edits. -/
theorem given_cons_own (edit : Edit) (edits : List Edit) :
    given (edit :: edits) edit.slot = edit.argument :: given edits edit.slot := by
  rw [given, List.filterMap_cons_some]
  · rfl
  · rw [argument?, dif_pos rfl]

/-- An edit of another slot brings nothing. -/
theorem given_cons_other {edit : Edit} {slot : Slot} (other : edit.slot ≠ slot)
    (edits : List Edit) : given (edit :: edits) slot = given edits slot := by
  rw [given, List.filterMap_cons_none]
  · rfl
  · rw [argument?, dif_neg other]

/-- Only the edits of a slot bring something to it. -/
theorem given_filter (edits : List Edit) (slot : Slot) :
    given (edits.filter (·.slot = slot)) slot = given edits slot := by
  induction edits with
  | nil => rfl
  | cons edit edits ih =>
    by_cases acts : edit.slot = slot
    · subst acts
      rw [List.filter_cons_of_pos (by simp), given_cons_own, given_cons_own, ih]
    · rw [List.filter_cons_of_neg (by simpa using acts), given_cons_other acts, ih]

end Edit

/-- What a slot holds. -/
abbrev Slot.State : Slot → Type
  | .services => Services
  | .users => List User
  | .forwarding => Option Bool × Option Bool
  | .interfaces => List Interface
  | .routes => Option (List StaticRoute)
  | .flowExport => Presence UInt16
  | slot => Option slot.Argument

/-- What a slot holds after one more argument. -/
def Slot.update : (slot : Slot) → slot.State → slot.Argument → slot.State
  | .services, _, value => value
  | .users, held, value | .interfaces, held, value => held ++ [value]
  | .forwarding, _, (ipv4, ipv6) => (some ipv4, some ipv6)
  | .routes, held, value => some (held.getD [] ++ [value])
  | .flowExport, _, number => .ofParts true number
  | .version, _, value | .hostname, _, value | .enableSecret, _, value
  | .enablePassword, _, value | .aaa, _, value | .domainLookup, _, value
  | .domainName, _, value | .bannerMotd, _, value | .spanningTreeMode, _, value
  | .ospf, _, value | .classless, _, value | .line _, _, value => some value

namespace Config

/-- What a configuration holds in a slot. -/
def read (config : Config) : (slot : Slot) → slot.State
  | .version => config.version
  | .services => config.services
  | .hostname => config.hostname
  | .enableSecret => config.enableSecret
  | .enablePassword => config.enablePassword
  | .aaa => config.aaaNewModel
  | .users => config.users
  | .forwarding => (config.ipCef, config.ipv6Cef)
  | .domainLookup => config.ipDomainLookup
  | .domainName => config.ipDomainName
  | .bannerMotd => config.bannerMotd
  | .spanningTreeMode => config.spanningTreeMode
  | .interfaces => config.interfaces
  | .ospf => config.routerOspf
  | .classless => config.ipClassless
  | .routes => config.ipRoute
  | .flowExport => config.ipFlowExport
  | .line kind => config.line? kind

/-- An edit updates its own slot with what it brings. -/
theorem read_apply_own (edit : Edit) (config : Config) :
    (edit.apply config).read edit.slot =
      edit.slot.update (config.read edit.slot) edit.argument := by
  cases edit with
  | line kind value => cases kind <;> rfl
  | _ => rfl

/-- An edit leaves the other slots alone. -/
theorem read_apply_other {edit : Edit} {slot : Slot} (other : edit.slot ≠ slot)
    (config : Config) : (edit.apply config).read slot = config.read slot := by
  cases edit with
  | line kind value =>
    cases slot with
    | line also => cases kind <;> cases also <;> first | rfl | contradiction
    | _ => cases kind <;> rfl
  | _ => cases slot <;> first | rfl | contradiction

/-- Edits update a slot with what they bring to it, one after the other. -/
theorem read_foldl (edits : List Edit) (config : Config) (slot : Slot) :
    (edits.foldl (fun config edit => edit.apply config) config).read slot =
      (Edit.given edits slot).foldl slot.update (config.read slot) := by
  -- On the edits, from any configuration: the first one moves either this slot or another one.
  induction edits generalizing config with
  | nil => rfl
  | cons edit edits ih =>
    rw [List.foldl_cons, ih]
    by_cases acts : edit.slot = slot
    · subst acts
      rw [Edit.given_cons_own, List.foldl_cons, read_apply_own]
    · rw [Edit.given_cons_other acts, read_apply_other acts]

/-- What a configuration holds when its slots were given some arguments and nothing else: a slot
that is set holds the last one and a list all of them. -/
structure Assembled (config : Config) (given : (slot : Slot) → List slot.Argument) : Prop where
  /-- The last version tag. -/
  version : config.version = (given .version).getLast?
  /-- Without an argument the services are the empty ones. -/
  services : config.services = (given .services).getLast?.getD {}
  /-- The last name of the router. -/
  hostname : config.hostname = (given .hostname).getLast?
  /-- The last secret of privileged mode. -/
  enableSecret : config.enableSecret = (given .enableSecret).getLast?
  /-- The last password of privileged mode. -/
  enablePassword : config.enablePassword = (given .enablePassword).getLast?
  /-- The last method lists. -/
  aaa : config.aaaNewModel = (given .aaa).getLast?
  /-- All users, in order. -/
  users : config.users = given .users
  /-- The first half of the last argument for express forwarding. -/
  ipv4Forwarding : config.ipCef = (given .forwarding).getLast?.map Prod.fst
  /-- The second half of the same argument. -/
  ipv6Forwarding : config.ipv6Cef = (given .forwarding).getLast?.map Prod.snd
  /-- The last setting of name lookup. -/
  domainLookup : config.ipDomainLookup = (given .domainLookup).getLast?
  /-- The last domain name. -/
  domainName : config.ipDomainName = (given .domainName).getLast?
  /-- The last message of the day. -/
  bannerMotd : config.bannerMotd = (given .bannerMotd).getLast?
  /-- The last spanning tree protocol. -/
  spanningTreeMode : config.spanningTreeMode = (given .spanningTreeMode).getLast?
  /-- All interfaces, in order. -/
  interfaces : config.interfaces = given .interfaces
  /-- The last OSPF process. -/
  ospf : config.routerOspf = (given .ospf).getLast?
  /-- The last setting of classless routing. -/
  classless : config.ipClassless = (given .classless).getLast?
  /-- Without an argument the list of routes is unset, not empty. -/
  routes : config.ipRoute = if (given .routes).isEmpty then none else some (given .routes)
  /-- An argument turns the export on, with or without a version. -/
  flowExport : config.ipFlowExport =
    (given .flowExport).getLast?.elim .absent fun version => version.elim .defaulted .valued
  /-- The last configuration of each class of lines. -/
  lines : ∀ kind, config.line? kind = (given (.line kind)).getLast?

/-- The arguments given to the slots are all there is of a configuration. -/
theorem Assembled.unique {left right : Config} {given : (slot : Slot) → List slot.Argument}
    (ofLeft : left.Assembled given) (ofRight : right.Assembled given) : left = right := by
  rw [Config.mk.injEq]
  exact ⟨ofLeft.version.trans ofRight.version.symm, ofLeft.services.trans ofRight.services.symm,
    ofLeft.hostname.trans ofRight.hostname.symm,
    ofLeft.enableSecret.trans ofRight.enableSecret.symm,
    ofLeft.enablePassword.trans ofRight.enablePassword.symm, ofLeft.aaa.trans ofRight.aaa.symm,
    ofLeft.users.trans ofRight.users.symm,
    ofLeft.ipv4Forwarding.trans ofRight.ipv4Forwarding.symm,
    ofLeft.ipv6Forwarding.trans ofRight.ipv6Forwarding.symm,
    ofLeft.domainLookup.trans ofRight.domainLookup.symm,
    ofLeft.domainName.trans ofRight.domainName.symm,
    ofLeft.bannerMotd.trans ofRight.bannerMotd.symm,
    ofLeft.spanningTreeMode.trans ofRight.spanningTreeMode.symm,
    ofLeft.interfaces.trans ofRight.interfaces.symm, ofLeft.ospf.trans ofRight.ospf.symm,
    ofLeft.classless.trans ofRight.classless.symm, ofLeft.routes.trans ofRight.routes.symm,
    ofLeft.flowExport.trans ofRight.flowExport.symm,
    (ofLeft.lines .console).trans (ofRight.lines .console).symm,
    (ofLeft.lines .auxiliary).trans (ofRight.lines .auxiliary).symm,
    (ofLeft.lines .virtualTerminal).trans (ofRight.lines .virtualTerminal).symm⟩

/-- Replacing a value by each of some others in turn leaves the last one. -/
theorem foldl_replace {α β : Type} (value : α → β) (given : List α) (start : β) :
    given.foldl (fun _ argument => value argument) start = given.getLast?.elim start value := by
  cases given using List.reverseRecOn <;> simp

/-- Adding items one by one to an empty list leaves them in order. -/
theorem foldl_append_singleton {α : Type} (given : List α) :
    given.foldl (fun held item => held ++ [item]) [] = given := by
  induction given using List.reverseRecOn with
  | nil => rfl
  | append_singleton given last ih => rw [List.foldl_append, ih, List.foldl_cons, List.foldl_nil]

/-- Adding routes one by one to an unset list leaves it unset if there are none. -/
theorem foldl_routes (given : List StaticRoute) :
    given.foldl (fun held route => some (held.getD [] ++ [route])) none =
      if given.isEmpty then none else some given := by
  induction given using List.reverseRecOn with
  | nil => rfl
  | append_singleton given last ih =>
    rw [List.foldl_append, ih]
    cases given <;> simp

/-- A configuration is assembled of what its edits bring to its slots. -/
theorem assembled_given (edits : List Edit) : (assemble edits).Assembled (Edit.given edits) := by
  have updated (slot : Slot) : (assemble edits).read slot =
      (Edit.given edits slot).foldl slot.update (({} : Config).read slot) :=
    read_foldl edits {} slot
  have set {α : Type} (given : List α) :
      given.foldl (fun _ argument => some argument) none = given.getLast? := by
    rw [foldl_replace]
    cases given.getLast? <;> rfl
  have forwarding := (updated .forwarding).trans
    (foldl_replace (fun (pair : Bool × Bool) => (some pair.1, some pair.2)) _ (none, none))
  exact {
    version := (updated .version).trans (set _)
    services := (updated .services).trans <| (foldl_replace id _ _).trans <| by
      cases (Edit.given edits .services).getLast? <;> rfl
    hostname := (updated .hostname).trans (set _)
    enableSecret := (updated .enableSecret).trans (set _)
    enablePassword := (updated .enablePassword).trans (set _)
    aaa := (updated .aaa).trans (set _)
    users := (updated .users).trans (foldl_append_singleton _)
    ipv4Forwarding := (congrArg Prod.fst forwarding).trans <| by
      cases (Edit.given edits .forwarding).getLast? <;> rfl
    ipv6Forwarding := (congrArg Prod.snd forwarding).trans <| by
      cases (Edit.given edits .forwarding).getLast? <;> rfl
    domainLookup := (updated .domainLookup).trans (set _)
    domainName := (updated .domainName).trans (set _)
    bannerMotd := (updated .bannerMotd).trans (set _)
    spanningTreeMode := (updated .spanningTreeMode).trans (set _)
    interfaces := (updated .interfaces).trans (foldl_append_singleton _)
    ospf := (updated .ospf).trans (set _)
    classless := (updated .classless).trans (set _)
    routes := (updated .routes).trans (foldl_routes _)
    flowExport := (updated .flowExport).trans <|
      (foldl_replace (Presence.ofParts true) _ _).trans <| by
        cases (Edit.given edits .flowExport).getLast? <;> rfl
    lines := fun kind => by
      cases kind with
      | console => exact (updated (.line .console)).trans (set _)
      | auxiliary => exact (updated (.line .auxiliary)).trans (set _)
      | virtualTerminal => exact (updated (.line .virtualTerminal)).trans (set _) }

/-- What edits assemble is determined slot by slot: a slot that is set holds the argument of its
last edit, or its unset value without one, and a list holds the arguments of all its edits in
order. So edits whose order within each slot is the same assemble the same configuration. -/
theorem assemble_slotwise (edits : List Edit) :
    (assemble edits).Assembled (Edit.given edits) ∧
      ∀ reordered : List Edit,
        (∀ slot, reordered.filter (·.slot = slot) = edits.filter (·.slot = slot)) →
          assemble reordered = assemble edits := by
  refine ⟨assembled_given edits, fun reordered same => ?_⟩
  have given : Edit.given reordered = Edit.given edits := by
    funext slot
    rw [← Edit.given_filter, same, Edit.given_filter]
  exact (given ▸ assembled_given reordered).unique (assembled_given edits)

/-- The host name set last, the lines of two classes and the users in order come out the same when
the edits are shuffled. -/
theorem assemble_slotwise_shuffled : ∃ edits reordered : List Edit,
    edits ≠ reordered ∧
      (∀ slot, reordered.filter (·.slot = slot) = edits.filter (·.slot = slot)) ∧
      (assemble edits).Assembled (Edit.given edits) ∧ assemble reordered = assemble edits ∧
      (assemble reordered).hostname = some "R2" ∧ (assemble reordered).users.length = 2 := by
  let account (name : Username) : User := { username := name, password := { plaintext := "x" } }
  let line : Line := { execTimeout := { seconds := 0 } }
  let edits : List Edit := [.hostname "R1", .user (account .cisco), .line .console line,
    .user (account .classUser), .line .virtualTerminal line, .hostname "R2"]
  let reordered : List Edit := [.line .virtualTerminal line, .user (account .cisco),
    .hostname "R1", .hostname "R2", .user (account .classUser), .line .console line]
  have same : ∀ slot, reordered.filter (·.slot = slot) = edits.filter (·.slot = slot) := by
    intro slot
    cases slot with
    | line kind => cases kind <;> rfl
    | _ => rfl
  obtain ⟨assembled, shuffled⟩ := assemble_slotwise edits
  exact ⟨edits, reordered, by decide, same, assembled, shuffled reordered same, rfl, rfl⟩

end Config

end RunningConfig
