import RunningConfig.Proofs.Render.Document
/-!
# What a setting has an effect on

Each section of a document reads some settings of the configuration and no other
(`Section.content_congr`), and every setting is read by at most one section. So two configurations
that differ in one setting have the same lines before and after the content of its section
(`Config.renderLines_cut`).
-/

namespace RunningConfig

/-- A setting at the top level of a configuration. -/
inductive Setting where
  /-- The version tag. -/
  | version
  /-- The global services. -/
  | services
  /-- The name of the router. -/
  | hostname
  /-- The encoded secret of privileged mode. -/
  | enableSecret
  /-- The plain password of privileged mode. -/
  | enablePassword
  /-- The new model of authentication. -/
  | aaaNewModel
  /-- The local users. -/
  | users
  /-- Express forwarding. -/
  | ipCef
  /-- Express forwarding of the longer addresses. -/
  | ipv6Cef
  /-- Name lookup, the one setting that no section shows. -/
  | ipDomainLookup
  /-- The domain name. -/
  | ipDomainName
  /-- The message of the day. -/
  | bannerMotd
  /-- The spanning tree protocol. -/
  | spanningTreeMode
  /-- The interfaces. -/
  | interfaces
  /-- The OSPF process. -/
  | routerOspf
  /-- Classless routing. -/
  | ipClassless
  /-- The static routes. -/
  | ipRoute
  /-- The flow export. -/
  | ipFlowExport
  /-- The console. -/
  | lineCon
  /-- The auxiliary port. -/
  | lineAux
  /-- The virtual terminals. -/
  | lineVty
  deriving DecidableEq, Repr

namespace Setting

/-- The name of the section that shows a setting, if one does. -/
def section? : Setting → Option String
  | version => "version"
  | services => "services"
  | hostname => "hostname"
  | enableSecret | enablePassword => "enable"
  | aaaNewModel => "aaa"
  | users => "users"
  | ipCef | ipv6Cef => "forwarding"
  | ipDomainLookup => none
  | ipDomainName => "domain"
  | bannerMotd => "banner"
  | spanningTreeMode => "spanning-tree"
  | interfaces => "interfaces"
  | routerOspf => "ospf"
  | ipClassless => "classless"
  | ipRoute => "routes"
  | ipFlowExport => "flow-export"
  | lineCon => "line-con"
  | lineAux => "line-aux"
  | lineVty => "line-vty"

/-- Two configurations have the same value of a setting. -/
def Agrees (left right : Config) : Setting → Prop
  | version => left.version = right.version
  | services => left.services = right.services
  | hostname => left.hostname = right.hostname
  | enableSecret => left.enableSecret = right.enableSecret
  | enablePassword => left.enablePassword = right.enablePassword
  | aaaNewModel => left.aaaNewModel = right.aaaNewModel
  | users => left.users = right.users
  | ipCef => left.ipCef = right.ipCef
  | ipv6Cef => left.ipv6Cef = right.ipv6Cef
  | ipDomainLookup => left.ipDomainLookup = right.ipDomainLookup
  | ipDomainName => left.ipDomainName = right.ipDomainName
  | bannerMotd => left.bannerMotd = right.bannerMotd
  | spanningTreeMode => left.spanningTreeMode = right.spanningTreeMode
  | interfaces => left.interfaces = right.interfaces
  | routerOspf => left.routerOspf = right.routerOspf
  | ipClassless => left.ipClassless = right.ipClassless
  | ipRoute => left.ipRoute = right.ipRoute
  | ipFlowExport => left.ipFlowExport = right.ipFlowExport
  | lineCon => left.lineCon = right.lineCon
  | lineAux => left.lineAux = right.lineAux
  | lineVty => left.lineVty = right.lineVty

/-- The settings are all there is of a configuration. -/
theorem eq_of_agrees {left right : Config} (agree : ∀ setting, Agrees left right setting) :
    left = right := by
  rw [Config.mk.injEq]
  exact ⟨agree version, agree services, agree hostname, agree enableSecret, agree enablePassword,
    agree aaaNewModel, agree users, agree ipCef, agree ipv6Cef, agree ipDomainLookup,
    agree ipDomainName, agree bannerMotd, agree spanningTreeMode, agree interfaces,
    agree routerOspf, agree ipClassless, agree ipRoute, agree ipFlowExport, agree lineCon,
    agree lineAux, agree lineVty⟩

end Setting

namespace Section

/-- A section has the same content in two configurations that agree on the settings it shows. -/
theorem content_congr {part : Section} (member : part ∈ layout) {left right : Config}
    (agree : ∀ setting, Setting.section? setting = some part.name →
      Setting.Agrees left right setting) :
    part.content left = part.content right := by
  have every : Every fun part =>
      (∀ setting, Setting.section? setting = some part.name →
        Setting.Agrees left right setting) → part.content left = part.content right := {
    version := fun agree => by
      have same : left.version = right.version := agree .version rfl
      simp only [Render.versionLines, same]
    services := fun agree => by
      have same : left.services = right.services := agree .services rfl
      simp only [Render.serviceLines, same]
    hostname := fun agree => by
      have same : left.hostname = right.hostname := agree .hostname rfl
      simp only [Render.hostnameLines, same]
    enable := fun agree => by
      have secret : left.enableSecret = right.enableSecret := agree .enableSecret rfl
      have password : left.enablePassword = right.enablePassword := agree .enablePassword rfl
      simp only [Render.enableLines, secret, password]
    aaa := fun agree => by
      have same : left.aaaNewModel = right.aaaNewModel := agree .aaaNewModel rfl
      simp only [Render.aaaLines, same]
    forwarding := fun agree => by
      have short : left.ipCef = right.ipCef := agree .ipCef rfl
      have long : left.ipv6Cef = right.ipv6Cef := agree .ipv6Cef rfl
      simp only [Render.forwardingLines, short, long]
    users := fun agree => congrArg Render.users (agree .users rfl)
    domain := fun agree => by
      have same : left.ipDomainName = right.ipDomainName := agree .ipDomainName rfl
      simp only [Render.domainLines, same]
    spanningTree := fun agree => by
      have same : left.spanningTreeMode = right.spanningTreeMode := agree .spanningTreeMode rfl
      simp only [Render.spanningTreeLines, same]
    interfaces := fun agree => congrArg Render.interfaces (agree .interfaces rfl)
    ospf := fun agree => by
      have same : left.routerOspf = right.routerOspf := agree .routerOspf rfl
      simp only [Render.ospfLines, same]
    classless := fun agree => by
      have same : left.ipClassless = right.ipClassless := agree .ipClassless rfl
      simp only [Render.classlessLines, same]
    routes := fun agree => by
      have same : left.ipRoute = right.ipRoute := agree .ipRoute rfl
      simp only [Config.routes, same]
    flowExport := fun agree => by
      have same : left.ipFlowExport = right.ipFlowExport := agree .ipFlowExport rfl
      simp only [Render.flowExportLines, same]
    banner := fun agree => by
      have same : left.bannerMotd = right.bannerMotd := agree .bannerMotd rfl
      simp only [Render.bannerLines, same]
    lineCon := fun agree => congrArg (Render.lineClass .console) (agree .lineCon rfl)
    lineAux := fun agree => congrArg (Render.lineClass .auxiliary) (agree .lineAux rfl)
    lineVty := fun agree => congrArg (Render.lineClass .virtualTerminal) (agree .lineVty rfl)
    terminator := fun _ => rfl }
  exact forall_mem_layout.mpr every part member agree

/-- Documents whose sections but one have the same contents are the same around the content of that
one. -/
theorem document_cut {front back : List Section} {part : Section} {left right : Config}
    {leftLines rightLines : List String}
    (same : ∀ other ∈ front ++ back, other.content left = other.content right)
    (ofLeft : document (front ++ part :: back) left = .ok leftLines)
    (ofRight : document (front ++ part :: back) right = .ok rightLines) :
    ∃ before leftOwn rightOwn after,
      part.content left = .ok leftOwn ∧ part.content right = .ok rightOwn ∧
        leftLines = before ++ leftOwn ++ after ∧ rightLines = before ++ rightOwn ++ after := by
  obtain ⟨earlier, more⟩ := List.forall_mem_append.mp same
  simp only [document_append_eq_ok, document_cons_eq_ok, lines_eq_ok] at ofLeft ofRight
  obtain ⟨start, _, first, ⟨_, rest, ⟨leftOwn, leftShown, rfl⟩, last, rfl⟩, rfl⟩ := ofLeft
  obtain ⟨start', _, first', ⟨_, rest', ⟨rightOwn, rightShown, rfl⟩, last', rfl⟩, rfl⟩ := ofRight
  -- What stands before and after the section is a document of sections that did not change.
  obtain rfl : start = start' := by
    rw [document_congr earlier, first'] at first
    exact (Except.ok.inj first).symm
  obtain rfl : rest = rest' := by
    rw [document_congr more, last'] at last
    exact (Except.ok.inj last).symm
  refine ⟨start ++ List.replicate part.leading Default.placeholder, leftOwn, rightOwn,
    List.replicate part.trailing Default.placeholder ++ rest, leftShown, rightShown, ?_, ?_⟩
  · simp only [List.append_assoc]
  · simp only [List.append_assoc]

/-- No two sections of the layout have one name. -/
theorem names_nodup : (layout.map name).Nodup := by decide

/-- The sections around one have other names. -/
theorem name_ne_of_around {front back : List Section} {part : Section}
    (cut : layout = front ++ part :: back) : ∀ other ∈ front ++ back, other.name ≠ part.name := by
  have distinct := names_nodup
  rw [cut, List.map_append, List.map_cons, List.nodup_middle, ← List.map_append,
    List.nodup_cons] at distinct
  intro other around same
  exact distinct.1 (same ▸ List.mem_map_of_mem around)

end Section

/-- The section that shows a setting is one of the layout. -/
theorem Setting.exists_section {setting : Setting} {name : String}
    (shown : setting.section? = some name) : ∃ part ∈ Section.layout, part.name = name := by
  refine List.mem_map.mp ?_
  cases setting with
  | ipDomainLookup => contradiction
  | _ =>
    obtain rfl := Option.some.inj shown
    decide

namespace Config

open Section (layout document_cut content_congr name_ne_of_around)

/-- Configurations that agree on every setting but one have the same lines around the content of
the section of that setting. One that no section shows makes no difference to text or fault. -/
theorem renderLines_cut {own : Setting} {left right : Config}
    (agree : ∀ other, other ≠ own → Setting.Agrees left right other) :
    (∀ name leftLines rightLines, own.section? = some name →
      left.renderLines = .ok leftLines → right.renderLines = .ok rightLines →
      ∃ part ∈ layout, part.name = name ∧ ∃ before leftOwn rightOwn after,
        part.content left = .ok leftOwn ∧ part.content right = .ok rightOwn ∧
          leftLines = before ++ leftOwn ++ after ∧ rightLines = before ++ rightOwn ++ after) ∧
    (own = .ipDomainLookup →
      left.renderLines = right.renderLines ∧ left.render = right.render) := by
  have unchanged (part) (member : part ∈ layout) (other : own.section? ≠ some part.name) :
      part.content left = part.content right := by
    refine content_congr member fun setting shown => agree setting ?_
    rintro rfl
    exact other shown
  constructor
  · intro name leftLines rightLines shown ofLeft ofRight
    obtain ⟨part, member, rfl⟩ := Setting.exists_section shown
    obtain ⟨front, back, cut⟩ := List.append_of_mem member
    have same : ∀ other ∈ front ++ back, other.content left = other.content right := by
      intro other around
      have listed : other ∈ layout := by
        rw [cut]
        exact List.perm_middle.symm.subset (List.mem_cons_of_mem _ around)
      refine unchanged other listed fun also => ?_
      exact name_ne_of_around cut other around (Option.some.inj (also.symm.trans shown))
    rw [renderLines_eq_document, cut] at ofLeft ofRight
    exact ⟨part, member, rfl, document_cut same ofLeft ofRight⟩
  · rintro rfl
    have same : ∀ part ∈ layout, part.content left = part.content right :=
      fun part member => unchanged part member nofun
    exact ⟨Section.document_congr same, render_congr same⟩

/-- An interface that is added stands between the lines of the configuration without it, and the
name lookup makes no difference. -/
theorem renderLines_cut_added : ∃ (left right unresolved : Config)
    (leftLines rightLines : List String),
    left.renderLines = .ok leftLines ∧ right.renderLines = .ok rightLines ∧
      leftLines.length + 5 = rightLines.length ∧
      (∃ part ∈ layout, part.name = "interfaces" ∧ ∃ before leftOwn rightOwn after,
        part.content left = .ok leftOwn ∧ part.content right = .ok rightOwn ∧
          leftLines = before ++ leftOwn ++ after ∧ rightLines = before ++ rightOwn ++ after) ∧
      unresolved.ipDomainLookup ≠ left.ipDomainLookup ∧ unresolved.render = left.render := by
  let left : Config := { hostname := some "R1", ipRoute := some [] }
  let added : Interface := {
    port := { family := .loopback, index := "0" }, description := some "interface Vlan1" }
  let right : Config := { left with interfaces := [added] }
  let unresolved : Config := { left with ipDomainLookup := some false }
  obtain ⟨leftLines, ofLeft⟩ : ∃ lines, left.renderLines = .ok lines := ⟨_, rfl⟩
  obtain ⟨rightLines, ofRight⟩ : ∃ lines, right.renderLines = .ok lines := ⟨_, rfl⟩
  have agree : ∀ other, other ≠ .interfaces → Setting.Agrees left right other := by
    intro other different
    cases other <;> first | contradiction | rfl
  have kept : ∀ other, other ≠ .ipDomainLookup → Setting.Agrees unresolved left other := by
    intro other different
    cases other <;> first | contradiction | rfl
  have cut := (renderLines_cut agree).1 _ _ _ rfl ofLeft ofRight
  have unmoved := ((renderLines_cut kept).2 rfl).2
  have longer : leftLines.length + 5 = rightLines.length := by
    obtain rfl := Except.ok.inj ofLeft
    obtain rfl := Except.ok.inj ofRight
    decide
  exact ⟨left, right, unresolved, leftLines, rightLines, ofLeft, ofRight, longer, cut, nofun,
    unmoved⟩

end Config

end RunningConfig
