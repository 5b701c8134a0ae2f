import RunningConfig.Proofs.Recovery.Document
import RunningConfig.Proofs.Recovery.Settings
import RunningConfig.Proofs.Render.LineFeeds
/-!
# A configuration, known from its text

Two accepted configurations with the same text are the same once their defaults are written out. The
text is cut into lines, the lines into sections, and each section gives back what it shows. What a
text cannot tell is whether a default was written out, and what the field for name lookup holds.
-/

namespace RunningConfig.Config

open Text (Unbroken)

/-- The configuration with the default of every unset field written out and without the field for
name lookup, which has no line. -/
def normalForm (config : Config) : Config := { config.filled with ipDomainLookup := none }

/-- No password of a line is in plain text and begins like an encoded one. -/
def Undisguised (config : Config) : Prop :=
  ∀ line ∈ config.lines, ∀ password, line.2.password = some password → ¬password.Disguised

/-- Accepted configurations with the same lines have the same normal form. -/
theorem normalForm_eq_of_renderLines {left right : Config} {lines : List String}
    (leftAccepted : left.Accepted) (rightAccepted : right.Accepted)
    (leftOpen : left.Undisguised) (rightOpen : right.Undisguised)
    (ofLeft : left.renderLines = .ok lines) (ofRight : right.renderLines = .ok lines) :
    left.normalForm = right.normalForm := by
  obtain ⟨interfaces, contents⟩ := contents_of_renderLines ofLeft ofRight
  have every := Section.forall_mem_layout.mp contents
  obtain ⟨_, leftVersion, rightVersion⟩ := every.version (by decide)
  obtain ⟨_, leftServices, rightServices⟩ := every.services (by decide)
  obtain ⟨_, leftHostname, rightHostname⟩ := every.hostname (by decide)
  obtain ⟨_, leftEnable, rightEnable⟩ := every.enable (by decide)
  obtain ⟨_, leftAaa, rightAaa⟩ := every.aaa (by decide)
  obtain ⟨_, leftForwarding, rightForwarding⟩ := every.forwarding (by decide)
  obtain ⟨_, leftUsers, rightUsers⟩ := every.users (by decide)
  obtain ⟨_, leftDomain, rightDomain⟩ := every.domain (by decide)
  obtain ⟨_, leftTree, rightTree⟩ := every.spanningTree (by decide)
  obtain ⟨_, leftOspf, rightOspf⟩ := every.ospf (by decide)
  obtain ⟨_, leftClassless, rightClassless⟩ := every.classless (by decide)
  obtain ⟨_, leftRoutes, rightRoutes⟩ := every.routes (by decide)
  obtain ⟨_, leftExport, rightExport⟩ := every.flowExport (by decide)
  obtain ⟨_, leftBanner, rightBanner⟩ := every.banner (by decide)
  obtain ⟨_, leftConsole, rightConsole⟩ := every.lineCon (by decide)
  obtain ⟨_, leftAuxiliary, rightAuxiliary⟩ := every.lineAux (by decide)
  obtain ⟨_, leftTerminals, rightTerminals⟩ := every.lineVty (by decide)
  obtain ⟨leftConOpen, leftAuxOpen, leftVtyOpen⟩ := forall_mem_lines.mp leftOpen
  obtain ⟨rightConOpen, rightAuxOpen, rightVtyOpen⟩ := forall_mem_lines.mp rightOpen
  have version := Render.versionLines_inj leftVersion rightVersion
  have services := Render.serviceLines_inj leftServices rightServices
  have hostname := Render.hostnameLines_inj leftHostname rightHostname
  obtain ⟨secret, password⟩ := Render.enableLines_inj leftEnable rightEnable
  have aaa := Render.aaaLines_inj leftAccepted rightAccepted leftAaa rightAaa
  obtain ⟨ipv4, ipv6⟩ := Render.forwardingLines_inj leftForwarding rightForwarding
  have users := Render.users_inj leftUsers rightUsers
  have domain := Render.domainLines_inj leftDomain rightDomain
  have tree := Render.spanningTreeLines_inj leftTree rightTree
  have ospf := Render.ospfLines_inj leftOspf rightOspf
  have classless := Render.classlessLines_inj leftClassless rightClassless
  have routes := Render.staticRoutes_inj leftRoutes rightRoutes
  have flows := Render.flowExportLines_inj leftExport rightExport
  have banner := Render.bannerLines_inj leftBanner rightBanner
  have console := Render.lineClass_inj leftConOpen rightConOpen leftConsole rightConsole
  have auxiliary := Render.lineClass_inj leftAuxOpen rightAuxOpen leftAuxiliary rightAuxiliary
  have terminals := Render.lineClass_inj leftVtyOpen rightVtyOpen leftTerminals rightTerminals
  rw [normalForm, normalForm, filled, filled, Config.mk.injEq]
  exact ⟨congrArg some version, services, hostname, secret, password, aaa, users,
    congrArg some ipv4, congrArg some ipv6, rfl, domain, banner, congrArg some tree, interfaces,
    ospf, congrArg some classless, congrArg some routes, congrArg Presence.valued flows,
    console, auxiliary, terminals⟩

/-- Rendering loses nothing: accepted configurations with the same text have the same normal form,
when no text field holds a line feed and no password of a line is disguised. -/
theorem normalForm_eq_of_render {left right : Config} {text : String}
    (leftValid : left.validate = .ok ()) (rightValid : right.validate = .ok ())
    (leftUnbroken : ∀ field ∈ left.texts, Unbroken field)
    (rightUnbroken : ∀ field ∈ right.texts, Unbroken field)
    (leftOpen : left.Undisguised) (rightOpen : right.Undisguised)
    (ofLeft : left.render = .ok text) (ofRight : right.render = .ok text) :
    left.normalForm = right.normalForm := by
  obtain ⟨leftLines, leftShown, rfl⟩ := render_eq_ok.mp ofLeft
  obtain ⟨rightLines, rightShown, same⟩ := render_eq_ok.mp ofRight
  obtain rfl : rightLines = leftLines := textOfLines_inj (renderLines_ne_nil rightShown)
    (renderLines_ne_nil leftShown) ((unbroken_renderLines rightShown).mpr rightUnbroken)
    ((unbroken_renderLines leftShown).mpr leftUnbroken) same
  exact normalForm_eq_of_renderLines (accepted_of_validate leftValid)
    (accepted_of_validate rightValid) leftOpen rightOpen leftShown rightShown

/-- A router with a user, an interface and a console line has the same text, and so the same normal
form, when some of its defaults are written out. -/
theorem normalForm_eq_of_render_lab : ∃ left right : Config,
    left ≠ right ∧ left.render = right.render ∧ left.normalForm = right.normalForm := by
  let console : Line := {
    password := some { plaintext := "class" }, execTimeout := { seconds := 0 } }
  let left : Config := {
    hostname := some "R1"
    users := [{ username := .cisco, password := { plaintext := "cisco" } }]
    interfaces := [{ port := { family := .serial, index := "0/0" } }]
    lineCon := some console }
  let right : Config := {
    left with
    version := some "16.6.4"
    ipDomainLookup := some false
    ipFlowExport := .defaulted
    lineCon := some { console with portStart := some 0 } }
  have leftUnbroken : ∀ field ∈ left.texts, Unbroken field := by decide
  have rightUnbroken : ∀ field ∈ right.texts, Unbroken field := by decide
  have leftOpen : left.Undisguised := by unfold Undisguised; decide
  have rightOpen : right.Undisguised := by unfold Undisguised; decide
  obtain ⟨text, shown⟩ : ∃ text, left.render = .ok text := ⟨_, rfl⟩
  have same : left.render = right.render := rfl
  exact ⟨left, right, by decide, same, normalForm_eq_of_render rfl rfl leftUnbroken rightUnbroken
    leftOpen rightOpen shown (same ▸ shown)⟩

end RunningConfig.Config
