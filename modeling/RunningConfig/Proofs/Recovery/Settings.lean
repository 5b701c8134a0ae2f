import RunningConfig.Proofs.Config.Filled
import RunningConfig.Proofs.Render.Content
import RunningConfig.Proofs.Text.Cut
/-!
# Settings of one line, known from their lines

Sections of a fixed number of lines show one setting a line. Each setting is known from its line, up
to the default that stands for an unset one.
-/

namespace RunningConfig

/-- A block is known, with its value written out, from its presence and the value that shows. -/
theorem Presence.completed_inj {α : Type} {value : α} {left right : Presence α}
    (present : left.isPresent = right.isPresent)
    (shown : left.valueOr value = right.valueOr value) :
    left.completed value = right.completed value := by
  cases left <;> cases right <;>
    simp_all [completed, isPresent, valueOr, value?]

namespace Render

/-- A directive and whether it is on are known from its line. -/
theorem toggle_inj {left right : Bool} {one other : String}
    (same : toggle left one = toggle right other) : left = right ∧ one = other := by
  cases left <;> cases right
  · exact ⟨rfl, (String.append_right_inj _).mp same⟩
  · simp [toggle, ← String.toList_inj] at same
  · simp [toggle, ← String.toList_inj] at same
  · exact ⟨rfl, (String.append_right_inj _).mp same⟩

/-- A timestamp service with its mode written out is known from its line. -/
theorem timestamps_inj {kind : String} {left right : Presence TimestampMode}
    (same : timestamps kind left = timestamps kind right) :
    left.completed .datetimeMsec = right.completed .datetimeMsec := by
  obtain ⟨present, directive⟩ := toggle_inj same
  have mode := Keyword.word_injective ((String.append_right_inj _).mp directive)
  exact Presence.completed_inj present mode

variable {left right : Config} {lines : List String}

/-- The version is known from its line. -/
theorem versionLines_inj (ofLeft : versionLines left = .ok lines)
    (ofRight : versionLines right = .ok lines) :
    left.version.getD "16.6.4" = right.version.getD "16.6.4" := by
  have same := Except.ok.inj (ofLeft.trans ofRight.symm)
  exact (String.append_right_inj _).mp (List.cons.inj same).1

/-- The services with their defaults written out are known from their lines. -/
theorem serviceLines_inj (ofLeft : serviceLines left = .ok lines)
    (ofRight : serviceLines right = .ok lines) :
    left.services.filled = right.services.filled := by
  have same := Except.ok.inj (ofLeft.trans ofRight.symm)
  simp only [List.cons.injEq, and_true] at same
  obtain ⟨log, debug, encryption⟩ := same
  rw [Services.filled, Services.filled, Services.mk.injEq]
  exact ⟨timestamps_inj debug, timestamps_inj log, congrArg some (toggle_inj encryption).1⟩

/-- The host name is known from its line. -/
theorem hostnameLines_inj (ofLeft : hostnameLines left = .ok lines)
    (ofRight : hostnameLines right = .ok lines) : left.hostname = right.hostname := by
  have same := Except.ok.inj (ofLeft.trans ofRight.symm)
  exact orPlaceholder_inj (fun _ _ => (String.append_right_inj _).mp)
    (fun _ => by simp [Default.placeholder, ← String.toList_inj]) (List.cons.inj same).1

/-- Express forwarding is known from its lines. -/
theorem forwardingLines_inj (ofLeft : forwardingLines left = .ok lines)
    (ofRight : forwardingLines right = .ok lines) :
    left.ipCef.getD false = right.ipCef.getD false ∧
      left.ipv6Cef.getD false = right.ipv6Cef.getD false := by
  have same := Except.ok.inj (ofLeft.trans ofRight.symm)
  simp only [List.cons.injEq, and_true] at same
  exact ⟨(toggle_inj same.1).1, (toggle_inj same.2).1⟩

/-- The domain name is known from its line. -/
theorem domainLines_inj (ofLeft : domainLines left = .ok lines)
    (ofRight : domainLines right = .ok lines) : left.ipDomainName = right.ipDomainName := by
  have same := Except.ok.inj (ofLeft.trans ofRight.symm)
  exact orPlaceholder_inj (fun _ _ => (String.append_right_inj _).mp)
    (fun _ => by simp [Default.placeholder, ← String.toList_inj]) (List.cons.inj same).1

/-- The spanning tree mode is known from its line. -/
theorem spanningTreeLines_inj (ofLeft : spanningTreeLines left = .ok lines)
    (ofRight : spanningTreeLines right = .ok lines) :
    left.spanningTreeMode.getD .pvst = right.spanningTreeMode.getD .pvst := by
  have same := Except.ok.inj (ofLeft.trans ofRight.symm)
  exact Keyword.word_injective ((String.append_right_inj _).mp (List.cons.inj same).1)

/-- Classless routing is known from its line. -/
theorem classlessLines_inj (ofLeft : classlessLines left = .ok lines)
    (ofRight : classlessLines right = .ok lines) :
    left.ipClassless.getD true = right.ipClassless.getD true := by
  have same := (List.cons.inj (Except.ok.inj (ofLeft.trans ofRight.symm))).1
  change left.ipClassless.getD Default.ipClassless = right.ipClassless.getD Default.ipClassless
  cases one : left.ipClassless.getD Default.ipClassless <;>
    cases other : right.ipClassless.getD Default.ipClassless <;>
    simp [one, other] at same ⊢

/-- The version of flow export is known from its line. -/
theorem flowExportLines_inj (ofLeft : flowExportLines left = .ok lines)
    (ofRight : flowExportLines right = .ok lines) :
    left.ipFlowExport.valueOr 9 = right.ipFlowExport.valueOr 9 := by
  have same := (List.cons.inj (Except.ok.inj (ofLeft.trans ofRight.symm))).1
  exact UInt16.toNat_inj.mp (Text.toString_inj ((String.append_right_inj _).mp same))

/-- The banner is known from its line. -/
theorem bannerLines_inj (ofLeft : bannerLines left = .ok lines)
    (ofRight : bannerLines right = .ok lines) : left.bannerMotd = right.bannerMotd := by
  have same := Except.ok.inj (ofLeft.trans ofRight.symm)
  exact orPlaceholder_inj
    (fun _ _ shown => (String.append_right_inj _).mp ((String.append_left_inj _).mp shown))
    (fun _ => by simp [Default.placeholder, ← String.toList_inj]) (List.cons.inj same).1

end Render

end RunningConfig
