import RunningConfig.Proofs.Recovery.Interface
/-!
# Routing, known from its lines

The lines of the OSPF process and of the static routes determine both. The passive interfaces of a
process end at the first line that names none, which is where its networks begin.
-/

namespace RunningConfig.Render

open Text (BlankFirst Solid append_inj_of_solid)

/-- The wildcard of a prefix length is a word. -/
theorem solid_wildcard {length : Int32} {text : String} (shown : wildcard length = .ok text) :
    Solid text :=
  not_mem_wildcard rfl (by decide) shown

/-- A network is known from its line. -/
theorem ospfNetwork_inj {left right : OspfNetwork} {line : String}
    (ofLeft : ospfNetwork left = .ok line) (ofRight : ospfNetwork right = .ok line) :
    left = right := by
  obtain ⟨leftText, leftInverted, rfl⟩ := Rendered.bind_pure_eq_ok.mp ofLeft
  obtain ⟨rightText, rightInverted, same⟩ := Rendered.bind_pure_eq_ok.mp ofRight
  simp only [String.append_assoc, String.append_right_inj] at same
  obtain ⟨address, same⟩ := address_append_inj (by simp [BlankFirst]) (by simp [BlankFirst]) same
  rw [String.append_right_inj] at same
  obtain ⟨rfl, last⟩ := append_inj_of_solid (solid_wildcard rightInverted)
    (solid_wildcard leftInverted) (by simp [BlankFirst]) (by simp [BlankFirst]) same
  rw [String.append_right_inj] at last
  have area := UInt32.toNat_inj.mp (Text.toString_inj last)
  rw [OspfNetwork.mk.injEq]
  exact ⟨address.symm, wildcard_inj leftInverted rightInverted, area.symm⟩

/-- A static route is known from its line. -/
theorem staticRoute_inj {left right : StaticRoute} {line : String}
    (ofLeft : staticRoute left = .ok line) (ofRight : staticRoute right = .ok line) :
    left = right := by
  obtain ⟨leftText, leftMasked, rfl⟩ := Rendered.bind_pure_eq_ok.mp ofLeft
  obtain ⟨rightText, rightMasked, same⟩ := Rendered.bind_pure_eq_ok.mp ofRight
  simp only [String.append_assoc, String.append_right_inj] at same
  obtain ⟨destination, same⟩ := address_append_inj (by simp [BlankFirst]) (by simp [BlankFirst])
    same
  rw [String.append_right_inj] at same
  obtain ⟨rfl, last⟩ := append_inj_of_solid (solid_mask rightMasked) (solid_mask leftMasked)
    (by simp [BlankFirst]) (by simp [BlankFirst]) same
  have router := Address.toText_inj ((String.append_right_inj _).mp last)
  rw [StaticRoute.mk.injEq]
  exact ⟨destination.symm, mask_inj leftMasked rightMasked, router.symm⟩

/-- The line of a static route is no placeholder. -/
theorem staticRoute_ne_placeholder {route : StaticRoute} {line : String}
    (shown : staticRoute route = .ok line) : line ≠ Default.placeholder := by
  obtain ⟨mask, -, rfl⟩ := Rendered.bind_pure_eq_ok.mp shown
  simp [Default.placeholder, ← String.toList_inj]

/-- Static routes are known from their lines. -/
theorem staticRoutes_inj {left right : List StaticRoute} {lines : List String}
    (ofLeft : staticRoutes left = .ok lines) (ofRight : staticRoutes right = .ok lines) :
    left = right := by
  rw [staticRoutes_eq_listed] at ofLeft ofRight
  have same := listed_inj id (fun _ _ _ => staticRoute_inj) (fun _ _ => staticRoute_ne_placeholder)
    ofLeft ofRight
  rwa [List.map_id, List.map_id] at same

/-- The line of a passive interface. -/
def PassiveLine (line : String) : Prop := ∃ name, line = " passive-interface " ++ name

/-- The line of a network names no passive interface, and is no placeholder. -/
theorem ospfNetwork_ne {network : OspfNetwork} {line : String}
    (shown : ospfNetwork network = .ok line) : ¬PassiveLine line ∧ line ≠ Default.placeholder := by
  obtain ⟨wildcard, -, rfl⟩ := Rendered.bind_pure_eq_ok.mp shown
  simp [PassiveLine, Default.placeholder, ← String.toList_inj]

/-- The lines of a process are its header, its logging, its passive interfaces and its networks. -/
theorem ospf_eq_ok {process : Ospf} {lines : List String} :
    ospf process = .ok lines ↔ ∃ networks, process.networks.mapM ospfNetwork = .ok networks ∧
      ("router ospf " ++ toString process.processId.toNat) ::
        (if process.logAdjacencyChanges.getD Default.logAdjacencyChanges
          then " log-adjacency-changes " else " no log-adjacency-changes ") ::
        ((process.passiveInterfaces.getD []).map (fun port => " passive-interface " ++ port.name) ++
          networks) = lines := by
  unfold ospf
  simp only [Rendered.bind_pure_eq_ok, List.cons_append, List.nil_append]

/-- A process with its defaults written out is known from its lines. -/
theorem ospf_inj {left right : Ospf} {lines : List String} (ofLeft : ospf left = .ok lines)
    (ofRight : ospf right = .ok lines) : left.filled = right.filled := by
  obtain ⟨leftNetworks, leftShown, rfl⟩ := ospf_eq_ok.mp ofLeft
  obtain ⟨rightNetworks, rightShown, same⟩ := ospf_eq_ok.mp ofRight
  simp only [List.cons.injEq, String.append_right_inj] at same
  obtain ⟨number, logging, interfaces⟩ := same
  have passive (ports : List Port) :
      ∀ line ∈ ports.map (fun port => " passive-interface " ++ port.name), PassiveLine line :=
    List.forall_mem_map.mpr fun port _ => ⟨port.name, rfl⟩
  have stop {process : Ospf} {networks : List String}
      (shown : process.networks.mapM ospfNetwork = .ok networks) :
      ∀ line ∈ networks.head?, ¬PassiveLine line := fun line first =>
    Rendered.forall_mem_of_mapM (fun _ _ found => (ospfNetwork_ne found).1) shown line
      (List.mem_of_head? first)
  obtain ⟨names, rfl⟩ := Text.append_inj_of_stop (passive _) (passive _) (stop rightShown)
    (stop leftShown) interfaces
  have ports := List.map_inj_right
    (fun _ _ shown => Port.name_inj ((String.append_right_inj _).mp shown)) |>.mp names
  have networks := Rendered.eq_of_mapM (fun _ _ _ => ospfNetwork_inj) leftShown rightShown
  have number := UInt16.toNat_inj.mp (Text.toString_inj number)
  have logging : right.logAdjacencyChanges.getD true = left.logAdjacencyChanges.getD true := by
    change right.logAdjacencyChanges.getD Default.logAdjacencyChanges =
      left.logAdjacencyChanges.getD Default.logAdjacencyChanges
    cases one : right.logAdjacencyChanges.getD Default.logAdjacencyChanges <;>
      cases other : left.logAdjacencyChanges.getD Default.logAdjacencyChanges <;>
      simp [one, other] at logging ⊢
  rw [Ospf.filled, Ospf.filled, Ospf.mk.injEq]
  exact ⟨number.symm, congrArg some logging.symm, congrArg some ports.symm, networks⟩

/-- The lines of a process begin with its header and hold no placeholder. -/
theorem ospf_ne {process : Ospf} {lines : List String} (shown : ospf process = .ok lines) :
    (∃ number, lines.head? = some ("router ospf " ++ number)) ∧
      ∀ line ∈ lines, line ≠ Default.placeholder := by
  obtain ⟨networks, traversed, rfl⟩ := ospf_eq_ok.mp shown
  have networks := Rendered.forall_mem_of_mapM (fun _ _ found => (ospfNetwork_ne found).2) traversed
  refine ⟨⟨_, rfl⟩, ?_⟩
  simp only [List.forall_mem_cons, List.forall_mem_append, List.forall_mem_map]
  refine ⟨?_, ?_, ?_, networks⟩
  · simp [Default.placeholder, ← String.toList_inj]
  · split <;> simp [Default.placeholder]
  · simp [Default.placeholder, ← String.toList_inj]

/-- The OSPF lines are a lone placeholder, or begin with the header of a process and hold none. -/
theorem ospfLines_plain {config : Config} {lines : List String}
    (shown : ospfLines config = .ok lines) :
    lines = [Default.placeholder] ∨
      (∃ number, lines.head? = some ("router ospf " ++ number)) ∧
        ∀ line ∈ lines, line ≠ Default.placeholder := by
  rw [ospfLines_eq_ofOption] at shown
  cases given : config.routerOspf with
  | none =>
    rw [given] at shown
    exact Or.inl (Except.ok.inj shown).symm
  | some process =>
    rw [given] at shown
    exact Or.inr (ospf_ne shown)

/-- The process with its defaults written out, if any, is known from its lines. -/
theorem ospfLines_inj {left right : Config} {lines : List String}
    (ofLeft : ospfLines left = .ok lines) (ofRight : ospfLines right = .ok lines) :
    left.routerOspf.map Ospf.filled = right.routerOspf.map Ospf.filled := by
  rw [ospfLines_eq_ofOption] at ofLeft ofRight
  refine ofOption_inj _ (fun _ _ _ _ => ospf_inj) ?_ ofLeft ofRight
  rintro process shown rfl
  exact (ospf_ne shown).2 _ (List.mem_singleton_self _) rfl

end RunningConfig.Render
