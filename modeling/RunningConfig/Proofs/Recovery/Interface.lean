import RunningConfig.Proofs.Config.Filled
import RunningConfig.Proofs.Mask
import RunningConfig.Proofs.Render.Content
import RunningConfig.Proofs.Text.Cut
/-!
# Interfaces, known from their lines

The lines of an interface determine it once its defaults are written out. A setting that may be
left out begins with a word of its own, so the line that follows tells whether it is there.
-/

namespace RunningConfig

open Text (BlankFirst Solid append_inj_of_solid)

/-- No family of interfaces has a name that begins another. -/
theorem InterfaceFamily.prefixFree : Keyword.PrefixFree InterfaceFamily := by
  intro left right
  cases left <;> cases right <;> simp [Keyword.word]

/-- A port is known from its name. -/
theorem Port.name_inj {left right : Port} (same : left.name = right.name) : left = right := by
  obtain ⟨family, index⟩ := Keyword.word_append_inj InterfaceFamily.prefixFree same
  rw [Port.mk.injEq]
  exact ⟨family, index⟩

/-- The dotted quad of an address is a word. -/
theorem Address.solid_toText (address : Address) : Solid address.toText :=
  not_mem_toText rfl (by decide) address

namespace Render

/-- The mask of a prefix length is a word. -/
theorem solid_mask {length : Int32} {text : String} (shown : mask length = .ok text) : Solid text :=
  not_mem_mask rfl (by decide) shown

/-- Two texts that begin with an address before a blank begin with the same one. -/
theorem address_append_inj {left right : Address} {leftRest rightRest : String}
    (leftBlank : BlankFirst leftRest) (rightBlank : BlankFirst rightRest)
    (same : left.toText ++ leftRest = right.toText ++ rightRest) :
    left = right ∧ leftRest = rightRest := by
  obtain ⟨text, rest⟩ := append_inj_of_solid left.solid_toText right.solid_toText leftBlank
    rightBlank same
  exact ⟨Address.toText_inj text, rest⟩

/-- The address of an interface is known from its line. -/
theorem interfaceAddress_inj {left right : Option Ipv4Interface} {line : String}
    (ofLeft : interfaceAddress left = .ok line) (ofRight : interfaceAddress right = .ok line) :
    left = right := by
  cases left with
  | none =>
    obtain rfl := Except.ok.inj ofLeft
    cases right with
    | none => rfl
    | some other =>
      obtain ⟨text, -, impossible⟩ := Rendered.bind_pure_eq_ok.mp ofRight
      simp [← String.toList_inj] at impossible
  | some one =>
    obtain ⟨leftMask, leftMasked, rfl⟩ := Rendered.bind_pure_eq_ok.mp ofLeft
    cases right with
    | none =>
      have impossible := Except.ok.inj ofRight
      simp [← String.toList_inj] at impossible
    | some other =>
      obtain ⟨rightMask, rightMasked, same⟩ := Rendered.bind_pure_eq_ok.mp ofRight
      simp only [String.append_assoc, String.append_right_inj] at same
      obtain ⟨ip, same⟩ := address_append_inj (by simp [BlankFirst]) (by simp [BlankFirst]) same
      obtain rfl := String.append_right_inj _ |>.mp same
      have length := mask_inj leftMasked rightMasked
      rw [Option.some.injEq, Ipv4Interface.mk.injEq]
      exact ⟨ip.symm, length⟩

/-- The address line is neither a description nor a placeholder. -/
theorem interfaceAddress_ne {address : Option Ipv4Interface} {line : String}
    (shown : interfaceAddress address = .ok line) :
    (∀ text, line ≠ " description " ++ text) ∧ line ≠ Default.placeholder := by
  cases address with
  | none =>
    obtain rfl := Except.ok.inj shown
    simp [Default.placeholder, ← String.toList_inj]
  | some address =>
    obtain ⟨mask, -, rfl⟩ := Rendered.bind_pure_eq_ok.mp shown
    simp [Default.placeholder, ← String.toList_inj]

/-- A shutdown that is missing or off has no line, one that is on has one. -/
theorem shutdown_inj {left right : Option Bool}
    (same : (if left = some true then [" shutdown"] else []) =
      if right = some true then [" shutdown"] else []) : left.getD false = right.getD false := by
  rcases left with _ | _ | _ <;> rcases right with _ | _ | _ <;> simp at same ⊢

/-- The settings that end an interface, packet size, clock rate and shutdown, are known from their
lines. A missing shutdown shows like one that is off. -/
theorem lastSettings_inj {left right : Interface}
    (same : (left.mtu.map fun mtu => " mtu " ++ toString mtu.toNat).toList ++
        ((left.clockRate.map fun rate => " clock rate " ++ toString rate.toNat).toList ++
          if left.shutdown = some true then [" shutdown"] else []) =
      (right.mtu.map fun mtu => " mtu " ++ toString mtu.toNat).toList ++
        ((right.clockRate.map fun rate => " clock rate " ++ toString rate.toNat).toList ++
          if right.shutdown = some true then [" shutdown"] else [])) :
    left.mtu = right.mtu ∧ left.clockRate = right.clockRate ∧
      left.shutdown.getD false = right.shutdown.getD false := by
  have shutdownOnly (port : Interface) (rate : UInt32) :
      (if port.shutdown = some true then [" shutdown"] else []).head? ≠
        some (" clock rate " ++ toString rate.toNat) := by
    split <;> simp [← String.toList_inj]
  have noMtu (port : Interface) (mtu : UInt16) :
      ((port.clockRate.map fun rate => " clock rate " ++ toString rate.toNat).toList ++
        if port.shutdown = some true then [" shutdown"] else []).head? ≠
          some (" mtu " ++ toString mtu.toNat) := by
    cases port.clockRate with
    | none => split <;> simp [← String.toList_inj]
    | some rate => simp [← String.toList_inj]
  have number {directive : String} {one other : Nat}
      (shown : directive ++ toString one = directive ++ toString other) : one = other :=
    Text.toString_inj ((String.append_right_inj _).mp shown)
  obtain ⟨mtu, rest⟩ := optional_append_inj (fun _ _ shown => UInt16.toNat_inj.mp (number shown))
    (noMtu left) (noMtu right) same
  obtain ⟨rate, rest⟩ := optional_append_inj (fun _ _ shown => UInt32.toNat_inj.mp (number shown))
    (shutdownOnly left) (shutdownOnly right) rest
  exact ⟨mtu, rate, shutdown_inj rest⟩

/-- An interface with its defaults written out is known from its lines. -/
theorem interface_inj {left right : Interface} {lines : List String}
    (ofLeft : interface left = .ok lines) (ofRight : interface right = .ok lines) :
    left.filled = right.filled := by
  obtain ⟨leftLine, leftAddress, rfl⟩ := interface_eq_ok.mp ofLeft
  obtain ⟨rightLine, rightAddress, same⟩ := interface_eq_ok.mp ofRight
  obtain ⟨header, settings⟩ := List.cons.inj same
  have port := Port.name_inj ((String.append_right_inj _).mp header)
  have noDescription {address : Option Ipv4Interface} {line : String}
      (shown : interfaceAddress address = .ok line) (rest : List String) (text : String) :
      (line :: rest).head? ≠ some (" description " ++ text) :=
    fun found => (interfaceAddress_ne shown).1 text (Option.some.inj found)
  obtain ⟨description, settings⟩ := optional_append_inj (fun _ _ => (String.append_right_inj _).mp)
    (noDescription rightAddress _) (noDescription leftAddress _) settings
  simp only [List.cons.injEq, String.append_right_inj] at settings
  obtain ⟨rfl, duplex, speed, last⟩ := settings
  have address := interfaceAddress_inj leftAddress rightAddress
  have duplex := Keyword.word_injective duplex
  have speed := Keyword.word_injective speed
  obtain ⟨mtu, rate, shutdown⟩ := lastSettings_inj last
  rw [Interface.filled, Interface.filled, Interface.mk.injEq]
  exact ⟨port.symm, description.symm, address, rate.symm, congrArg some duplex.symm,
    congrArg some speed.symm, mtu.symm, congrArg some shutdown.symm⟩

/-! ## Blocks of lines -/

/-- The first line of an interface. -/
def InterfaceHeader (line : String) : Prop := ∃ name, line = "interface " ++ name

/-- Lines that begin with a header and hold no placeholder. -/
structure Block (lines : List String) : Prop where
  /-- The first line is a header. -/
  header : ∃ line ∈ lines.head?, InterfaceHeader line
  /-- No line is a placeholder. -/
  plain : ∀ line ∈ lines, line ≠ Default.placeholder

/-- The lines of an interface are a block. -/
theorem block_interface {port : Interface} {lines : List String}
    (shown : interface port = .ok lines) : Block lines := by
  obtain ⟨address, addressed, rfl⟩ := interface_eq_ok.mp shown
  have address := (interfaceAddress_ne addressed).2
  have shutdown : ∀ line ∈ (if port.shutdown = some true then [" shutdown"] else []),
      line ≠ Default.placeholder := by
    split <;> simp [Default.placeholder]
  refine ⟨⟨_, rfl, _, rfl⟩, ?_⟩
  simp only [List.forall_mem_cons, List.forall_mem_append, Option.mem_toList,
    Option.map_eq_some_iff, forall_exists_index, and_imp, forall_apply_eq_imp_iff₂]
  refine ⟨?_, ?_, address, ?_, ?_, ?_, ?_, shutdown⟩ <;>
    simp [Default.placeholder, ← String.toList_inj]

/-- Blocks with a placeholder after each end where a line follows that is no header. -/
theorem blocks_append_inj {left right : List (List String)} {leftRest rightRest : List String}
    (leftBlocks : ∀ block ∈ left, Block block) (rightBlocks : ∀ block ∈ right, Block block)
    (leftOther : ∀ line ∈ leftRest.head?, ¬InterfaceHeader line)
    (rightOther : ∀ line ∈ rightRest.head?, ¬InterfaceHeader line)
    (same : left.flatMap (· ++ [Default.placeholder]) ++ leftRest =
      right.flatMap (· ++ [Default.placeholder]) ++ rightRest) :
    left = right ∧ leftRest = rightRest := by
  have begins {block rest : List String} (isBlock : Block block) :
      ∃ line ∈ (block ++ rest).head?, InterfaceHeader line := by
    obtain ⟨line, first, header⟩ := isBlock.header
    exact ⟨line, List.mem_head?_append_of_mem_head? first, header⟩
  -- Where one side has no block left, its next line is no header, so the other side has none left
  -- either.
  induction left generalizing right with
  | nil =>
    cases right with
    | nil => exact ⟨rfl, same⟩
    | cons block right =>
      rw [List.flatMap_nil, List.nil_append, List.flatMap_cons, List.append_assoc,
        List.append_assoc] at same
      obtain ⟨line, first, header⟩ := begins (List.forall_mem_cons.mp rightBlocks).1
      exact absurd header (leftOther line (same ▸ first))
  | cons block left ih =>
    obtain ⟨leftBlock, leftLater⟩ := List.forall_mem_cons.mp leftBlocks
    cases right with
    | nil =>
      rw [List.flatMap_nil, List.nil_append, List.flatMap_cons, List.append_assoc,
        List.append_assoc] at same
      obtain ⟨line, first, header⟩ := begins leftBlock
      exact absurd header (rightOther line (same ▸ first))
    | cons other right =>
      obtain ⟨rightBlock, rightLater⟩ := List.forall_mem_cons.mp rightBlocks
      simp only [List.flatMap_cons, List.append_assoc, List.singleton_append] at same
      obtain ⟨rfl, tails⟩ := Text.append_inj_of_stop leftBlock.plain rightBlock.plain
        (by simp) (by simp) same
      obtain ⟨rfl, rest⟩ := ih leftLater rightLater (List.cons.inj tails).2
      exact ⟨rfl, rest⟩

/-- Interfaces are blocks with a placeholder after each, or a lone placeholder. -/
theorem interfaces_eq_ok {items : List Interface} {lines : List String} :
    interfaces items = .ok lines ↔
      items = [] ∧ lines = [Default.placeholder] ∨
        items ≠ [] ∧ ∃ blocks, items.mapM interface = .ok blocks ∧
          blocks.flatMap (· ++ [Default.placeholder]) = lines := by
  cases items with
  | nil => simp [interfaces, eq_comm]
  | cons item items =>
    simp only [interfaces, List.isEmpty_cons, Bool.false_eq_true, if_false,
      Rendered.bind_pure_eq_ok, reduceCtorEq, false_and, ne_eq, not_false_eq_true, true_and,
      false_or]

/-- The lines of one interface or more begin with a header. -/
theorem header_of_mapM_interface {items : List Interface} {blocks : List (List String)}
    (nonempty : items ≠ []) (traversed : items.mapM interface = .ok blocks) :
    ∃ line ∈ (blocks.flatMap (· ++ [Default.placeholder])).head?, InterfaceHeader line := by
  cases items with
  | nil => contradiction
  | cons item items =>
    obtain ⟨block, later, first, -, rfl⟩ := Rendered.mapM_cons_eq_ok.mp traversed
    obtain ⟨line, begins, header⟩ := (block_interface first).header
    rw [List.flatMap_cons, List.append_assoc]
    exact ⟨line, List.mem_head?_append_of_mem_head? begins, header⟩

/-- A lone placeholder does not begin like the lines of one interface or more. -/
theorem placeholder_ne_blocks {items : List Interface} {blocks : List (List String)}
    {rest other : List String} (nonempty : items ≠ [])
    (traversed : items.mapM interface = .ok blocks) :
    [Default.placeholder] ++ rest ≠ blocks.flatMap (· ++ [Default.placeholder]) ++ other := by
  intro same
  obtain ⟨line, first, name, rfl⟩ := header_of_mapM_interface nonempty traversed
  have begins := List.mem_head?_append_of_mem_head? (t := other) first
  rw [← same] at begins
  simp [Default.placeholder, ← String.toList_inj] at begins

/-- The lines of interfaces end where a line follows that is no header of one, and interfaces with
their defaults written out are known from them. -/
theorem interfaces_append_inj {left right : List Interface}
    {leftLines rightLines leftRest rightRest : List String}
    (ofLeft : interfaces left = .ok leftLines) (ofRight : interfaces right = .ok rightLines)
    (leftOther : ∀ line ∈ leftRest.head?, ¬InterfaceHeader line)
    (rightOther : ∀ line ∈ rightRest.head?, ¬InterfaceHeader line)
    (same : leftLines ++ leftRest = rightLines ++ rightRest) :
    left.map Interface.filled = right.map Interface.filled ∧ leftRest = rightRest := by
  rcases interfaces_eq_ok.mp ofLeft with ⟨rfl, rfl⟩ | ⟨leftSome, leftBlocks, leftShown, rfl⟩
  · rcases interfaces_eq_ok.mp ofRight with ⟨rfl, rfl⟩ | ⟨rightSome, rightBlocks, rightShown, rfl⟩
    · exact ⟨rfl, (List.cons.inj same).2⟩
    · exact absurd same (placeholder_ne_blocks rightSome rightShown)
  · rcases interfaces_eq_ok.mp ofRight with ⟨rfl, rfl⟩ | ⟨rightSome, rightBlocks, rightShown, rfl⟩
    · exact absurd same.symm (placeholder_ne_blocks leftSome leftShown)
    · obtain ⟨rfl, rest⟩ := blocks_append_inj
        (Rendered.forall_mem_of_mapM (fun _ _ => block_interface) leftShown)
        (Rendered.forall_mem_of_mapM (fun _ _ => block_interface) rightShown)
        leftOther rightOther same
      exact ⟨Rendered.map_eq_of_mapM _ (fun _ _ _ => interface_inj) leftShown rightShown, rest⟩

end Render

end RunningConfig
