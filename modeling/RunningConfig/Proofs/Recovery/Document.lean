import RunningConfig.Proofs.Recovery.Line
import RunningConfig.Proofs.Recovery.Routing
import RunningConfig.Proofs.Render.Document
/-!
# Sections, known from the lines of a document

A document does not say where its sections end. Most sections tell themselves: either their content
always has the same number of lines, or it is a lone placeholder or free of placeholders, and a
placeholder follows. The interfaces have no separator after them, but what follows them never
begins like an interface. So a document is cut into its sections in one way only.
-/

namespace RunningConfig

namespace Section

/-- A section that tells where its lines end: whatever follows, the same lines hold the same
content. -/
def Delimited (part : Section) : Prop :=
  ∀ (left right : Config) (leftLines rightLines leftRest rightRest : List String),
    part.lines left = .ok leftLines → part.lines right = .ok rightLines →
    leftLines ++ leftRest = rightLines ++ rightRest →
    part.content left = part.content right ∧ leftRest = rightRest

/-- A section whose content always has the same number of lines is delimited. -/
theorem delimited_of_length {part : Section} (count : Nat)
    (fixed : ∀ config content, part.content config = .ok content → content.length = count) :
    part.Delimited := by
  intro left right leftLines rightLines leftRest rightRest ofLeft ofRight same
  obtain ⟨leftContent, leftShown, rfl⟩ := lines_eq_ok.mp ofLeft
  obtain ⟨rightContent, rightShown, rfl⟩ := lines_eq_ok.mp ofRight
  have leftLength := fixed left leftContent leftShown
  have rightLength := fixed right rightContent rightShown
  obtain ⟨lines, rest⟩ := List.append_inj same (by simp [leftLength, rightLength])
  rw [List.append_left_inj, List.append_right_inj] at lines
  rw [leftShown, rightShown, lines]
  exact ⟨rfl, rest⟩

/-- A content that cannot fail has the lines it is made of. -/
theorem length_of_ok {lines content : List String}
    (shown : (.ok lines : Rendered (List String)) = .ok content) :
    content.length = lines.length := by
  rw [Except.ok.inj shown]

/-- A section whose content is a lone placeholder or has lines none of which is one is delimited
when separators follow it and none comes before it. -/
theorem delimited_of_plain {part : Section} (leading : part.leading = 0)
    (trailing : 0 < part.trailing)
    (plain : ∀ config content, part.content config = .ok content →
      content = [Default.placeholder] ∨
        content ≠ [] ∧ ∀ line ∈ content, line ≠ Default.placeholder) : part.Delimited := by
  intro left right leftLines rightLines leftRest rightRest ofLeft ofRight same
  obtain ⟨leftContent, leftShown, rfl⟩ := lines_eq_ok.mp ofLeft
  obtain ⟨rightContent, rightShown, rfl⟩ := lines_eq_ok.mp ofRight
  obtain ⟨separators, more⟩ := Nat.exists_eq_add_of_lt trailing
  simp only [leading, List.replicate_zero, List.nil_append, List.append_assoc] at same
  have contents : leftContent = rightContent := by
    rcases plain left leftContent leftShown with rfl | ⟨leftSome, leftPlain⟩
    · rcases plain right rightContent rightShown with rfl | ⟨rightSome, rightPlain⟩
      · rfl
      · obtain ⟨line, rest, rfl⟩ := List.exists_cons_of_ne_nil rightSome
        exact absurd (List.cons.inj same).1.symm (rightPlain line List.mem_cons_self)
    · rcases plain right rightContent rightShown with rfl | ⟨rightSome, rightPlain⟩
      · obtain ⟨line, rest, rfl⟩ := List.exists_cons_of_ne_nil leftSome
        exact absurd (List.cons.inj same).1 (leftPlain line List.mem_cons_self)
      · rw [more, List.replicate_succ] at same
        exact (Text.append_inj_of_stop leftPlain rightPlain (by simp) (by simp) same).1
  rw [contents, List.append_right_inj, List.append_right_inj] at same
  rw [leftShown, rightShown, contents]
  exact ⟨rfl, same⟩

/-- Delimited sections in a row are known from their lines, whatever follows them. -/
theorem document_append_inj {parts : List Section} {left right : Config}
    {leftLines rightLines leftRest rightRest : List String}
    (delimited : ∀ part ∈ parts, part.Delimited) (ofLeft : document parts left = .ok leftLines)
    (ofRight : document parts right = .ok rightLines)
    (same : leftLines ++ leftRest = rightLines ++ rightRest) :
    (∀ part ∈ parts, part.content left = part.content right) ∧ leftRest = rightRest := by
  induction parts generalizing leftLines rightLines with
  | nil =>
    obtain rfl := document_nil_eq_ok.mp ofLeft
    obtain rfl := document_nil_eq_ok.mp ofRight
    exact ⟨by simp, same⟩
  | cons part parts ih =>
    obtain ⟨first, others⟩ := List.forall_mem_cons.mp delimited
    obtain ⟨leftBlock, leftLater, leftShown, leftDocument, rfl⟩ := document_cons_eq_ok.mp ofLeft
    obtain ⟨rightBlock, rightLater, rightShown, rightDocument, rfl⟩ :=
      document_cons_eq_ok.mp ofRight
    rw [List.append_assoc, List.append_assoc] at same
    obtain ⟨content, later⟩ := first _ _ _ _ _ _ leftShown rightShown same
    obtain ⟨contents, rest⟩ := ih others leftDocument rightDocument later
    exact ⟨List.forall_mem_cons.mpr ⟨content, contents⟩, rest⟩

/-- Every section but the interfaces is delimited. -/
theorem delimited_of_mem {part : Section} (member : part ∈ layout)
    (other : part.name ≠ "interfaces") : part.Delimited := by
  have every : Every fun part => part.name ≠ "interfaces" → part.Delimited := {
    version := fun _ => delimited_of_length 1 fun _ _ => length_of_ok
    services := fun _ => delimited_of_length 3 fun _ _ => length_of_ok
    hostname := fun _ => delimited_of_length 1 fun _ _ => length_of_ok
    enable := fun _ => delimited_of_length 2 fun _ _ shown => by
      obtain ⟨secret, -, rfl⟩ := Render.enableLines_eq_ok.mp shown
      rfl
    aaa := fun _ => delimited_of_length 5 fun _ _ => length_of_ok
    forwarding := fun _ => delimited_of_length 2 fun _ _ => length_of_ok
    users := fun _ => delimited_of_plain rfl (by decide) fun _ _ shown =>
      Render.listed_plain (fun _ _ => Render.user_ne_placeholder) shown
    domain := fun _ => delimited_of_length 1 fun _ _ => length_of_ok
    spanningTree := fun _ => delimited_of_length 1 fun _ _ => length_of_ok
    interfaces := fun other => absurd rfl other
    ospf := fun _ => delimited_of_plain rfl (by decide) fun _ _ shown =>
      (Render.ospfLines_plain shown).imp_right fun ⟨⟨_, first⟩, plain⟩ =>
        ⟨List.ne_nil_of_mem (List.mem_of_head? first), plain⟩
    classless := fun _ => delimited_of_length 1 fun _ _ => length_of_ok
    routes := fun _ => delimited_of_plain rfl (by decide) fun _ _ shown =>
      Render.listed_plain (fun _ _ => Render.staticRoute_ne_placeholder) shown
    flowExport := fun _ => delimited_of_length 1 fun _ _ => length_of_ok
    banner := fun _ => delimited_of_length 1 fun _ _ => length_of_ok
    lineCon := fun _ => delimited_of_plain rfl (by decide) fun _ _ shown =>
      Or.inr (Render.lineClass_ne_placeholder shown)
    lineAux := fun _ => delimited_of_plain rfl (by decide) fun _ _ shown =>
      Or.inr (Render.lineClass_ne_placeholder shown)
    lineVty := fun _ => delimited_of_plain rfl (by decide) fun _ _ shown =>
      Or.inr (Render.lineClass_ne_placeholder shown)
    terminator := fun _ => delimited_of_length 1 fun _ _ => length_of_ok }
  exact forall_mem_layout.mpr every part member other

/-- The section of the interfaces. -/
def interfacesSection : Section :=
  ⟨"interfaces", 0, fun config => Render.interfaces config.interfaces, 0⟩

/-- The sections before the interfaces. -/
def front : List Section := layout.take 9

/-- The sections after the interfaces. -/
def back : List Section := layout.drop 10

/-- The interfaces stand between two runs of sections. -/
theorem layout_eq : layout = front ++ interfacesSection :: back := rfl

/-- The sections before and after the interfaces are delimited. -/
theorem delimited_of_mem_sides {part : Section} (member : part ∈ front ∨ part ∈ back) :
    part.Delimited := by
  have front : ∀ part ∈ front, part.name ≠ "interfaces" := by decide
  have back : ∀ part ∈ back, part.name ≠ "interfaces" := by decide
  rcases member with before | after
  · exact delimited_of_mem (List.mem_of_mem_take before) (front part before)
  · exact delimited_of_mem (List.mem_of_mem_drop after) (back part after)

/-- What follows the interfaces does not begin like one. -/
theorem back_head {config : Config} {lines : List String}
    (rendered : document back config = .ok lines) :
    ∀ line ∈ lines.head?, ¬Render.InterfaceHeader line := by
  obtain ⟨block, rest, first, -, rfl⟩ := document_cons_eq_ok.mp rendered
  obtain ⟨content, shown, rfl⟩ := lines_eq_ok.mp first
  rintro line begins ⟨name, rfl⟩
  rcases Render.ospfLines_plain shown with rfl | ⟨⟨number, header⟩, -⟩
  · simp [Default.placeholder, ← String.toList_inj] at begins
  · obtain ⟨later, rfl⟩ := List.head?_eq_some_iff.mp header
    simp [← String.toList_inj] at begins

end Section

namespace Config

/-- Configurations with the same lines have the same interfaces, once their defaults are written
out, and the same content in every other section. -/
theorem contents_of_renderLines {left right : Config} {lines : List String}
    (ofLeft : left.renderLines = .ok lines) (ofRight : right.renderLines = .ok lines) :
    left.interfaces.map Interface.filled = right.interfaces.map Interface.filled ∧
      ∀ part ∈ Section.layout, part.name ≠ "interfaces" →
        ∃ content, part.content left = .ok content ∧ part.content right = .ok content := by
  have blocks := Section.exists_lines_of_document ofLeft
  rw [renderLines_eq_document, Section.layout_eq, Section.document_append_eq_ok] at ofLeft ofRight
  obtain ⟨leftFront, leftLater, leftShown, leftDocument, rfl⟩ := ofLeft
  obtain ⟨rightFront, rightLater, rightShown, rightDocument, same⟩ := ofRight
  obtain ⟨leftBlock, leftBack, leftFirst, leftEnd, rfl⟩ :=
    Section.document_cons_eq_ok.mp leftDocument
  obtain ⟨rightBlock, rightBack, rightFirst, rightEnd, rfl⟩ :=
    Section.document_cons_eq_ok.mp rightDocument
  obtain ⟨leftContent, leftInterfaces, rfl⟩ := Section.lines_eq_ok.mp leftFirst
  obtain ⟨rightContent, rightInterfaces, rfl⟩ := Section.lines_eq_ok.mp rightFirst
  -- The sections before the interfaces are cut off first, then the interfaces, then the rest.
  obtain ⟨front, same⟩ := Section.document_append_inj
    (fun _ member => Section.delimited_of_mem_sides (Or.inl member)) leftShown rightShown same
  simp only [Section.interfacesSection, List.replicate_zero, List.nil_append, List.append_nil]
    at same
  obtain ⟨interfaces, rfl⟩ := Render.interfaces_append_inj leftInterfaces rightInterfaces
    (Section.back_head leftEnd) (Section.back_head rightEnd) same
  obtain ⟨back, -⟩ := Section.document_append_inj
    (fun _ member => Section.delimited_of_mem_sides (Or.inr member)) leftEnd rightEnd
    (rfl : _ ++ [] = _ ++ [])
  refine ⟨interfaces, fun part member other => ?_⟩
  have same : part.content left = part.content right := by
    rw [Section.layout_eq, List.mem_append, List.mem_cons] at member
    rcases member with before | rfl | after
    · exact front part before
    · exact absurd rfl other
    · exact back part after
  obtain ⟨block, shown⟩ := blocks part member
  obtain ⟨content, shown, -⟩ := Section.lines_eq_ok.mp shown
  exact ⟨content, shown, same ▸ shown⟩

end Config

end RunningConfig
