import RunningConfig.Proofs.Schema.Grammar
/-!
# What a shape writes

A model value shows itself to its own readers, so a legible shape reads back from it the value that
it wrote (`Shape.ofValue_write`), and two values that are written alike are one
(`Shape.write_injective`). What is written is canonical: each of its objects stands at the place of
a record, under the members' own names in the order of declaration (`Shape.Follows.canonical`).
-/

namespace RunningConfig

/-- The readers of model values read what a value is. -/
theorem Value.source_sees :
    source.Sees (fun name node => node = .text name) (fun value node => node = value) where
  name := by
    rintro α text expected parse value node rfl parsed
    exact text_eq_ok.mpr parsed
  text := by
    rintro α text expected parse value node rfl parsed
    exact text_eq_ok.mpr parsed
  keyword := by
    rintro α word choose choice node rfl chosen
    exact keyword_eq_ok.mpr chosen
  boolean := by
    rintro value node rfl
    rfl
  integer := by
    rintro α inst value node - rfl
    simp only [source, MachineInteger.ofInt?_toInt]
  unset := by
    rintro node rfl
    rfl
  given := by
    rintro value node rfl set
    cases node with
    | null => contradiction
    | _ => rfl
  items := by
    rintro values node rfl
    exact ⟨values, rfl, List.forall₂_same.mpr fun _ _ => rfl⟩
  entries := by
    rintro name values node rfl
    refine ⟨_, rfl, List.forall₂_map_right_iff.mpr ?_⟩
    exact List.forall₂_same.mpr fun _ _ => ⟨rfl, rfl⟩
  within := rfl

namespace Schema

section Reading

variable {α : Type} {shape : Shape α}

/-- What a legible shape writes is read back. -/
theorem Shape.ofValue_write (legible : shape.Legible) (value : α) :
    shape.ofValue (shape.write value) = .ok value :=
  shape.read_write Value.source_sees legible value rfl

/-- Values that a legible shape writes alike are the same. -/
theorem Shape.write_injective (legible : shape.Legible) : Function.Injective shape.write := by
  intro value other same
  have read := shape.ofValue_write legible value
  rw [same, shape.ofValue_write legible other] at read
  exact (Except.ok.inj read).symm

end Reading

/-! ## Canonical names -/

/-- Every object in a value of a grammar stands at the place of a record, and its keys are the own
names of members of that record, each once at most and in the order of declaration. -/
def Canonical (grammar : Grammar) (value : Value) : Prop :=
  ∀ entries, Value.Inside (.object entries) value →
    ∃ members, Stands (.record members) (.object entries) grammar value ∧
      (entries.map Prod.fst).Sublist (members.map fun member => member.field.name)

namespace Canonical

variable {grammar : Grammar} {value : Value}

/-- There is no object in null. -/
theorem null : Canonical grammar .null := by
  intro entries inside
  cases inside

/-- There is no object in a text. -/
theorem text (text : String) : Canonical grammar (.text text) := by
  intro entries inside
  cases inside

/-- There is no object in a truth value. -/
theorem boolean (value : Bool) : Canonical grammar (.boolean value) := by
  intro entries inside
  cases inside

/-- There is no object in an integer. -/
theorem integer (number : Int) : Canonical grammar (.integer number) := by
  intro entries inside
  cases inside

/-- A canonical value stays so where it is optional. -/
theorem given (canonical : Canonical grammar value) : Canonical (.optional grammar) value := by
  intro entries inside
  obtain ⟨members, stands, keys⟩ := canonical entries inside
  refine ⟨members, .given ?_ stands, keys⟩
  rintro rfl
  cases inside

/-- A list of canonical values is canonical. -/
theorem list {items : List Value} (each : ∀ item ∈ items, Canonical grammar item) :
    Canonical (.list grammar) (.list items) := by
  intro entries inside
  cases inside with
  | item member inside =>
    obtain ⟨members, stands, keys⟩ := each _ member entries inside
    exact ⟨members, .item member stands, keys⟩

/-- An object is canonical when its keys are and what it holds is. -/
theorem record {members : List Member} {entries : List (String × Value)}
    (keys : (entries.map Prod.fst).Sublist (members.map fun member => member.field.name))
    (each : ∀ entry ∈ entries, ∃ member ∈ members,
      member.field.accepts entry.1 = true ∧ Canonical member.grammar entry.2) :
    Canonical (.record members) (.object entries) := by
  intro inner inside
  cases inside with
  | whole => exact ⟨members, .here, keys⟩
  | entry listed inside =>
    obtain ⟨member, among, accepted, canonical⟩ := each _ listed
    obtain ⟨own, stands, keys⟩ := canonical inner inside
    exact ⟨own, .entry among listed accepted stands, keys⟩

end Canonical

/-- Fields write entries under their own names, in the order of declaration. -/
theorem Fields.Follows.keys : {β σ : Type} → {fields : Fields β σ} → {members : List Member} →
    fields.Follows members → ∀ values,
    ((fields.write values).map Prod.fst).Sublist (members.map fun member => member.field.name)
  | _, _, .nil, _, follows, _ => by
    obtain rfl := follows
    exact .slnil
  | _, _, .required _ _ _, _, follows, (_, values) => by
    obtain ⟨grammar, others, rfl, -, later⟩ := follows
    exact (Fields.Follows.keys later values).cons_cons _
  | _, _, .defaulted _ _ _ _, _, follows, (_, values) => by
    obtain ⟨grammar, others, rfl, -, -, later⟩ := follows
    exact (Fields.Follows.keys later values).cons_cons _
  | _, _, .sparse _ _ _, _, follows, (none, values) => by
    obtain ⟨grammar, others, rfl, -, later⟩ := follows
    exact (Fields.Follows.keys later values).cons _
  | _, _, .sparse _ _ _, _, follows, (some _, values) => by
    obtain ⟨grammar, others, rfl, -, later⟩ := follows
    exact (Fields.Follows.keys later values).cons_cons _

/-- What the first field writes and what the others do is for members of a record. -/
theorem exists_member_of_cons {field : FieldName} {required : Bool} {grammar : Grammar}
    {members : List Member} {node : Value} {entries : List (String × Value)}
    (first : Canonical grammar node)
    (later : ∀ entry ∈ entries, ∃ member ∈ members,
      member.field.accepts entry.1 = true ∧ Canonical member.grammar entry.2) :
    ∀ entry ∈ (field.name, node) :: entries, ∃ member ∈ ⟨field, required, grammar⟩ :: members,
      member.field.accepts entry.1 = true ∧ Canonical member.grammar entry.2 := by
  refine List.forall_mem_cons.mpr ⟨?_, fun entry listed => ?_⟩
  · exact ⟨_, List.mem_cons_self, field.accepts_name, first⟩
  · obtain ⟨member, among, own⟩ := later entry listed
    exact ⟨member, List.mem_cons_of_mem _ among, own⟩

mutual

/-- What a legible shape writes is canonical in the grammar that it follows. -/
theorem Shape.Follows.canonical : {α : Type} → {shape : Shape α} → {grammar : Grammar} →
    shape.Legible → shape.Follows grammar → ∀ value, Canonical grammar (shape.write value)
  | _, .text, _, _, _, value => .text value
  | _, .address, _, _, _, value => .text value.toText
  | _, .boolean, _, _, _, value => .boolean value
  | _, @Shape.integer _ _, _, _, _, value => .integer (MachineInteger.toInt value)
  | _, @Shape.keyword _ _, _, _, _, value => .text (Keyword.word value)
  | _, .option _, _, _, _, none => .null
  | _, .option inner, _, legible, follows, some value => by
    obtain ⟨own, rfl, follows⟩ := follows
    exact (Shape.Follows.canonical legible.2 follows value).given
  | _, .list item, _, legible, follows, values => by
    obtain ⟨own, rfl, follows⟩ := follows
    have legible : item.Legible := legible
    refine .list (List.forall_mem_map.mpr fun value _ => ?_)
    exact Shape.Follows.canonical legible follows value
  | _, .record _ fields, _, legible, follows, values => by
    obtain ⟨members, rfl, follows⟩ := follows
    exact .record (follows.keys values) (Fields.Follows.exists_member legible.2 follows values)
  | _, .refine form accept toForm undo, _, legible, follows, value => by
    rcases follows with ⟨follows, -⟩ | ⟨choices, rfl, admitted⟩
    · have legible : form.Legible := legible
      exact Shape.Follows.canonical legible follows (toForm value)
    · have read : (Shape.refine form accept toForm undo).ofValue (form.write (toForm value)) =
          .ok value := Shape.ofValue_write legible value
      obtain ⟨number, -, written⟩ := (admitted _).mp ⟨value, read⟩
      rw [Shape.write, written]
      exact .integer number

/-- Each entry that fields write is for a member of the record, and what it gives is canonical. -/
theorem Fields.Follows.exists_member : {β σ : Type} → {fields : Fields β σ} →
    {members : List Member} → fields.Legible → fields.Follows members → ∀ values,
    ∀ entry ∈ fields.write values, ∃ member ∈ members,
      member.field.accepts entry.1 = true ∧ Canonical member.grammar entry.2
  | _, _, .nil, _, _, _, _ => by simp [Fields.write]
  | _, _, .required _ _ _, _, legible, follows, (value, values) => by
    obtain ⟨grammar, others, rfl, follows, later⟩ := follows
    exact exists_member_of_cons (Shape.Follows.canonical legible.1 follows value)
      (Fields.Follows.exists_member legible.2 later values)
  | _, _, .defaulted _ _ _ _, _, legible, follows, (value, values) => by
    obtain ⟨grammar, others, rfl, follows, -, later⟩ := follows
    exact exists_member_of_cons (Shape.Follows.canonical legible.1 follows value)
      (Fields.Follows.exists_member legible.2 later values)
  | _, _, .sparse _ _ _, _, legible, follows, (none, values) => by
    obtain ⟨grammar, others, rfl, follows, later⟩ := follows
    intro entry listed
    obtain ⟨member, among, own⟩ :=
      Fields.Follows.exists_member legible.2.2 later values entry listed
    exact ⟨member, List.mem_cons_of_mem _ among, own⟩
  | _, _, .sparse _ _ _, _, legible, follows, (some value, values) => by
    obtain ⟨grammar, others, rfl, follows, later⟩ := follows
    exact exists_member_of_cons (Shape.Follows.canonical legible.2.1 follows value).given
      (Fields.Follows.exists_member legible.2.2 later values)

end

/-- A shape whose values are written so that nothing is lost: each is read back as it was, no two
are written alike, and what is written is canonical. -/
structure Shape.Faithful {α : Type} (shape : Shape α) (grammar : Grammar) : Prop where
  /-- What is written of a value is read back as that value. -/
  reads_back : ∀ value, shape.ofValue (shape.write value) = .ok value
  /-- Different values are written differently. -/
  distinct : ∀ value other, value ≠ other → shape.write value ≠ shape.write other
  /-- What is written is canonical. -/
  canonical : ∀ value, Canonical grammar (shape.write value)

/-- A legible shape writes its values faithfully in the grammar that it follows. -/
theorem Shape.Follows.faithful {α : Type} {shape : Shape α} {grammar : Grammar}
    (legible : shape.Legible) (follows : shape.Follows grammar) : shape.Faithful grammar where
  reads_back := shape.ofValue_write legible
  distinct _ _ different := (shape.write_injective legible).ne different
  canonical := Shape.Follows.canonical legible follows

end Schema

end RunningConfig
