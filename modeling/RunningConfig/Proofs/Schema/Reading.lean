import RunningConfig.Proofs.Address
import RunningConfig.Proofs.Outcome
import RunningConfig.Schema.Shape
/-!
# What is written is read back

A source sees what a value shows it: text where a text stands, the items of a list, the entries of
an object. From any such source a legible shape reads back the value that it wrote. The proof goes
over the shape; for a record it goes over the fields, each of which finds its own entry because no
other field accepts its name.
-/

namespace RunningConfig

namespace MachineInteger

/-- A type of integers that 64 bits hold, whether with a sign or without. -/
def Bounded (α : Type) [MachineInteger α] : Prop :=
  -0x8000000000000000 < lowest α ∧ highest α < 0x8000000000000000

instance (α : Type) [MachineInteger α] : Decidable (Bounded α) :=
  inferInstanceAs (Decidable (_ ∧ _))

/-- What a bounded type holds is short of 64 bits. -/
theorem Bounded.natAbs_lt {α : Type} [MachineInteger α] (bounded : Bounded α) (value : α) :
    (toInt value).natAbs < 0x8000000000000000 := by
  obtain ⟨above, below⟩ := toInt_mem value
  obtain ⟨low, high⟩ := bounded
  omega

end MachineInteger

namespace Schema

/-- A source that reads what nodes show: `shows` says which values a node shows, `names` which text
the key of an entry holds. -/
structure Source.Sees {ν : Type} (source : Source ν) (names : String → ν → Prop)
    (shows : Value → ν → Prop) : Prop where
  /-- The key of an entry is read as its name. -/
  name {α : Type} {text expected : String} {parse : String → Except Cause α} {value : α}
      {node : ν} :
    names text node → parse text = .ok value → source.text expected parse node = .ok value
  /-- Text is read by what parses it. -/
  text {α : Type} {text expected : String} {parse : String → Except Cause α} {value : α}
      {node : ν} :
    shows (.text text) node → parse text = .ok value → source.text expected parse node = .ok value
  /-- A keyword is read by what chooses it. -/
  keyword {α : Type} {word : String} {choose : String → Except Cause α} {choice : α} {node : ν} :
    shows (.text word) node → choose word = .ok choice → source.keyword choose node = .ok choice
  /-- A truth value is read. -/
  boolean {value : Bool} {node : ν} :
    shows (.boolean value) node → source.boolean node = .ok value
  /-- An integer of a bounded type is read. -/
  integer {α : Type} [MachineInteger α] {value : α} {node : ν} : MachineInteger.Bounded α →
    shows (.integer (MachineInteger.toInt value)) node → source.integer α node = .ok value
  /-- Nothing is read where null is shown. -/
  unset {node : ν} : shows .null node → source.optional node = .ok none
  /-- The node itself is read on where anything else is shown. -/
  given {value : Value} {node : ν} :
    shows value node → value ≠ .null → source.optional node = .ok (some node)
  /-- Nodes are read that show the items of a list. -/
  items {values : List Value} {node : ν} : shows (.list values) node →
    ∃ nodes, source.items node = .ok nodes ∧ List.Forall₂ shows values nodes
  /-- Keys and nodes are read that show the entries of an object. -/
  entries {name : String} {values : List (String × Value)} {node : ν} :
    shows (.object values) node → ∃ pairs, source.entries name node = .ok pairs ∧
      List.Forall₂ (fun entry pair => names entry.1 pair.1 ∧ shows entry.2 pair.2) values pairs
  /-- A value that has been read stays as it is. -/
  within {α : Type} {value : α} {node : ν} : source.within node (.ok value) = .ok value

/-- A shape that may write a value as nothing. -/
def Shape.nullable : {α : Type} → Shape α → Bool
  | _, .option _ => true
  | _, .refine form _ _ _ => form.nullable
  | _, _ => false

/-- A shape that is not nullable writes something. -/
theorem Shape.write_ne_null : {α : Type} → (shape : Shape α) → shape.nullable = false →
    (value : α) → shape.write value ≠ .null
  | _, .text, _, _ => by simp [write]
  | _, .address, _, _ => by simp [write]
  | _, .boolean, _, _ => by simp [write]
  | _, @Shape.integer _ _, _, _ => by simp [write]
  | _, @Shape.keyword _ _, _, _ => by simp [write]
  | _, .list _, _, _ => by simp [write]
  | _, .record _ _, _, _ => by simp [write]
  | _, .refine form _ toForm _, definite, value => by
    rw [write]
    exact form.write_ne_null definite (toForm value)

mutual

/-- A shape of which every written value reads back: its integers are bounded, what is optional is
not nullable itself, and no name is accepted twice in a record. -/
def Shape.Legible : {α : Type} → Shape α → Prop
  | _, .text => True
  | _, .address => True
  | _, .boolean => True
  | _, @Shape.integer α _ => MachineInteger.Bounded α
  | _, @Shape.keyword _ _ => True
  | _, .option inner => inner.nullable = false ∧ inner.Legible
  | _, .list item => item.Legible
  | _, .record _ fields => fields.candidates.Nodup ∧ fields.Legible
  | _, .refine form _ _ _ => form.Legible

/-- Fields of which every written value reads back. -/
def Fields.Legible : {β σ : Type} → Fields β σ → Prop
  | _, _, .nil => True
  | _, _, .required _ shape rest => shape.Legible ∧ rest.Legible
  | _, _, .defaulted _ shape _ rest => shape.Legible ∧ rest.Legible
  | _, _, .sparse _ shape rest => shape.nullable = false ∧ shape.Legible ∧ rest.Legible

end

/-! ## Filling slots -/

/-- A field accepts the names that it is a candidate for. -/
theorem FieldName.accepts_iff {field : FieldName} {name : String} :
    field.accepts name = true ↔ name ∈ field.candidates := by
  obtain ⟨canonical, also⟩ := field
  cases also with
  | none => simp [accepts, candidates]
  | some other =>
    simp only [accepts, candidates, Bool.or_eq_true, decide_eq_true_eq, Option.some.injEq,
      Option.toList_some, List.cons_append, List.nil_append, List.mem_cons, List.not_mem_nil,
      or_false]
    rw [or_comm, eq_comm (a := other)]

/-- A field accepts its own name. -/
theorem FieldName.accepts_name (field : FieldName) : field.accepts field.name = true := by
  simp [accepts]

/-- A slot is that of the first field, or one behind it. -/
theorem mem_of_slot {ν α σ : Type} {field : FieldName} {name : String} {others : List String}
    {first update : ν → α × σ → Read (α × σ)} {later : Option (ν → σ → Read σ)}
    (found : (if field.accepts name then some first else later.map behind) = some update)
    (among : ∀ update, later = some update → name ∈ others) :
    name ∈ field.candidates ++ others := by
  split at found
  case isTrue accepted => exact List.mem_append_left _ (FieldName.accepts_iff.mp accepted)
  case isFalse =>
    obtain ⟨update, found, -⟩ := Option.map_eq_some_iff.mp found
    exact List.mem_append_right _ (among update found)

/-- Only candidates have slots. -/
theorem Fields.mem_candidates {ν : Type} {source : Source ν} :
    {β σ : Type} → {fields : Fields β σ} → {name : String} → {update : ν → σ → Read σ} →
    fields.slot? source name = some update → name ∈ fields.candidates
  | _, _, .nil, _, _, found => by simp [slot?] at found
  | _, _, .required _ _ _, _, _, found => by
    rw [slot?] at found
    exact mem_of_slot found fun _ => mem_candidates
  | _, _, .defaulted _ _ _ _, _, _, found => by
    rw [slot?] at found
    exact mem_of_slot found fun _ => mem_candidates
  | _, _, .sparse _ _ _, _, _, found => by
    rw [slot?] at found
    exact mem_of_slot found fun _ => mem_candidates

/-- The entries of a record fill its slots one after the other. -/
inductive Fills {ν σ : Type} (names : String → ν → Prop)
    (slot? : String → Option (ν → σ → Read σ)) : List (ν × ν) → σ → σ → Prop where
  /-- Without entries the slots stay as they are. -/
  | nil (slots : σ) : Fills names slot? [] slots slots
  /-- The first entry fills the slot of its name, the others what is then left. -/
  | cons {name : String} {key node : ν} {rest : List (ν × ν)} {update : ν → σ → Read σ}
      {before between after : σ} (named : names name key) (found : slot? name = some update)
      (updated : update node before = .ok between) (others : Fills names slot? rest between after) :
      Fills names slot? ((key, node) :: rest) before after

/-- Entries that fill the slots are read into them. -/
theorem Fills.readEntries {ν σ : Type} {source : Source ν} {names : String → ν → Prop}
    {shows : Value → ν → Prop} (sees : source.Sees names shows) {candidates : List String}
    {slot? : String → Option (ν → σ → Read σ)} {entries : List (ν × ν)} {before after : σ}
    (fills : Fills names slot? entries before after) :
    Schema.readEntries source candidates slot? entries before = .ok after := by
  induction fills with
  | nil => rfl
  | @cons name key node rest update before between after named found updated _ ih =>
    rw [Schema.readEntries, @Source.Sees.name _ _ _ _ sees _ _ _ _ update _ named (?_)]
    · simp only [bind, Except.bind, updated, ih]
    · simp only [found]

/-- Slots behind a field are filled by entries that the field does not accept. -/
theorem Fills.behind {ν τ σ : Type} {names : String → ν → Prop} {field : FieldName}
    {first : ν → τ × σ → Read (τ × σ)} {later : String → Option (ν → σ → Read σ)}
    {entries : List (ν × ν)} {before after : σ} (fills : Fills names later entries before after)
    (apart : ∀ {name update}, later name = some update → field.accepts name = false) (slot : τ) :
    Fills names (fun name => if field.accepts name then some first
      else (later name).map Schema.behind) entries (slot, before) (slot, after) := by
  induction fills with
  | nil => exact .nil _
  | @cons name key node rest update before between after named found updated _ ih =>
    have located : (if field.accepts name then some first else (later name).map Schema.behind) =
        some (Schema.behind update) := by
      rw [apart found, found]
      rfl
    have filled : Schema.behind update node (slot, before) = .ok (slot, between) := by
      rw [Schema.behind, updated]
      rfl
    exact .cons named located filled ih

/-! ## Reading back -/

/-- An entry fills the open slot of its field. -/
theorem fill_eq {ν α σ : Type} {field : FieldName} {read : ν → Read α} {node : ν} {value : α}
    {rest : σ} (reads : read node = .ok value) :
    fill field read node (none, rest) = .ok (some value, rest) := by
  simp only [fill, reads]
  rfl

/-- The names behind a field are not its own. -/
theorem accepts_eq_false {ν β σ : Type} {source : Source ν} {field : FieldName} {rest : Fields β σ}
    (distinct : (field.candidates ++ rest.candidates).Nodup) {name : String}
    {update : ν → σ → Read σ} (found : rest.slot? source name = some update) :
    field.accepts name = false := by
  rw [← Bool.not_eq_true, FieldName.accepts_iff]
  intro own
  exact (List.nodup_append.mp distinct).2.2 name own name (Fields.mem_candidates found) rfl

/-- The entry of a field fills its slot, and the entries after it the slots behind. -/
theorem Fills.field {ν α β σ : Type} {source : Source ν} {names : String → ν → Prop}
    {field : FieldName} {rest : Fields β σ} {read : ν → Read α} {key node : ν} {value : α}
    {entries : List (ν × ν)} {slots : σ} (distinct : (field.candidates ++ rest.candidates).Nodup)
    (named : names field.name key) (reads : read node = .ok value)
    (others : Fills names (rest.slot? source) entries rest.unread slots) :
    Fills names (fun name => if field.accepts name then some (fill field read)
      else (rest.slot? source name).map Schema.behind) ((key, node) :: entries)
      (none, rest.unread) (some value, slots) :=
  .cons named (by rw [if_pos field.accepts_name]) (fill_eq reads)
    (others.behind (accepts_eq_false distinct) (some value))

section

variable {ν : Type} {source : Source ν} {names : String → ν → Prop} {shows : Value → ν → Prop}

mutual

/-- What a legible shape writes is read back from any node that shows it. -/
theorem Shape.read_write (sees : source.Sees names shows) : {α : Type} → (shape : Shape α) →
    shape.Legible → (value : α) → {node : ν} → shows (shape.write value) node →
    shape.read source node = .ok value
  | _, .text, _, value, node, shown => by
    rw [Shape.read]
    exact sees.text shown rfl
  | _, .address, _, value, node, shown => by
    rw [Shape.read]
    exact sees.text shown (by rw [Address.ofText?_toText])
  | _, .boolean, _, value, node, shown => by
    rw [Shape.read]
    exact sees.boolean shown
  | _, @Shape.integer _ _, bounded, value, node, shown => by
    rw [Shape.read]
    exact sees.integer bounded shown
  | _, @Shape.keyword _ _, _, value, node, shown => by
    rw [Shape.read]
    exact sees.keyword shown (by rw [Keyword.ofWord?_word])
  | _, .option inner, _, none, node, shown => by
    rw [Shape.read, sees.unset shown]
    rfl
  | _, .option inner, legible, some value, node, shown => by
    rw [Shape.Legible] at legible
    obtain ⟨definite, legible⟩ := legible
    have reads := inner.read_write sees legible value shown
    rw [Shape.read, sees.given shown (inner.write_ne_null definite value)]
    simp only [bind, Except.bind, reads]
    rfl
  | _, .list item, legible, values, node, shown => by
    obtain ⟨nodes, items, related⟩ := sees.items shown
    have each := (List.forall₂_map_left_iff.mp related).imp fun value _ shown =>
      item.read_write sees legible value shown
    have reads := mapM_eq_ok_iff.mpr each.flip
    rw [Shape.read, items]
    simp only [bind, Except.bind, reads]
    exact sees.within
  | _, .record name fields, legible, values, node, shown => by
    rw [Shape.Legible] at legible
    obtain ⟨distinct, legible⟩ := legible
    obtain ⟨pairs, entries, related⟩ := sees.entries shown
    obtain ⟨slots, fills, complete⟩ := fields.fills_write sees distinct legible values related
    rw [Shape.read, entries]
    simp only [bind, Except.bind, fills.readEntries sees, complete]
    exact sees.within
  | _, .refine form accept toForm accept_toForm, legible, value, node, shown => by
    have reads := form.read_write sees legible (toForm value) shown
    rw [Shape.read, reads]
    simp only [bind, Except.bind, accept_toForm]
    rfl

/-- What the fields of a record write fills their slots, and these are complete. -/
theorem Fields.fills_write (sees : source.Sees names shows) : {β σ : Type} →
    (fields : Fields β σ) → fields.candidates.Nodup → fields.Legible → (values : β) →
    {pairs : List (ν × ν)} →
    List.Forall₂ (fun entry pair => names entry.1 pair.1 ∧ shows entry.2 pair.2)
      (fields.write values) pairs →
    ∃ slots, Fills names (fields.slot? source) pairs fields.unread slots ∧
      fields.complete slots = .ok values
  | _, _, .nil, _, _, _, _, related => by
    cases related
    exact ⟨(), .nil (), rfl⟩
  | _, _, .required field shape rest, distinct, legible, (value, values), pairs, related => by
    rw [Fields.Legible] at legible
    rw [Fields.candidates] at distinct
    rw [Fields.write] at related
    cases related with
    | cons entry related =>
      obtain ⟨slots, fills, complete⟩ := rest.fills_write sees (List.nodup_append.mp distinct).2.1
        legible.2 values related
      have reads := shape.read_write sees legible.1 value entry.2
      refine ⟨(some value, slots), ?_, ?_⟩
      · exact Fills.field distinct entry.1 reads fills
      · simp only [Fields.complete, complete]
        rfl
  | _, _, .defaulted field shape fallback rest, distinct, legible, (value, values), pairs,
      related => by
    rw [Fields.Legible] at legible
    rw [Fields.candidates] at distinct
    rw [Fields.write] at related
    cases related with
    | cons entry related =>
      obtain ⟨slots, fills, complete⟩ := rest.fills_write sees (List.nodup_append.mp distinct).2.1
        legible.2 values related
      have reads := shape.read_write sees legible.1 value entry.2
      refine ⟨(some value, slots), ?_, ?_⟩
      · exact Fills.field distinct entry.1 reads fills
      · simp only [Fields.complete, complete]
        rfl
  | _, _, .sparse field shape rest, distinct, legible, (none, values), pairs, related => by
    rw [Fields.Legible] at legible
    rw [Fields.candidates] at distinct
    obtain ⟨slots, fills, complete⟩ := rest.fills_write sees (List.nodup_append.mp distinct).2.1
      legible.2.2 values related
    refine ⟨(none, slots), ?_, ?_⟩
    · exact fills.behind (accepts_eq_false distinct) none
    · simp only [Fields.complete, complete]
      rfl
  | _, _, .sparse field shape rest, distinct, legible, (some value, values), pairs, related => by
    rw [Fields.Legible] at legible
    rw [Fields.candidates] at distinct
    rw [Fields.write] at related
    cases related with
    | cons entry related =>
      obtain ⟨slots, fills, complete⟩ := rest.fills_write sees (List.nodup_append.mp distinct).2.1
        legible.2.2 values related
      have reads := shape.read_write sees legible.2.1 value entry.2
      have given := sees.given entry.2 (shape.write_ne_null legible.1 value)
      refine ⟨(some (some value), slots), ?_, ?_⟩
      · refine Fills.field distinct entry.1 ?_ fills
        simp only [given, bind, Except.bind, reads]
        rfl
      · simp only [Fields.complete, complete]
        rfl

end

end

end Schema

end RunningConfig
