import RunningConfig.Proofs.Outcome
import RunningConfig.Proofs.Schema.Reading
import RunningConfig.Schema.Model
/-!
# What a record that is read says of its entries

The reader of a record goes over the entries once and fills the slot of the field that each is for.
When it succeeds, every field holds what the one entry for it reads as, or its default when there is
none. One entry moves one slot (`Fields.moves_of_slot`), a run of entries moves each slot at most
once (`Fields.moves_of_readEntries`), and what is in the slots at the end are the values of the
fields (`Fields.holds_of_moves`).
-/

namespace RunningConfig

/-- A text is read as what it is parsed as. -/
theorem Value.text_eq_ok {α : Type} {expected text : String}
    {parse : String → Except Schema.Cause α} {result : α} :
    source.text expected parse (.text text) = .ok result ↔ parse text = .ok result := by
  change accept (parse text) = .ok result ↔ _
  cases parse text <;> simp [accept]

/-- A word is read as what it is chosen as. -/
theorem Value.keyword_eq_ok {α : Type} {word : String} {choose : String → Except Schema.Cause α}
    {result : α} : source.keyword choose (.text word) = .ok result ↔ choose word = .ok result := by
  change accept (choose word) = .ok result ↔ _
  cases choose word <;> simp [accept]

namespace Schema

variable {α β σ : Type}

/-- What a field is given in some entries: the value of the first one that it accepts. -/
def FieldName.given (field : FieldName) (entries : List (String × Value)) : Option Value :=
  (entries.find? fun entry => field.accepts entry.1).map Prod.snd

/-- What a field holds after some entries have been read: what it is given, or what stands for a
missing entry. -/
def Held (field : FieldName) (read : Value → Read α) (missing : α)
    (entries : List (String × Value)) (value : α) : Prop :=
  match field.given entries with
  | some node => read node = .ok value
  | none => value = missing

/-- The values that fields hold after some entries have been read. -/
def Fields.Holds : {β σ : Type} → Fields β σ → List (String × Value) → β → Prop
  | _, _, .nil, _, _ => True
  | _, _, .required field shape rest, entries, (value, values) =>
    (∃ node, field.given entries = some node ∧ shape.ofValue node = .ok value) ∧
      rest.Holds entries values
  | _, _, .defaulted field shape fallback rest, entries, (value, values) =>
    Held field shape.ofValue fallback entries value ∧ rest.Holds entries values
  | _, _, .sparse field shape rest, entries, (value, values) =>
    Held field shape.option.ofValue none entries value ∧ rest.Holds entries values

/-! ## One slot -/

/-- How entries move the slot of a field: not at all when none is for the field, else from open to
what one of them reads as. -/
def Moves (field : FieldName) (read : Value → Read α) (entries : List (String × Value))
    (before after : Option α) : Prop :=
  match field.given entries with
  | none => after = before
  | some node => before = none ∧ ∃ value, read node = .ok value ∧ after = some value

section Moves

variable {field : FieldName} {read : Value → Read α} {before between after : Option α}

/-- An entry that the field accepts fills its slot. -/
theorem moves_of_accepts {name : String} {node : Value} {value : α}
    (accepted : field.accepts name = true) (found : read node = .ok value) :
    Moves field read [(name, node)] none (some value) := by
  have given : field.given [(name, node)] = some node := by
    simp [FieldName.given, accepted]
  rw [Moves, given]
  exact ⟨rfl, value, found, rfl⟩

/-- An entry that the field does not accept leaves its slot alone. -/
theorem moves_of_not_accepts {name : String} (node : Value) (slot : Option α)
    (refused : field.accepts name = false) : Moves field read [(name, node)] slot slot := by
  have given : field.given [(name, node)] = none := by
    simp [FieldName.given, refused]
  simp only [Moves, given]

/-- An entry and then others move a slot as all of them do. -/
theorem Moves.trans {entry : String × Value} {entries : List (String × Value)}
    (first : Moves field read [entry] before between)
    (later : Moves field read entries between after) :
    Moves field read (entry :: entries) before after := by
  cases accepted : field.accepts entry.1 with
  | false =>
    have alone : field.given [entry] = none := by simp [FieldName.given, accepted]
    have given : field.given (entry :: entries) = field.given entries := by
      simp [FieldName.given, accepted]
    simp only [Moves, alone] at first
    obtain rfl := first
    simpa only [Moves, given] using later
  | true =>
    have alone : field.given [entry] = some entry.2 := by simp [FieldName.given, accepted]
    have given : field.given (entry :: entries) = some entry.2 := by
      simp [FieldName.given, accepted]
    simp only [Moves, alone] at first
    obtain ⟨opened, value, found, rfl⟩ := first
    -- The slot is filled now, so no later entry can be for this field.
    have filled : after = some value := by
      unfold Moves at later
      split at later
      · exact later
      · exact absurd later.1 (by simp)
    simp only [Moves, given]
    exact ⟨opened, value, found, filled⟩

end Moves

/-! ## All slots -/

/-- How entries move the slots of all fields. -/
def Fields.Moves : {β σ : Type} → Fields β σ → List (String × Value) → σ → σ → Prop
  | _, _, .nil, _, _, _ => True
  | _, _, .required field shape rest, entries, before, after =>
    Schema.Moves field shape.ofValue entries before.1 after.1 ∧
      rest.Moves entries before.2 after.2
  | _, _, .defaulted field shape _ rest, entries, before, after =>
    Schema.Moves field shape.ofValue entries before.1 after.1 ∧
      rest.Moves entries before.2 after.2
  | _, _, .sparse field shape rest, entries, before, after =>
    Schema.Moves field shape.option.ofValue entries before.1 after.1 ∧
      rest.Moves entries before.2 after.2

/-- No entry moves no slot. -/
theorem Fields.moves_nil : {β σ : Type} → (fields : Fields β σ) → (slots : σ) →
    fields.Moves [] slots slots
  | _, _, .nil, _ => trivial
  | _, _, .required _ _ rest, slots => ⟨rfl, rest.moves_nil slots.2⟩
  | _, _, .defaulted _ _ _ rest, slots => ⟨rfl, rest.moves_nil slots.2⟩
  | _, _, .sparse _ _ rest, slots => ⟨rfl, rest.moves_nil slots.2⟩

/-- An entry and then others move the slots as all of them do. -/
theorem Fields.moves_cons {entry : String × Value} {entries : List (String × Value)} :
    {β σ : Type} → (fields : Fields β σ) → {before between after : σ} →
    fields.Moves [entry] before between → fields.Moves entries between after →
    fields.Moves (entry :: entries) before after
  | _, _, .nil, _, _, _, _, _ => trivial
  | _, _, .required _ _ rest, _, _, _, first, later => by
    obtain ⟨first, others⟩ := first
    obtain ⟨later, remaining⟩ := later
    exact ⟨first.trans later, rest.moves_cons others remaining⟩
  | _, _, .defaulted _ _ _ rest, _, _, _, first, later => by
    obtain ⟨first, others⟩ := first
    obtain ⟨later, remaining⟩ := later
    exact ⟨first.trans later, rest.moves_cons others remaining⟩
  | _, _, .sparse _ _ rest, _, _, _, first, later => by
    obtain ⟨first, others⟩ := first
    obtain ⟨later, remaining⟩ := later
    exact ⟨first.trans later, rest.moves_cons others remaining⟩

/-- A field does not accept a name that it is no candidate for. -/
theorem FieldName.accepts_eq_false {field : FieldName} {name : String}
    (other : name ∉ field.candidates) : field.accepts name = false := by
  rw [← Bool.not_eq_true, accepts_iff]
  exact other

/-- An entry that is for no field moves no slot. -/
theorem Fields.moves_of_not_mem {name : String} (node : Value) : {β σ : Type} →
    (fields : Fields β σ) → name ∉ fields.candidates → (slots : σ) →
    fields.Moves [(name, node)] slots slots
  | _, _, .nil, _, _ => trivial
  | _, _, .required field _ rest, other, slots => by
    obtain ⟨first, others⟩ := not_or.mp (mt List.mem_append.mpr other)
    exact ⟨moves_of_not_accepts node slots.1 (FieldName.accepts_eq_false first),
      rest.moves_of_not_mem node others slots.2⟩
  | _, _, .defaulted field _ _ rest, other, slots => by
    obtain ⟨first, others⟩ := not_or.mp (mt List.mem_append.mpr other)
    exact ⟨moves_of_not_accepts node slots.1 (FieldName.accepts_eq_false first),
      rest.moves_of_not_mem node others slots.2⟩
  | _, _, .sparse field _ rest, other, slots => by
    obtain ⟨first, others⟩ := not_or.mp (mt List.mem_append.mpr other)
    exact ⟨moves_of_not_accepts node slots.1 (FieldName.accepts_eq_false first),
      rest.moves_of_not_mem node others slots.2⟩

/-- Filling the slot of a field reads its value, and the slot was open. -/
theorem fill_eq_ok {field : FieldName} {read : Value → Read α} {node : Value}
    {before after : Option α × σ} (filled : fill field read node before = .ok after) :
    ∃ value, read node = .ok value ∧ before.1 = none ∧ after = (some value, before.2) := by
  obtain ⟨slot, slots⟩ := before
  cases slot with
  | some value => simp [fill] at filled
  | none =>
    obtain ⟨value, found, same⟩ := bind_eq_ok.mp filled
    exact ⟨value, found, rfl, (pure_eq_ok.mp same).symm⟩

/-- An entry moves the slot of the field that accepts its name, or one behind it. -/
theorem moves_of_field {field : FieldName} {read : Value → Read α} {rest : Fields β σ}
    {name : String} {node : Value} {update : Value → Option α × σ → Read (Option α × σ)}
    {before after : Option α × σ} (distinct : (field.candidates ++ rest.candidates).Nodup)
    (found : (if field.accepts name then some (fill field read)
      else (rest.slot? Value.source name).map behind) = some update)
    (moved : update node before = .ok after)
    (later : ∀ {move}, rest.slot? Value.source name = some move →
      move node before.2 = .ok after.2 → rest.Moves [(name, node)] before.2 after.2) :
    Schema.Moves field read [(name, node)] before.1 after.1 ∧
      rest.Moves [(name, node)] before.2 after.2 := by
  cases accepted : field.accepts name with
  | true =>
    rw [accepted, if_pos rfl] at found
    obtain rfl := Option.some.inj found
    obtain ⟨value, found, opened, rfl⟩ := fill_eq_ok moved
    have other : name ∉ rest.candidates := fun member =>
      (List.nodup_append.mp distinct).2.2 name (FieldName.accepts_iff.mp accepted) name member rfl
    rw [opened]
    exact ⟨moves_of_accepts accepted found, rest.moves_of_not_mem node other before.2⟩
  | false =>
    rw [accepted, if_neg Bool.false_ne_true] at found
    obtain ⟨move, behindFound, rfl⟩ := Option.map_eq_some_iff.mp found
    obtain ⟨slots, movedBehind, same⟩ := bind_eq_ok.mp moved
    obtain rfl := pure_eq_ok.mp same
    exact ⟨moves_of_not_accepts node before.1 accepted, later behindFound movedBehind⟩

/-- The slot of an entry moves as the entry says. -/
theorem Fields.moves_of_slot {name : String} {node : Value} : {β σ : Type} →
    (fields : Fields β σ) → fields.candidates.Nodup → {move : Value → σ → Read σ} →
    {before after : σ} → fields.slot? Value.source name = some move →
    move node before = .ok after → fields.Moves [(name, node)] before after
  | _, _, .nil, _, _, _, _, _, _ => trivial
  | _, _, .required _ _ rest, distinct, _, _, _, found, moved =>
    moves_of_field distinct found moved
      (rest.moves_of_slot (List.nodup_append.mp distinct).2.1)
  | _, _, .defaulted _ _ _ rest, distinct, _, _, _, found, moved =>
    moves_of_field distinct found moved
      (rest.moves_of_slot (List.nodup_append.mp distinct).2.1)
  | _, _, .sparse _ _ rest, distinct, _, _, _, found, moved =>
    moves_of_field distinct found moved
      (rest.moves_of_slot (List.nodup_append.mp distinct).2.1)

/-- Entries that are read one after the other move the slots. -/
theorem Fields.moves_of_readEntries (fields : Fields β σ) (distinct : fields.candidates.Nodup)
    {candidates : List String} {entries : List (String × Value)} {before after : σ}
    (read : readEntries Value.source candidates (fields.slot? Value.source)
      (entries.map fun (key, value) => (.text key, value)) before = .ok after) :
    fields.Moves entries before after := by
  induction entries generalizing before with
  | nil =>
    obtain rfl := Except.ok.inj read
    exact fields.moves_nil before
  | cons entry entries ih =>
    obtain ⟨name, node⟩ := entry
    obtain ⟨move, looked, read⟩ := bind_eq_ok.mp read
    obtain ⟨between, moved, read⟩ := bind_eq_ok.mp read
    have found : fields.slot? Value.source name = some move := by
      have parsed := Value.text_eq_ok.mp looked
      split at parsed
      case h_1 known => exact known.trans (congrArg some (Except.ok.inj parsed))
      case h_2 => contradiction
    exact fields.moves_cons (fields.moves_of_slot distinct found moved) (ih read)

/-- A slot that entries have moved from open holds what the field does. -/
theorem Moves.held {field : FieldName} {read : Value → Read α}
    {entries : List (String × Value)} {slot : Option α}
    (moved : Moves field read entries none slot) (missing : α) :
    Held field read missing entries (slot.getD missing) := by
  unfold Moves at moved
  unfold Held
  cases given : field.given entries with
  | none =>
    rw [given] at moved
    obtain rfl := moved
    rfl
  | some node =>
    rw [given] at moved
    obtain ⟨-, value, found, rfl⟩ := moved
    exact found

/-- What is in the slots after some entries are the values of the fields. -/
theorem Fields.holds_of_moves {entries : List (String × Value)} : {β σ : Type} →
    (fields : Fields β σ) → {slots : σ} → {values : β} → fields.Moves entries fields.unread slots →
    fields.complete slots = .ok values → fields.Holds entries values
  | _, _, .nil, _, _, _, _ => trivial
  | _, _, .required field shape rest, (slot, slots), (value, values), moved, completed => by
    obtain ⟨first, others⟩ := moved
    cases slot with
    | none => contradiction
    | some held =>
      obtain ⟨remaining, later, same⟩ := bind_eq_ok.mp completed
      obtain ⟨rfl, rfl⟩ := Prod.mk.inj (pure_eq_ok.mp same)
      refine ⟨?_, rest.holds_of_moves others later⟩
      unfold Schema.Moves at first
      split at first
      · contradiction
      case h_2 node given =>
        obtain ⟨-, value, found, same⟩ := first
        obtain rfl := Option.some.inj same
        exact ⟨node, given, found⟩
  | _, _, .defaulted field shape fallback rest, (slot, slots), (value, values), moved,
      completed => by
    obtain ⟨first, others⟩ := moved
    obtain ⟨remaining, later, same⟩ := bind_eq_ok.mp completed
    obtain ⟨rfl, rfl⟩ := Prod.mk.inj (pure_eq_ok.mp same)
    exact ⟨first.held fallback, rest.holds_of_moves others later⟩
  | _, _, .sparse field shape rest, (slot, slots), (value, values), moved, completed => by
    obtain ⟨first, others⟩ := moved
    obtain ⟨remaining, later, same⟩ := bind_eq_ok.mp completed
    obtain ⟨rfl, rfl⟩ := Prod.mk.inj (pure_eq_ok.mp same)
    have join : slot.join = slot.getD none := by cases slot <;> rfl
    rw [join]
    exact ⟨first.held none, rest.holds_of_moves others later⟩

/-! ## Records and what is made of them -/

/-- The entries that a record is read from: those of an object, none of nothing. -/
def entries? : Value → Option (List (String × Value))
  | .object entries => some entries
  | .null => some []
  | _ => none

/-- A record that is read holds in its fields what its entries say. -/
theorem Shape.holds_of_record {name : String} {fields : Fields β σ} {value : Value} {values : β}
    (distinct : fields.candidates.Nodup)
    (read : (Shape.record name fields).ofValue value = .ok values) :
    ∃ entries, entries? value = some entries ∧ fields.Holds entries values := by
  obtain ⟨pairs, listed, read⟩ := bind_eq_ok.mp read
  obtain ⟨slots, filled, completed⟩ := bind_eq_ok.mp read
  obtain ⟨entries, held, rfl⟩ : ∃ entries, entries? value = some entries ∧
      entries.map (fun (key, value) => (.text key, value)) = pairs := by
    cases value with
    | object entries => exact ⟨entries, rfl, Except.ok.inj listed⟩
    | null => exact ⟨[], rfl, Except.ok.inj listed⟩
    | _ => contradiction
  exact ⟨entries, held,
    fields.holds_of_moves (fields.moves_of_readEntries distinct filled) completed⟩

/-- A structure that is read is made of what the fields of its record hold. -/
theorem holds_of_structureShape {name : String} {fields : Fields β σ} {make : β → α} {parts : α → β}
    {make_parts : ∀ value, make (parts value) = value} {value : Value} {result : α}
    (distinct : fields.candidates.Nodup)
    (read : (structureShape name fields make parts make_parts).ofValue value = .ok result) :
    ∃ entries values, entries? value = some entries ∧ fields.Holds entries values ∧
      result = make values := by
  obtain ⟨values, read, made⟩ := bind_eq_ok.mp read
  obtain ⟨entries, held, holds⟩ := Shape.holds_of_record distinct read
  exact ⟨entries, values, held, holds, (pure_eq_ok.mp made).symm⟩

/-- A value that may be missing is read as nothing from nothing, else as what it is. -/
theorem Shape.ofValue_option {shape : Shape α} {value : Value} {result : Option α}
    (read : shape.option.ofValue value = .ok result) :
    value = .null ∧ result = none ∨
      value ≠ .null ∧ ∃ item, shape.ofValue value = .ok item ∧ result = some item := by
  cases value with
  | null => exact Or.inl ⟨rfl, (Except.ok.inj read).symm⟩
  | _ =>
    obtain ⟨node?, given, read⟩ := bind_eq_ok.mp read
    obtain rfl := Except.ok.inj given
    obtain ⟨item, read, same⟩ := bind_eq_ok.mp read
    exact Or.inr ⟨nofun, item, read, (pure_eq_ok.mp same).symm⟩

/-- A truth value is read from itself. -/
theorem Shape.ofValue_boolean {value : Value} {result : Bool}
    (read : Shape.boolean.ofValue value = .ok result) : value = .boolean result := by
  cases value with
  | boolean value => exact congrArg Value.boolean (Except.ok.inj read)
  | _ => contradiction

/-- A keyword is read from its word. -/
theorem Shape.ofValue_keyword [Keyword α] {value : Value} {result : α}
    (read : (Shape.keyword α).ofValue value = .ok result) :
    value = .text (Keyword.word result) := by
  cases value with
  | text word =>
    have chosen := Value.keyword_eq_ok.mp read
    split at chosen
    case h_1 found =>
      obtain rfl := Except.ok.inj chosen
      rw [Keyword.word_of_ofWord? found]
    case h_2 => contradiction
  | _ => contradiction

/-- An integer is read from itself. -/
theorem Shape.ofValue_integer [MachineInteger α] {value : Value} {result : α}
    (read : (Shape.integer α).ofValue value = .ok result) :
    ∃ number, value = .integer number ∧ MachineInteger.ofInt? number = some result := by
  cases value with
  | integer number =>
    refine ⟨number, rfl, ?_⟩
    cases held : (MachineInteger.ofInt? number : Option α) with
    | none =>
      have failed : (Shape.integer α).ofValue (.integer number) =
          .error { cause := .wrongValue (.integer number) (MachineInteger.name α) } := by
        simp only [ofValue, Shape.read, Value.source, held]
      rw [failed] at read
      contradiction
    | some other =>
      have same : (Shape.integer α).ofValue (.integer number) = .ok other := by
        simp only [ofValue, Shape.read, Value.source, held]
      rw [Except.ok.inj (same.symm.trans read)]
  | _ => contradiction

end Schema

end RunningConfig
