import RunningConfig.Proofs.Schema.Records
/-!
# Which entries a record is read from

A record is read from some entries exactly when every key is a name of one of its fields, no field
is given twice and every field holds what it is given (`Shape.ofValue_record`). What a successful
reading says is in part known from how it moves the slots. For the other direction the slots are
kept ready for the entries still to come: one entry finds its slot open and leaves the others ready
(`Fields.exists_of_ready`), so a run of entries is read (`Fields.readEntries_of_ready`), and what is
then in the slots are the values that the fields hold (`Fields.complete_of_holds`).
-/

namespace RunningConfig.Schema

variable {α β σ : Type}

/-! ## Entries for a field -/

namespace FieldName

variable {field : FieldName} {entries : List (String × Value)}

/-- How many entries are for a field. -/
def count (field : FieldName) (entries : List (String × Value)) : Nat :=
  entries.countP fun entry => field.accepts entry.1

/-- Nothing is given to a field exactly when no entry is for it. -/
theorem given_eq_none_iff :
    field.given entries = none ↔ ∀ entry ∈ entries, field.accepts entry.1 = false := by
  simp [given]

/-- No entry is for a field exactly when nothing is given to it. -/
theorem count_eq_zero_iff : field.count entries = 0 ↔ field.given entries = none := by
  rw [given_eq_none_iff, count, List.countP_eq_zero]
  simp

/-- What is given to a field is the value of an entry for it. -/
theorem exists_of_given {node : Value} (given : field.given entries = some node) :
    ∃ name, (name, node) ∈ entries ∧ field.accepts name = true := by
  obtain ⟨⟨name, _⟩, found, rfl⟩ := Option.map_eq_some_iff.mp given
  have accepted := List.find?_some found
  exact ⟨name, List.mem_of_find?_eq_some found, accepted⟩

/-- An entry for a field counts beside those around it. -/
theorem count_around {before after : List (String × Value)} {entry : String × Value}
    (accepted : field.accepts entry.1 = true) :
    field.count (before ++ entry :: after) = field.count (before ++ after) + 1 := by
  simp only [count, List.countP_append, List.countP_cons, accepted, if_pos]
  omega

/-- The only entry for a field gives it its value. -/
theorem given_eq_some {name : String} {node : Value} (once : field.count entries ≤ 1)
    (member : (name, node) ∈ entries) (accepted : field.accepts name = true) :
    field.given entries = some node := by
  obtain ⟨before, after, rfl⟩ := List.append_of_mem member
  have absent : field.count (before ++ after) = 0 := by
    rw [count_around accepted] at once
    omega
  have refused := given_eq_none_iff.mp (count_eq_zero_iff.mp absent)
  have nothing : before.find? (fun entry => field.accepts entry.1) = none :=
    List.find?_eq_none.mpr fun entry found => by simp [refused entry (List.mem_append_left _ found)]
  simp [given, List.find?_append, nothing, accepted]

end FieldName

/-- The names of the fields, in the order of declaration. -/
def Fields.names : {β σ : Type} → Fields β σ → List FieldName
  | _, _, .nil => []
  | _, _, .required field _ rest => field :: rest.names
  | _, _, .defaulted field _ _ rest => field :: rest.names
  | _, _, .sparse field _ rest => field :: rest.names

/-- The candidates are the names of the fields, one field after the other. -/
theorem Fields.candidates_eq : {β σ : Type} → (fields : Fields β σ) →
    fields.candidates = fields.names.flatMap FieldName.candidates
  | _, _, .nil => rfl
  | _, _, .required field _ rest => congrArg (field.candidates ++ ·) rest.candidates_eq
  | _, _, .defaulted field _ _ rest => congrArg (field.candidates ++ ·) rest.candidates_eq
  | _, _, .sparse field _ rest => congrArg (field.candidates ++ ·) rest.candidates_eq

/-- A candidate is a name that one of the fields accepts. -/
theorem Fields.mem_candidates_iff {fields : Fields β σ} {name : String} :
    name ∈ fields.candidates ↔ ∃ field ∈ fields.names, field.accepts name = true := by
  simp only [candidates_eq, List.mem_flatMap, FieldName.accepts_iff]

/-- Entries that fields with some names admit: every key is a name of a field, and no field is given
twice, be it under one name or under two. -/
structure Admits (names : List FieldName) (entries : List (String × Value)) : Prop where
  /-- Every key is a name of a field. -/
  known : ∀ entry ∈ entries, ∃ field ∈ names, field.accepts entry.1 = true
  /-- No field is given more than once. -/
  once : ∀ field ∈ names, field.count entries ≤ 1

/-! ## Entries that are read are admitted -/

/-- A slot that an entry has moved is moved by no later entry. -/
theorem Moves.given_eq_none {field : FieldName} {read : Value → Read α} {name : String}
    {node : Value} {entries : List (String × Value)} {before between after : Option α}
    (first : Moves field read [(name, node)] before between)
    (later : Moves field read entries between after) (accepted : field.accepts name = true) :
    field.given entries = none := by
  have alone : field.given [(name, node)] = some node := by simp [FieldName.given, accepted]
  rw [Moves, alone] at first
  obtain ⟨-, value, -, rfl⟩ := first
  unfold Moves at later
  split at later
  case h_1 none => exact none
  case h_2 => exact absurd later.1 (by simp)

/-- A field whose slot an entry has moved is given nothing later. -/
theorem Fields.given_eq_none_of_moves {name : String} {node : Value}
    {entries : List (String × Value)} : {β σ : Type} → (fields : Fields β σ) →
    {before between after : σ} → fields.Moves [(name, node)] before between →
    fields.Moves entries between after → ∀ field ∈ fields.names, field.accepts name = true →
    field.given entries = none
  | _, _, .nil, _, _, _, _, _ => by simp [names]
  | _, _, .required _ _ rest, _, _, _, first, later =>
    List.forall_mem_cons.mpr ⟨first.1.given_eq_none later.1,
      rest.given_eq_none_of_moves first.2 later.2⟩
  | _, _, .defaulted _ _ _ rest, _, _, _, first, later =>
    List.forall_mem_cons.mpr ⟨first.1.given_eq_none later.1,
      rest.given_eq_none_of_moves first.2 later.2⟩
  | _, _, .sparse _ _ rest, _, _, _, first, later =>
    List.forall_mem_cons.mpr ⟨first.1.given_eq_none later.1,
      rest.given_eq_none_of_moves first.2 later.2⟩

/-- Entries that are read one after the other are admitted. -/
theorem Fields.admits_of_readEntries (fields : Fields β σ) (distinct : fields.candidates.Nodup)
    {candidates : List String} {entries : List (String × Value)} {before after : σ}
    (read : readEntries Value.source candidates (fields.slot? Value.source)
      (entries.map fun (key, value) => (.text key, value)) before = .ok after) :
    Admits fields.names entries := by
  induction entries generalizing before with
  | nil => exact ⟨by simp, by simp [FieldName.count]⟩
  | cons entry entries ih =>
    obtain ⟨name, node⟩ := entry
    obtain ⟨move, looked, read⟩ := bind_eq_ok.mp read
    obtain ⟨between, moved, read⟩ := bind_eq_ok.mp read
    have found : fields.slot? Value.source name = some move := by
      have parsed := Value.text_eq_ok.mp looked
      split at parsed
      case h_1 known => exact known.trans (congrArg some (Except.ok.inj parsed))
      case h_2 => contradiction
    obtain ⟨known, once⟩ := ih read
    refine ⟨List.forall_mem_cons.mpr ⟨?_, known⟩, fun field member => ?_⟩
    · exact mem_candidates_iff.mp (mem_candidates found)
    · have earlier := once field member
      simp only [FieldName.count, List.countP_cons] at earlier ⊢
      split
      case isFalse => exact earlier
      case isTrue accepted =>
        have later := fields.given_eq_none_of_moves (fields.moves_of_slot distinct found moved)
          (fields.moves_of_readEntries distinct read) field member accepted
        have none := FieldName.count_eq_zero_iff.mpr later
        simp only [FieldName.count] at none
        omega

/-! ## Admitted entries are read -/

/-- A slot that is ready for some entries: at most one of them is for its field, and then the slot
is open and the entry reads. -/
structure Ready (field : FieldName) (read : Value → Read α) (entries : List (String × Value))
    (slot : Option α) : Prop where
  /-- At most one of the entries is for the field. -/
  once : field.count entries ≤ 1
  /-- The entry for the field finds the slot open and reads. -/
  takes : ∀ node, field.given entries = some node → slot = none ∧ ∃ value, read node = .ok value

section Ready

variable {field : FieldName} {read : Value → Read α} {name : String} {node : Value}
  {entries : List (String × Value)} {slot : Option α}

/-- An entry for a field fills its slot, which is then ready for the entries behind. -/
theorem Ready.filled (ready : Ready field read ((name, node) :: entries) slot)
    (accepted : field.accepts name = true) (slots : σ) :
    ∃ value, fill field read node (slot, slots) = .ok (some value, slots) ∧
      Ready field read entries (some value) := by
  obtain ⟨once, takes⟩ := ready
  have given : field.given ((name, node) :: entries) = some node := by
    simp [FieldName.given, accepted]
  obtain ⟨rfl, value, reads⟩ := takes node given
  have absent : field.count entries = 0 := by
    have counted : field.count ((name, node) :: entries) = field.count entries + 1 :=
      List.countP_cons_of_pos accepted
    omega
  refine ⟨value, fill_eq reads, ?_, ?_⟩
  · omega
  · intro node given
    rw [FieldName.count_eq_zero_iff.mp absent] at given
    contradiction

/-- An entry for another field leaves a slot ready. -/
theorem Ready.kept (ready : Ready field read ((name, node) :: entries) slot)
    (refused : field.accepts name = false) : Ready field read entries slot := by
  obtain ⟨once, takes⟩ := ready
  have given : field.given ((name, node) :: entries) = field.given entries := by
    simp [FieldName.given, refused]
  rw [given] at takes
  simp only [FieldName.count, List.countP_cons, refused] at once
  exact ⟨once, takes⟩

end Ready

/-- The slots of all fields are ready for some entries. -/
def Fields.Ready : {β σ : Type} → Fields β σ → List (String × Value) → σ → Prop
  | _, _, .nil, _, _ => True
  | _, _, .required field shape rest, entries, slots =>
    Schema.Ready field shape.ofValue entries slots.1 ∧ rest.Ready entries slots.2
  | _, _, .defaulted field shape _ rest, entries, slots =>
    Schema.Ready field shape.ofValue entries slots.1 ∧ rest.Ready entries slots.2
  | _, _, .sparse field shape rest, entries, slots =>
    Schema.Ready field shape.option.ofValue entries slots.1 ∧ rest.Ready entries slots.2

section Slots

variable {name : String} {node : Value} {entries : List (String × Value)}

/-- An entry for no field leaves all slots ready. -/
theorem Fields.ready_of_not_mem : {β σ : Type} → (fields : Fields β σ) → {slots : σ} →
    name ∉ fields.candidates → fields.Ready ((name, node) :: entries) slots →
    fields.Ready entries slots
  | _, _, .nil, _, _, _ => trivial
  | _, _, .required _ _ rest, _, other, ready => by
    obtain ⟨first, others⟩ := not_or.mp (mt List.mem_append.mpr other)
    exact ⟨ready.1.kept (FieldName.accepts_eq_false first), rest.ready_of_not_mem others ready.2⟩
  | _, _, .defaulted _ _ _ rest, _, other, ready => by
    obtain ⟨first, others⟩ := not_or.mp (mt List.mem_append.mpr other)
    exact ⟨ready.1.kept (FieldName.accepts_eq_false first), rest.ready_of_not_mem others ready.2⟩
  | _, _, .sparse _ _ rest, _, other, ready => by
    obtain ⟨first, others⟩ := not_or.mp (mt List.mem_append.mpr other)
    exact ⟨ready.1.kept (FieldName.accepts_eq_false first), rest.ready_of_not_mem others ready.2⟩

/-- An entry fills the slot of the field that accepts its name, or one behind it. -/
theorem exists_of_field {field : FieldName} {read : Value → Read α} {rest : Fields β σ}
    {before : Option α × σ} (distinct : (field.candidates ++ rest.candidates).Nodup)
    (member : name ∈ field.candidates ++ rest.candidates)
    (first : Ready field read ((name, node) :: entries) before.1)
    (others : rest.Ready ((name, node) :: entries) before.2)
    (later : name ∈ rest.candidates → ∃ move slots,
      rest.slot? Value.source name = some move ∧ move node before.2 = .ok slots ∧
        rest.Ready entries slots) :
    ∃ move after, (if field.accepts name then some (fill field read)
        else (rest.slot? Value.source name).map behind) = some move ∧
      move node before = .ok after ∧ Ready field read entries after.1 ∧
        rest.Ready entries after.2 := by
  cases accepted : field.accepts name with
  | true =>
    obtain ⟨value, filled, ready⟩ := first.filled accepted before.2
    have other : name ∉ rest.candidates := fun member =>
      (List.nodup_append.mp distinct).2.2 name (FieldName.accepts_iff.mp accepted) name member rfl
    exact ⟨_, _, if_pos rfl, filled, ready, rest.ready_of_not_mem other others⟩
  | false =>
    have among : name ∈ rest.candidates := by
      rcases List.mem_append.mp member with own | among
      · rw [← FieldName.accepts_iff, accepted] at own
        contradiction
      · exact among
    obtain ⟨move, slots, found, moved, ready⟩ := later among
    refine ⟨behind move, (before.1, slots), ?_, ?_, first.kept accepted, ready⟩
    · rw [found]
      rfl
    · rw [behind, moved]
      rfl

/-- An entry under the name of a field finds its slot, fills it and leaves the slots ready. -/
theorem Fields.exists_of_ready : {β σ : Type} → (fields : Fields β σ) → fields.candidates.Nodup →
    {before : σ} → name ∈ fields.candidates → fields.Ready ((name, node) :: entries) before →
    ∃ move after, fields.slot? Value.source name = some move ∧ move node before = .ok after ∧
      fields.Ready entries after
  | _, _, .nil, _, _, member, _ => by simp [candidates] at member
  | _, _, .required _ _ rest, distinct, _, member, ready =>
    exists_of_field distinct member ready.1 ready.2 fun among =>
      rest.exists_of_ready (List.nodup_append.mp distinct).2.1 among ready.2
  | _, _, .defaulted _ _ _ rest, distinct, _, member, ready =>
    exists_of_field distinct member ready.1 ready.2 fun among =>
      rest.exists_of_ready (List.nodup_append.mp distinct).2.1 among ready.2
  | _, _, .sparse _ _ rest, distinct, _, member, ready =>
    exists_of_field distinct member ready.1 ready.2 fun among =>
      rest.exists_of_ready (List.nodup_append.mp distinct).2.1 among ready.2

/-- Entries under names of the fields are read one after the other. -/
theorem Fields.readEntries_of_ready (fields : Fields β σ) (distinct : fields.candidates.Nodup)
    {before : σ} (known : ∀ entry ∈ entries, entry.1 ∈ fields.candidates)
    (ready : fields.Ready entries before) :
    ∃ after, readEntries Value.source fields.candidates (fields.slot? Value.source)
      (entries.map fun (key, value) => (.text key, value)) before = .ok after := by
  induction entries generalizing before with
  | nil => exact ⟨before, rfl⟩
  | cons entry entries ih =>
    obtain ⟨name, node⟩ := entry
    obtain ⟨member, known⟩ := List.forall_mem_cons.mp known
    obtain ⟨move, between, found, moved, ready⟩ := fields.exists_of_ready distinct member ready
    obtain ⟨after, read⟩ := ih known ready
    refine ⟨after, bind_eq_ok.mpr ⟨move, ?_, bind_eq_ok.mpr ⟨between, moved, read⟩⟩⟩
    exact Value.text_eq_ok.mpr (by rw [found])

end Slots

section Held

variable {entries : List (String × Value)}

/-- The slots are ready at first when no field is given twice and the fields hold some values. -/
theorem Fields.ready_unread : {β σ : Type} → (fields : Fields β σ) → {values : β} →
    (∀ field ∈ fields.names, field.count entries ≤ 1) → fields.Holds entries values →
    fields.Ready entries fields.unread
  | _, _, .nil, _, _, _ => trivial
  | _, _, .required _ _ rest, (value, _), once, held => by
    obtain ⟨⟨node, given, reads⟩, holds⟩ := held
    obtain ⟨first, others⟩ := List.forall_mem_cons.mp once
    refine ⟨⟨first, fun other found => ⟨rfl, value, ?_⟩⟩, rest.ready_unread others holds⟩
    obtain rfl := Option.some.inj (given.symm.trans found)
    exact reads
  | _, _, .defaulted _ _ _ rest, (value, _), once, holds => by
    obtain ⟨held, holds⟩ := holds
    obtain ⟨first, others⟩ := List.forall_mem_cons.mp once
    refine ⟨⟨first, fun node found => ⟨rfl, value, ?_⟩⟩, rest.ready_unread others holds⟩
    rw [Held, found] at held
    exact held
  | _, _, .sparse _ _ rest, (value, _), once, holds => by
    obtain ⟨held, holds⟩ := holds
    obtain ⟨first, others⟩ := List.forall_mem_cons.mp once
    refine ⟨⟨first, fun node found => ⟨rfl, value, ?_⟩⟩, rest.ready_unread others holds⟩
    rw [Held, found] at held
    exact held

/-- What is in a slot that entries have moved, or else stands for a missing entry, is what the field
holds. -/
theorem Moves.getD_eq {field : FieldName} {read : Value → Read α} {slot : Option α}
    {missing value : α} (moved : Moves field read entries none slot)
    (held : Held field read missing entries value) : slot.getD missing = value := by
  unfold Moves at moved
  unfold Held at held
  split at moved
  case h_1 none =>
    rw [none] at held
    rw [moved, Option.getD_none, held]
  case h_2 node given =>
    obtain ⟨-, found, reads, rfl⟩ := moved
    rw [given] at held
    exact Except.ok.inj (reads.symm.trans held)

/-- When the slots are complete, they hold what the fields hold. -/
theorem Fields.complete_of_holds : {β σ : Type} → (fields : Fields β σ) → {slots : σ} →
    {values : β} → fields.Moves entries fields.unread slots → fields.Holds entries values →
    fields.complete slots = .ok values
  | _, _, .nil, _, _, _, _ => rfl
  | _, _, .required _ _ rest, (slot, _), (value, _), moved, held => by
    obtain ⟨first, others⟩ := moved
    obtain ⟨⟨node, given, reads⟩, holds⟩ := held
    rw [Schema.Moves, given] at first
    obtain ⟨-, found, read, filled⟩ := first
    obtain rfl : found = value := Except.ok.inj (read.symm.trans reads)
    obtain rfl : slot = some found := filled
    rw [complete, rest.complete_of_holds others holds]
    rfl
  | _, _, .defaulted _ _ fallback rest, (slot, _), (value, _), moved, holds => by
    obtain ⟨first, others⟩ := moved
    obtain ⟨held, holds⟩ := holds
    have filled : slot.getD fallback = value := first.getD_eq held
    rw [complete, filled, rest.complete_of_holds others holds]
    rfl
  | _, _, .sparse _ _ rest, (slot, _), (value, _), moved, holds => by
    obtain ⟨first, others⟩ := moved
    obtain ⟨held, holds⟩ := holds
    have filled : slot.join = value := by
      rw [← first.getD_eq held]
      cases slot <;> rfl
    rw [complete, filled, rest.complete_of_holds others holds]
    rfl

end Held

/-- A record is read exactly from the entries that its fields admit, as the values that the fields
hold after them. -/
theorem Shape.ofValue_record {name : String} {fields : Fields β σ} {value : Value} {values : β}
    (distinct : fields.candidates.Nodup) :
    (Shape.record name fields).ofValue value = .ok values ↔
      ∃ entries, entries? value = some entries ∧ Admits fields.names entries ∧
        fields.Holds entries values := by
  constructor
  · intro read
    obtain ⟨pairs, listed, found⟩ := bind_eq_ok.mp read
    obtain ⟨slots, filled, -⟩ := bind_eq_ok.mp found
    obtain ⟨entries, held, holds⟩ := Shape.holds_of_record distinct read
    refine ⟨entries, held, ?_, holds⟩
    obtain rfl : entries.map (fun (key, value) => (.text key, value)) = pairs := by
      cases value with
      | object => exact Option.some.inj held ▸ Except.ok.inj listed
      | null => exact Option.some.inj held ▸ Except.ok.inj listed
      | _ => contradiction
    exact fields.admits_of_readEntries distinct filled
  · rintro ⟨entries, held, ⟨known, once⟩, holds⟩
    obtain ⟨slots, filled⟩ := fields.readEntries_of_ready distinct
      (fun entry member => Fields.mem_candidates_iff.mpr (known entry member))
      (fields.ready_unread once holds)
    have moved := fields.moves_of_readEntries distinct filled
    have listed : Value.source.entries name value =
        .ok (entries.map fun (key, value) => (.text key, value)) := by
      cases value with
      | object => exact Option.some.inj held ▸ rfl
      | null => exact Option.some.inj held ▸ rfl
      | _ => contradiction
    exact bind_eq_ok.mpr ⟨_, listed, bind_eq_ok.mpr ⟨slots, filled,
      fields.complete_of_holds moved holds⟩⟩

/-- A value that may be missing is read as what it is when it is something. -/
theorem Shape.ofValue_some {shape : Shape α} {value : Value} {item : α} (set : value ≠ .null)
    (read : shape.ofValue value = .ok item) : shape.option.ofValue value = .ok (some item) := by
  have found : Value.source.optional value = .ok (some value) := by
    cases value with
    | null => exact absurd rfl set
    | _ => rfl
  exact bind_eq_ok.mpr ⟨some value, found, bind_eq_ok.mpr ⟨item, read, rfl⟩⟩

/-- A type that is written in the form of another is read from what the form is read from and is
admitted. -/
theorem Shape.ofValue_refine {shape : Shape α} {accept : α → Except Cause β} {toForm : β → α}
    {undo : ∀ value, accept (toForm value) = .ok value} {value : Value} {result : β} :
    (shape.refine accept toForm undo).ofValue value = .ok result ↔
      ∃ raw, shape.ofValue value = .ok raw ∧ accept raw = .ok result := by
  refine Iff.trans bind_eq_ok (exists_congr fun raw => and_congr_right fun _ => ?_)
  cases accept raw <;> simp [pure_eq_ok]

end RunningConfig.Schema
