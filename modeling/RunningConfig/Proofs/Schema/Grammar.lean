import RunningConfig.Proofs.Schema.Admission
/-!
# The grammar of model values

A grammar says in plain terms what may stand at each place of a model value, and `Conforms` has one
rule for each kind of place. Neither knows how a value is read. A shape follows a grammar when the
two name the same fields and draw the same limits at every place, and then the shape reads exactly
the values that conform (`Shape.Follows.accepts`).

The places of a value are those that its grammar leads to (`Stands`). In a value that conforms every
place does (`conforms_of_stands`), and no object is anywhere else (`exists_stands_of_inside`), so no
key of any object is passed over (`names_of_inside`).
-/

namespace RunningConfig

/-- A value that is part of another, at any depth. -/
inductive Value.Inside (part : Value) : Value → Prop where
  /-- A value is part of itself. -/
  | whole : Inside part part
  /-- A part of an item is part of the list. -/
  | item {items : List Value} {item : Value} (member : item ∈ items) (inside : Inside part item) :
      Inside part (.list items)
  /-- A part of the value of an entry is part of the object. -/
  | entry {entries : List (String × Value)} {name : String} {node : Value}
      (member : (name, node) ∈ entries) (inside : Inside part node) :
      Inside part (.object entries)

namespace Schema

mutual

/-- What may stand at a place of a model value. -/
inductive Grammar where
  /-- Any text. -/
  | text
  /-- A truth value. -/
  | boolean
  /-- Text that is a dotted quad. -/
  | address
  /-- An integer from `low` to `high`, both included. -/
  | integer (low high : Int)
  /-- One of a few integers. -/
  | number (choices : List Int)
  /-- Text that is one of a few words. -/
  | word (choices : List String)
  /-- Nothing, or what may stand there otherwise. -/
  | optional (inner : Grammar)
  /-- A list, each item of which has the same grammar. -/
  | list (item : Grammar)
  /-- A record of members. -/
  | record (members : List Member)

/-- A member of a record: its names, whether it has to be given, and what may stand there. -/
structure Member where
  /-- The names of the member. -/
  field : FieldName
  /-- Whether it has to be given. -/
  required : Bool
  /-- What may stand there. -/
  grammar : Grammar

end

namespace Member

/-- A member that has to be given. -/
def must (name : String) (grammar : Grammar) : Member := ⟨⟨name, none⟩, true, grammar⟩

/-- A member that may be left out. -/
def may (name : String) (grammar : Grammar) : Member := ⟨⟨name, none⟩, false, grammar⟩

/-- A member that has another name beside its own. -/
def orNamed (member : Member) (other : String) : Member :=
  ⟨⟨member.field.name, some other⟩, member.required, member.grammar⟩

end Member

/-- A value conforms to a grammar. A record is an object, or nothing for the one without entries.
Each of its keys is a name of a member, no member is given twice, each that has to be given is, and
what is given to a member conforms in its turn. -/
inductive Conforms : Grammar → Value → Prop where
  /-- Any text is a text. -/
  | text (text : String) : Conforms .text (.text text)
  /-- Either truth value is one. -/
  | boolean (value : Bool) : Conforms .boolean (.boolean value)
  /-- A dotted quad is an address. -/
  | address {text : String} (quad : Address.IsDottedQuad text) : Conforms .address (.text text)
  /-- An integer between the bounds is one of them. -/
  | integer {low high number : Int} (above : low ≤ number) (below : number ≤ high) :
      Conforms (.integer low high) (.integer number)
  /-- One of the integers is chosen. -/
  | number {choices : List Int} {number : Int} (among : number ∈ choices) :
      Conforms (.number choices) (.integer number)
  /-- One of the words is chosen. -/
  | word {choices : List String} {word : String} (among : word ∈ choices) :
      Conforms (.word choices) (.text word)
  /-- What is optional may be null. -/
  | unset (inner : Grammar) : Conforms (.optional inner) .null
  /-- What is optional may be given. -/
  | given {inner : Grammar} {value : Value} (conforms : Conforms inner value) :
      Conforms (.optional inner) value
  /-- A list may be null, for the empty one. -/
  | none (item : Grammar) : Conforms (.list item) .null
  /-- Every item of a list conforms. -/
  | list {item : Grammar} {items : List Value} (each : ∀ value ∈ items, Conforms item value) :
      Conforms (.list item) (.list items)
  /-- The entries of a record are known, single and complete, and each one conforms. -/
  | record {members : List Member} {entries : List (String × Value)} {value : Value}
      (listed : entries? value = some entries)
      (known : ∀ entry ∈ entries, ∃ member ∈ members, member.field.accepts entry.1 = true)
      (once : ∀ member ∈ members, member.field.count entries ≤ 1)
      (given : ∀ member ∈ members, member.required = true →
        ∃ entry ∈ entries, member.field.accepts entry.1 = true)
      (fits : ∀ member ∈ members, ∀ entry ∈ entries, member.field.accepts entry.1 = true →
        Conforms member.grammar entry.2) :
      Conforms (.record members) value

/-! ## Places -/

/-- A part of a value that stands at a place of its grammar. -/
inductive Stands (place : Grammar) (part : Value) : Grammar → Value → Prop where
  /-- A value stands at the place of its own grammar. -/
  | here : Stands place part place part
  /-- What stands inside an optional value that is not null. -/
  | given {inner : Grammar} {value : Value} (set : value ≠ .null)
      (inside : Stands place part inner value) : Stands place part (.optional inner) value
  /-- What stands inside an item of a list. -/
  | item {item : Grammar} {items : List Value} {value : Value} (member : value ∈ items)
      (inside : Stands place part item value) : Stands place part (.list item) (.list items)
  /-- What stands inside the value of a member, under any of its names. -/
  | entry {members : List Member} {member : Member} {entries : List (String × Value)}
      {name : String} {node : Value} (among : member ∈ members) (listed : (name, node) ∈ entries)
      (accepted : member.field.accepts name = true)
      (inside : Stands place part member.grammar node) :
      Stands place part (.record members) (.object entries)

/-- What stands at a place of a value that conforms does so itself. -/
theorem conforms_of_stands {place grammar : Grammar} {part value : Value}
    (stands : Stands place part grammar value) (conforms : Conforms grammar value) :
    Conforms place part := by
  induction stands with
  | here => exact conforms
  | given set _ ih =>
    cases conforms with
    | unset => exact absurd rfl set
    | given conforms => exact ih conforms
  | item member _ ih =>
    cases conforms with
    | list each => exact ih (each _ member)
  | entry among listed accepted _ ih =>
    cases conforms with
    | record held known once given fits =>
      obtain rfl := Option.some.inj held
      exact ih (fits _ among _ listed accepted)

/-- Every object inside a value that conforms stands at the place of a record. -/
theorem exists_stands_of_inside {grammar : Grammar} {value : Value}
    {entries : List (String × Value)} (conforms : Conforms grammar value)
    (inside : Value.Inside (.object entries) value) :
    ∃ members, Stands (.record members) (.object entries) grammar value := by
  induction conforms with
  | text | boolean | address | integer | number | word | unset | none => cases inside
  | @given inner value _ ih =>
    obtain ⟨members, stands⟩ := ih inside
    refine ⟨members, .given ?_ stands⟩
    rintro rfl
    cases inside
  | list each ih =>
    cases inside with
    | item member inside =>
      obtain ⟨members, stands⟩ := ih _ member inside
      exact ⟨members, .item member stands⟩
  | @record all given value listed known once required fits ih =>
    cases inside with
    | whole => exact ⟨all, .here⟩
    | item => contradiction
    | entry member inside =>
      obtain rfl := Option.some.inj listed
      obtain ⟨own, among, accepted⟩ := known _ member
      obtain ⟨members, stands⟩ := ih own among _ member accepted inside
      exact ⟨members, .entry among member accepted stands⟩

/-- No key is passed over: every object inside a value that conforms stands at the place of a
record, and each of its keys is a name of a member of that record. -/
theorem names_of_inside {grammar : Grammar} {value : Value} {entries : List (String × Value)}
    (conforms : Conforms grammar value) (inside : Value.Inside (.object entries) value) :
    ∃ members, Stands (.record members) (.object entries) grammar value ∧
      ∀ entry ∈ entries, ∃ member ∈ members, member.field.accepts entry.1 = true := by
  obtain ⟨members, stands⟩ := exists_stands_of_inside conforms inside
  cases conforms_of_stands stands conforms with
  | record listed known once given fits =>
    obtain rfl := Option.some.inj listed
    exact ⟨members, stands, known⟩

/-! ## Shapes that follow a grammar -/

mutual

/-- A shape that follows a grammar: the two have the same places, with the same names and limits,
and at a place with a default nothing is read as the default. -/
def Shape.Follows : {α : Type} → Shape α → Grammar → Prop
  | _, .text, grammar => grammar = .text
  | _, .address, grammar => grammar = .address
  | _, .boolean, grammar => grammar = .boolean
  | _, @Shape.integer α _, grammar =>
    grammar = .integer (MachineInteger.lowest α) (MachineInteger.highest α)
  | _, @Shape.keyword α _, grammar => grammar = .word (Keyword.words α)
  | _, .option inner, grammar => ∃ own, grammar = .optional own ∧ inner.Follows own
  | _, .list item, grammar => ∃ own, grammar = .list own ∧ item.Follows own
  | _, .record _ fields, grammar => ∃ members, grammar = .record members ∧ fields.Follows members
  | _, .refine form accept toForm undo, grammar =>
    -- Either whatever has the form is admitted, or a few integers are.
    (form.Follows grammar ∧ ∀ raw, ∃ value, accept raw = .ok value) ∨
    ∃ choices, grammar = .number choices ∧ ∀ value,
      (∃ result, (Shape.refine form accept toForm undo).ofValue value = .ok result) ↔
        ∃ number ∈ choices, value = .integer number

/-- Fields that follow the members of a record, one by one. -/
def Fields.Follows : {β σ : Type} → Fields β σ → List Member → Prop
  | _, _, .nil, members => members = []
  | _, _, .required field shape rest, members => ∃ grammar others,
    members = ⟨field, true, grammar⟩ :: others ∧ shape.Follows grammar ∧ rest.Follows others
  | _, _, .defaulted field shape fallback rest, members => ∃ grammar others,
    members = ⟨field, false, grammar⟩ :: others ∧ shape.Follows grammar ∧
      shape.ofValue .null = .ok fallback ∧ rest.Follows others
  | _, _, .sparse field shape rest, members => ∃ grammar others,
    members = ⟨field, false, .optional grammar⟩ :: others ∧ shape.Follows grammar ∧
      rest.Follows others

end

/-- Fields have the names of the members that they follow. -/
theorem Fields.Follows.names : {β σ : Type} → {fields : Fields β σ} → {members : List Member} →
    fields.Follows members → members.map Member.field = fields.names
  | _, _, .nil, _, follows => by
    obtain rfl := follows
    rfl
  | _, _, .required _ _ _, _, follows => by
    obtain ⟨grammar, others, rfl, -, follows⟩ := follows
    exact congrArg (_ :: ·) (names follows)
  | _, _, .defaulted _ _ _ _, _, follows => by
    obtain ⟨grammar, others, rfl, -, -, follows⟩ := follows
    exact congrArg (_ :: ·) (names follows)
  | _, _, .sparse _ _ _, _, follows => by
    obtain ⟨grammar, others, rfl, -, follows⟩ := follows
    exact congrArg (_ :: ·) (names follows)

/-! ### Following, place by place -/

namespace Shape.Follows

variable {α β σ : Type} {shape : Shape α} {grammar : Grammar}

/-- Text follows the grammar of any text. -/
theorem text : Shape.text.Follows .text := rfl

/-- An address follows that of dotted quads. -/
theorem address : Shape.address.Follows .address := rfl

/-- A truth value follows that of truth values. -/
theorem boolean : Shape.boolean.Follows .boolean := rfl

/-- An integer type follows the grammar of its range. -/
theorem integer [MachineInteger α] {low high : Int} (lowest : low = MachineInteger.lowest α)
    (highest : high = MachineInteger.highest α) :
    (Shape.integer α).Follows (.integer low high) := congrArg₂ Grammar.integer lowest highest

/-- A choice follows the grammar of its words. -/
theorem keyword [Keyword α] {choices : List String} (words : choices = Keyword.words α) :
    (Shape.keyword α).Follows (.word choices) := congrArg Grammar.word words

/-- A list follows a list when its items do. -/
theorem list (follows : shape.Follows grammar) : shape.list.Follows (.list grammar) :=
  ⟨grammar, rfl, follows⟩

/-- A structure follows the record of its members. -/
theorem ofStructure {name : String} {fields : Fields β σ} {members : List Member} {make : β → α}
    {parts : α → β} {undo : ∀ value, make (parts value) = value}
    (follows : fields.Follows members) :
    (structureShape name fields make parts undo).Follows (.record members) :=
  Or.inl ⟨⟨members, rfl, follows⟩, fun raw => ⟨make raw, rfl⟩⟩

/-- A block whose presence counts follows a record that may be missing, with one member that may be
left out. -/
theorem presence {name : String} {field : FieldName} (follows : shape.Follows grammar) :
    (Presence.shape name field shape).Follows
      (.optional (.record [⟨field, false, .optional grammar⟩])) :=
  Or.inl ⟨⟨_, rfl, _, rfl, grammar, [], rfl, follows, rfl⟩, fun _ => ⟨_, rfl⟩⟩

end Shape.Follows

namespace Fields.Follows

variable {α β σ : Type} {field : FieldName} {shape : Shape α} {grammar : Grammar}
  {rest : Fields β σ} {members : List Member}

/-- No field follows no member. -/
theorem nil : Fields.nil.Follows [] := rfl

/-- A field without a default follows a member that has to be given. -/
theorem required (follows : shape.Follows grammar) (later : rest.Follows members) :
    (Fields.required field shape rest).Follows (⟨field, true, grammar⟩ :: members) :=
  ⟨grammar, members, rfl, follows, later⟩

/-- The default is what nothing is read as. -/
theorem defaulted {fallback : α} (follows : shape.Follows grammar)
    (unset : shape.ofValue .null = .ok fallback) (later : rest.Follows members) :
    (Fields.defaulted field shape fallback rest).Follows (⟨field, false, grammar⟩ :: members) :=
  ⟨grammar, members, rfl, follows, unset, later⟩

/-- A field that is unset unless given follows a member that may be null or left out. -/
theorem optional (follows : shape.Follows grammar) (later : rest.Follows members) :
    (optionalField field shape rest).Follows (⟨field, false, .optional grammar⟩ :: members) :=
  ⟨.optional grammar, members, rfl, ⟨grammar, rfl, follows⟩, rfl, later⟩

end Fields.Follows

/-! ## What is read conforms, and conversely -/

/-- A shape reads exactly the values that conform to a grammar. -/
def Shape.Accepts {α : Type} (shape : Shape α) (grammar : Grammar) : Prop :=
  ∀ value, (∃ result, shape.ofValue value = .ok result) ↔ Conforms grammar value

/-- What a member asks of some entries: that one is for it if it has to be given, and that what is
given conforms. -/
def Member.Met (member : Member) (entries : List (String × Value)) : Prop :=
  (member.required = true → ∃ entry ∈ entries, member.field.accepts entry.1 = true) ∧
    ∀ entry ∈ entries, member.field.accepts entry.1 = true → Conforms member.grammar entry.2

/-- A value conforms to a record when its entries are admitted and every member is met. -/
theorem conforms_record_iff {members : List Member} {value : Value} :
    Conforms (.record members) value ↔ ∃ entries, entries? value = some entries ∧
      Admits (members.map Member.field) entries ∧ ∀ member ∈ members, member.Met entries := by
  constructor
  · intro conforms
    cases conforms with
    | record listed known once given fits =>
      refine ⟨_, listed, ⟨?_, ?_⟩, fun member among => ⟨given member among, fits member among⟩⟩
      · simpa using known
      · simpa using once
  · rintro ⟨entries, listed, ⟨known, once⟩, met⟩
    refine .record listed ?_ ?_ (fun member among => (met member among).1)
      fun member among => (met member among).2
    · simpa using known
    · simpa using once

section Places

variable {α : Type} {shape : Shape α} {grammar : Grammar}

/-- Any text is read. -/
theorem Shape.accepts_text : Shape.text.Accepts .text := by
  intro value
  constructor
  · rintro ⟨result, read⟩
    cases value with
    | text text => exact .text text
    | _ => contradiction
  · intro conforms
    cases conforms with
    | text text => exact ⟨text, rfl⟩

/-- An address is read from a dotted quad. -/
theorem Shape.accepts_address : Shape.address.Accepts .address := by
  intro value
  constructor
  · rintro ⟨result, read⟩
    cases value with
    | text text =>
      have parsed := Value.text_eq_ok.mp read
      split at parsed
      case h_1 address found => exact .address (Address.exists_ofText?_iff.mp ⟨address, found⟩)
      case h_2 => contradiction
    | _ => contradiction
  · intro conforms
    cases conforms with
    | address quad =>
      obtain ⟨address, found⟩ := Address.exists_ofText?_iff.mpr quad
      exact ⟨address, Value.text_eq_ok.mpr (by rw [found])⟩

/-- A truth value is read. -/
theorem Shape.accepts_boolean : Shape.boolean.Accepts .boolean := by
  intro value
  constructor
  · rintro ⟨result, read⟩
    obtain rfl := Shape.ofValue_boolean read
    exact .boolean result
  · intro conforms
    cases conforms with
    | boolean result => exact ⟨result, rfl⟩

/-- An integer is read when its type holds it. -/
theorem Shape.accepts_integer [MachineInteger α] : (Shape.integer α).Accepts
    (.integer (MachineInteger.lowest α) (MachineInteger.highest α)) := by
  intro value
  constructor
  · rintro ⟨result, read⟩
    obtain ⟨number, rfl, held⟩ := Shape.ofValue_integer read
    obtain ⟨above, below⟩ := MachineInteger.isSome_ofInt?_iff.mp (Option.isSome_of_eq_some held)
    exact .integer above below
  · intro conforms
    cases conforms with
    | @integer _ _ number above below =>
      obtain ⟨result, held⟩ := Option.isSome_iff_exists.mp
        (MachineInteger.isSome_ofInt?_iff.mpr ⟨above, below⟩)
      exact ⟨result, by simp only [Shape.ofValue, Shape.read, Value.source, held]⟩

/-- A choice is read from its word. -/
theorem Shape.accepts_keyword [Keyword α] :
    (Shape.keyword α).Accepts (.word (Keyword.words α)) := by
  intro value
  constructor
  · rintro ⟨result, read⟩
    obtain rfl := Shape.ofValue_keyword read
    exact .word (List.mem_map_of_mem (Keyword.mem_all result))
  · intro conforms
    cases conforms with
    | word among =>
      obtain ⟨choice, -, rfl⟩ := List.mem_map.mp among
      exact ⟨choice, Value.keyword_eq_ok.mpr (by rw [Keyword.ofWord?_word])⟩

/-- What may be missing is read from nothing or from what is read otherwise. -/
theorem Shape.Accepts.option (accepts : shape.Accepts grammar) :
    shape.option.Accepts (.optional grammar) := by
  intro value
  constructor
  · rintro ⟨result, read⟩
    rcases Shape.ofValue_option read with ⟨rfl, -⟩ | ⟨-, item, read, -⟩
    · exact .unset grammar
    · exact .given ((accepts value).mp ⟨item, read⟩)
  · intro conforms
    cases conforms with
    | unset => exact ⟨none, rfl⟩
    | given conforms =>
      obtain ⟨item, read⟩ := (accepts value).mpr conforms
      by_cases unset : value = .null
      · exact ⟨none, unset ▸ rfl⟩
      · exact ⟨some item, Shape.ofValue_some unset read⟩

/-- A list is read exactly when each of its items is. -/
theorem exists_mapM_iff {read : Value → Read α} {items : List Value} :
    (∃ results, items.mapM read = .ok results) ↔
      ∀ item ∈ items, ∃ result, read item = .ok result := by
  simp only [mapM_eq_ok_iff]
  induction items with
  | nil => simp
  | cons item items ih =>
    rw [List.forall_mem_cons, ← ih]
    simp only [List.forall₂_cons_left_iff]
    constructor
    · rintro ⟨_, result, results, first, others, -⟩
      exact ⟨⟨result, first⟩, results, others⟩
    · rintro ⟨⟨result, first⟩, results, others⟩
      exact ⟨_, result, results, first, others, rfl⟩

/-- A list is read from items that are each read, or from nothing. -/
theorem Shape.Accepts.list (accepts : shape.Accepts grammar) :
    shape.list.Accepts (.list grammar) := by
  intro value
  constructor
  · rintro ⟨results, read⟩
    obtain ⟨items, listed, read⟩ := bind_eq_ok.mp read
    cases value with
    | list values =>
      obtain rfl := Except.ok.inj listed
      have each := exists_mapM_iff.mp ⟨results, read⟩
      exact .list fun item member => (accepts item).mp (each item member)
    | null => exact .none grammar
    | _ => contradiction
  · intro conforms
    cases conforms with
    | none => exact ⟨[], rfl⟩
    | list each =>
      obtain ⟨results, read⟩ :=
        exists_mapM_iff.mpr fun item member => (accepts item).mpr (each item member)
      exact ⟨results, bind_eq_ok.mpr ⟨_, rfl, read⟩⟩

/-- A type that admits whatever has a form is read from what the form is read from. -/
theorem Shape.Accepts.refine {β : Type} {accept : α → Except Cause β} {toForm : β → α}
    {undo : ∀ value, accept (toForm value) = .ok value} (accepts : shape.Accepts grammar)
    (total : ∀ raw, ∃ value, accept raw = .ok value) :
    (shape.refine accept toForm undo).Accepts grammar := by
  intro value
  rw [← accepts value]
  simp only [Shape.ofValue_refine]
  constructor
  · rintro ⟨result, raw, read, -⟩
    exact ⟨raw, read⟩
  · rintro ⟨raw, read⟩
    obtain ⟨result, admitted⟩ := total raw
    exact ⟨result, raw, read, admitted⟩

variable {field : FieldName} {entries : List (String × Value)}

/-- A field that has to be given holds something exactly when its member is met. -/
theorem exists_given_iff_met (accepts : shape.Accepts grammar) (once : field.count entries ≤ 1) :
    (∃ value node, field.given entries = some node ∧ shape.ofValue node = .ok value) ↔
      Member.Met ⟨field, true, grammar⟩ entries := by
  constructor
  · rintro ⟨value, node, given, read⟩
    obtain ⟨name, member, accepted⟩ := FieldName.exists_of_given given
    refine ⟨fun _ => ⟨(name, node), member, accepted⟩, fun entry other accepted => ?_⟩
    have same := FieldName.given_eq_some once other accepted
    obtain rfl := Option.some.inj (given.symm.trans same)
    exact (accepts _).mp ⟨value, read⟩
  · rintro ⟨given, fits⟩
    obtain ⟨⟨name, node⟩, member, accepted⟩ := given rfl
    obtain ⟨value, read⟩ := (accepts node).mpr (fits _ member accepted)
    exact ⟨value, node, FieldName.given_eq_some once member accepted, read⟩

/-- A field with a default holds something exactly when its member is met. -/
theorem exists_held_iff_met (accepts : shape.Accepts grammar) (missing : α)
    (once : field.count entries ≤ 1) :
    (∃ value, Held field shape.ofValue missing entries value) ↔
      Member.Met ⟨field, false, grammar⟩ entries := by
  constructor
  · rintro ⟨value, held⟩
    refine ⟨nofun, fun entry member accepted => ?_⟩
    rw [Held, FieldName.given_eq_some once member accepted] at held
    exact (accepts _).mp ⟨value, held⟩
  · rintro ⟨-, fits⟩
    unfold Held
    cases given : field.given entries with
    | none => exact ⟨missing, rfl⟩
    | some node =>
      obtain ⟨name, member, accepted⟩ := FieldName.exists_of_given given
      exact (accepts node).mpr (fits _ member accepted)

end Places

mutual

/-- A legible shape reads exactly the values that conform to the grammar that it follows. -/
theorem Shape.Follows.accepts : {α : Type} → {shape : Shape α} → {grammar : Grammar} →
    shape.Legible → shape.Follows grammar → shape.Accepts grammar
  | _, .text, _, _, follows => follows ▸ Shape.accepts_text
  | _, .address, _, _, follows => follows ▸ Shape.accepts_address
  | _, .boolean, _, _, follows => follows ▸ Shape.accepts_boolean
  | _, @Shape.integer _ _, _, _, follows => follows ▸ Shape.accepts_integer
  | _, @Shape.keyword α _, _, _, follows => follows ▸ Shape.accepts_keyword
  | _, .option inner, _, legible, follows => by
    obtain ⟨own, rfl, follows⟩ := follows
    exact (Shape.Follows.accepts legible.2 follows).option
  | _, .list item, _, legible, follows => by
    obtain ⟨own, rfl, follows⟩ := follows
    have accepts : item.Accepts own := Shape.Follows.accepts legible follows
    exact accepts.list
  | _, .record name fields, _, legible, follows => by
    obtain ⟨members, rfl, follows⟩ := follows
    intro value
    simp only [Shape.ofValue_record legible.1, conforms_record_iff, follows.names]
    constructor
    · rintro ⟨values, entries, listed, admits, holds⟩
      exact ⟨entries, listed, admits,
        (Fields.Follows.exists_holds_iff legible.2 follows admits.once).mp ⟨values, holds⟩⟩
    · rintro ⟨entries, listed, admits, met⟩
      obtain ⟨values, holds⟩ :=
        (Fields.Follows.exists_holds_iff legible.2 follows admits.once).mpr met
      exact ⟨values, entries, listed, admits, holds⟩
  | _, .refine form accept _ _, _, legible, follows => by
    rcases follows with ⟨follows, total⟩ | ⟨choices, rfl, admitted⟩
    · have accepts : form.Accepts _ := Shape.Follows.accepts legible follows
      exact accepts.refine total
    · intro value
      rw [admitted value]
      constructor
      · rintro ⟨number, among, rfl⟩
        exact .number among
      · intro conforms
        cases conforms with
        | number among => exact ⟨_, among, rfl⟩

/-- Fields hold something after entries that give none of them twice exactly when every member that
they follow is met. -/
theorem Fields.Follows.exists_holds_iff : {β σ : Type} → {fields : Fields β σ} →
    {members : List Member} → {entries : List (String × Value)} → fields.Legible →
    fields.Follows members → (∀ field ∈ fields.names, field.count entries ≤ 1) →
    ((∃ values, fields.Holds entries values) ↔ ∀ member ∈ members, member.Met entries)
  | _, _, .nil, _, _, _, follows, _ => by
    obtain rfl := follows
    simp [Fields.Holds]
  | _, _, .required field shape rest, _, _, legible, follows, once => by
    obtain ⟨grammar, others, rfl, follows, later⟩ := follows
    obtain ⟨first, once⟩ := List.forall_mem_cons.mp once
    have accepts := Shape.Follows.accepts legible.1 follows
    rw [List.forall_mem_cons, ← exists_given_iff_met accepts first,
      ← Fields.Follows.exists_holds_iff legible.2 later once]
    simp only [Fields.Holds, Prod.exists, exists_and_left, exists_and_right]
  | _, _, .defaulted field shape fallback rest, _, _, legible, follows, once => by
    obtain ⟨grammar, others, rfl, follows, -, later⟩ := follows
    obtain ⟨first, once⟩ := List.forall_mem_cons.mp once
    have accepts := Shape.Follows.accepts legible.1 follows
    rw [List.forall_mem_cons, ← exists_held_iff_met accepts fallback first,
      ← Fields.Follows.exists_holds_iff legible.2 later once]
    simp only [Fields.Holds, Prod.exists, exists_and_left, exists_and_right]
  | _, _, .sparse field shape rest, _, _, legible, follows, once => by
    obtain ⟨grammar, others, rfl, follows, later⟩ := follows
    obtain ⟨first, once⟩ := List.forall_mem_cons.mp once
    have accepts := (Shape.Follows.accepts legible.2.1 follows).option
    rw [List.forall_mem_cons, ← exists_held_iff_met accepts none first,
      ← Fields.Follows.exists_holds_iff legible.2.2 later once]
    simp only [Fields.Holds, Prod.exists, exists_and_left, exists_and_right]

end

end Schema

end RunningConfig
