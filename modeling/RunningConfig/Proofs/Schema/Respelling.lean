import Mathlib.Data.List.Nodup
import Mathlib.Data.List.Pairwise
import RunningConfig.Proofs.Schema.Grammar
/-!
# Values that are spelled differently

A record can be spelled in several ways: a member may go by either of its names, one that may be
left out can be given a null instead, and the order of the entries does not count. `Respelled` is
one such change at any depth of a value. What the members of a record are given before and after is
alike (`alike_of_respelled`), so the fields hold the same (`Fields.Follows.holds_of_alike`) and the
value reads as it did (`Shape.Follows.steady`). A member that goes by two names at once is refused
(`Shape.Follows.refuses_doubled`).
-/

namespace RunningConfig.Schema

/-- A value of a grammar and the value after one change of its spelling, at any depth. -/
inductive Respelled : Grammar → Value → Value → Prop where
  /-- The change is inside an optional value. -/
  | given {inner : Grammar} {value other : Value} (inside : Respelled inner value other) :
      Respelled (.optional inner) value other
  /-- The change is inside one item of a list. -/
  | item {item : Grammar} {value other : Value} (before after : List Value)
      (inside : Respelled item value other) :
      Respelled (.list item) (.list (before ++ value :: after)) (.list (before ++ other :: after))
  /-- The change is inside the value of one member. -/
  | entry {members : List Member} {member : Member} {name : String} {value other : Value}
      (before after : List (String × Value)) (among : member ∈ members)
      (accepted : member.field.accepts name = true)
      (inside : Respelled member.grammar value other) :
      Respelled (.record members) (.object (before ++ (name, value) :: after))
        (.object (before ++ (name, other) :: after))
  /-- A member goes by another of its names. -/
  | rename {members : List Member} {member : Member} {name other : String}
      (before after : List (String × Value)) (node : Value) (among : member ∈ members)
      (accepted : member.field.accepts name = true)
      (also : member.field.accepts other = true) :
      Respelled (.record members) (.object (before ++ (name, node) :: after))
        (.object (before ++ (other, node) :: after))
  /-- A null is removed where the member may be left out. -/
  | drop {members : List Member} {member : Member} {name : String}
      (before after : List (String × Value)) (among : member ∈ members)
      (omissible : member.required = false) (accepted : member.field.accepts name = true) :
      Respelled (.record members) (.object (before ++ (name, .null) :: after))
        (.object (before ++ after))
  /-- A null is added for a member that is not given and may be left out. -/
  | add {members : List Member} {member : Member} {name : String}
      (before after : List (String × Value)) (among : member ∈ members)
      (omissible : member.required = false) (accepted : member.field.accepts name = true)
      (absent : ∀ entry ∈ before ++ after, member.field.accepts entry.1 = false) :
      Respelled (.record members) (.object (before ++ after))
        (.object (before ++ (name, .null) :: after))
  /-- The entries come in another order. -/
  | permute {entries others : List (String × Value)} (members : List Member)
      (same : entries.Perm others) :
      Respelled (.record members) (.object entries) (.object others)

/-- A null has no other spelling. -/
theorem Respelled.ne_null {grammar : Grammar} {value other : Value}
    (respelled : Respelled grammar value other) : value ≠ .null ∧ other ≠ .null := by
  induction respelled with
  | given _ ih => exact ih
  | item | entry | rename | drop | add | permute => exact ⟨nofun, nofun⟩

/-! ## What a member is given -/

namespace FieldName

variable {field : FieldName} {before after entries others : List (String × Value)}
  {entry : Option (String × Value)}

/-- An entry for another field is neither counted nor given. -/
theorem around_other (refused : entry.any (fun own => field.accepts own.1) = false) :
    field.count (before ++ (entry.toList ++ after)) = field.count (before ++ after) ∧
      field.given (before ++ (entry.toList ++ after)) = field.given (before ++ after) := by
  cases entry with
  | none => exact ⟨rfl, rfl⟩
  | some own =>
    have refused : field.accepts own.1 = false := refused
    constructor
    · simp [count, refused]
    · simp [given, List.find?_append, refused]

/-- An entry for a field is the one that gives it its value when no other is for it. -/
theorem around_own (accepted : entry.all (fun own => field.accepts own.1) = true)
    (absent : field.count (before ++ after) = 0) :
    field.count (before ++ (entry.toList ++ after)) ≤ 1 ∧
      field.given (before ++ (entry.toList ++ after)) = entry.map Prod.snd := by
  cases entry with
  | none => exact ⟨absent ▸ Nat.zero_le 1, count_eq_zero_iff.mp absent⟩
  | some own =>
    have accepted : field.accepts own.1 = true := accepted
    have once : field.count (before ++ own :: after) ≤ 1 := by
      rw [count_around accepted]
      omega
    exact ⟨once, given_eq_some once (by simp) accepted⟩

/-- Entries in another order give a field the same when only one is for it. -/
theorem given_perm (once : field.count entries ≤ 1) (same : entries.Perm others) :
    field.given entries = field.given others := by
  have count : field.count entries = field.count others := same.countP_eq _
  cases given : field.given entries with
  | none =>
    rw [← count_eq_zero_iff, count, count_eq_zero_iff] at given
    exact given.symm
  | some node =>
    obtain ⟨name, member, accepted⟩ := exists_of_given given
    exact (given_eq_some (count ▸ once) (same.mem_iff.mp member) accepted).symm

end FieldName

/-- What a member is given, before and after a change of spelling. -/
inductive Member.Alike (member : Member) : Option Value → Option Value → Prop where
  /-- The member is untouched. -/
  | same (given : Option Value) : Alike member given given
  /-- The change is inside what the member is given. -/
  | inside {value other : Value} (respelled : Respelled member.grammar value other) :
      Alike member (some value) (some other)
  /-- A null is left out. -/
  | dropped (omissible : member.required = false) : Alike member (some .null) none
  /-- A null is put in. -/
  | added (omissible : member.required = false) : Alike member none (some .null)

section Records

variable {members : List Member} {entries : List (String × Value)}

/-- Only one member accepts a name. -/
theorem eq_of_accepts {first second : Member} {name : String}
    (distinct : (members.flatMap fun member => member.field.candidates).Nodup)
    (among : first ∈ members) (also : second ∈ members)
    (accepts : first.field.accepts name = true) (accepted : second.field.accepts name = true) :
    first = second := by
  by_contra different
  obtain ⟨-, disjoint⟩ := List.nodup_flatMap.mp distinct
  have symmetric : Std.Symm (Function.onFun List.Disjoint fun member : Member =>
      member.field.candidates) := ⟨fun _ _ => List.disjoint_symm⟩
  have apart := disjoint.forall among also different
  exact apart (FieldName.accepts_iff.mp accepts) (FieldName.accepts_iff.mp accepted)

/-- When one entry for a member takes the place of another, or of none, the entries are admitted
as before, and every member is given the same or the like. -/
theorem alike_of_change {member : Member} {before after : List (String × Value)}
    (entry other : Option (String × Value))
    (distinct : (members.flatMap fun member => member.field.candidates).Nodup)
    (among : member ∈ members) (absent : member.field.count (before ++ after) = 0)
    (accepts : entry.all (fun own => member.field.accepts own.1) = true)
    (accepted : other.all (fun own => member.field.accepts own.1) = true)
    (admits : Admits (members.map Member.field) (before ++ (entry.toList ++ after)))
    (alike : member.Alike (entry.map Prod.snd) (other.map Prod.snd)) :
    Admits (members.map Member.field) (before ++ (other.toList ++ after)) ∧
      ∀ own ∈ members, own.Alike (own.field.given (before ++ (entry.toList ++ after)))
        (own.field.given (before ++ (other.toList ++ after))) := by
  obtain ⟨known, once⟩ := admits
  have refuses {own : Member} (member' : own ∈ members) (different : own ≠ member)
      {slot : Option (String × Value)}
      (accepts : slot.all (fun found => member.field.accepts found.1) = true) :
      slot.any (fun found => own.field.accepts found.1) = false := by
    cases slot with
    | none => rfl
    | some found =>
      rw [← Bool.not_eq_true]
      exact fun accepted => different (eq_of_accepts distinct member' among accepted accepts)
  refine ⟨⟨fun found listed => ?_, List.forall_mem_map.mpr fun own member' => ?_⟩, ?_⟩
  · rw [List.mem_append, List.mem_append, Option.mem_toList] at listed
    rcases listed with earlier | present | later
    · exact known found (List.mem_append_left _ earlier)
    · obtain rfl := present
      exact ⟨member.field, List.mem_map_of_mem among, accepted⟩
    · exact known found (List.mem_append_right _ (List.mem_append_right _ later))
  · by_cases same : own = member
    · subst same
      exact (FieldName.around_own accepted absent).1
    · have before := once own.field (List.mem_map_of_mem member')
      rw [(FieldName.around_other (refuses member' same accepts)).1] at before
      rw [(FieldName.around_other (refuses member' same accepted)).1]
      exact before
  · intro own member'
    by_cases same : own = member
    · subst same
      rw [(FieldName.around_own accepts absent).2, (FieldName.around_own accepted absent).2]
      exact alike
    · rw [(FieldName.around_other (refuses member' same accepts)).2,
        (FieldName.around_other (refuses member' same accepted)).2]
      exact .same _

/-- No other entry is for a member that an admitted entry is for. -/
theorem count_around_eq_zero {member : Member} {before after : List (String × Value)}
    {entry : String × Value} (among : member ∈ members)
    (accepted : member.field.accepts entry.1 = true)
    (admits : Admits (members.map Member.field) (before ++ entry :: after)) :
    member.field.count (before ++ after) = 0 := by
  have once := admits.once member.field (List.mem_map_of_mem among)
  rw [FieldName.count_around accepted] at once
  omega

/-- A change of spelling of a record that is admitted gives another that is, and every member is
given the same or the like. -/
theorem alike_of_respelled {value : Value}
    (distinct : (members.flatMap fun member => member.field.candidates).Nodup)
    (admits : Admits (members.map Member.field) entries)
    (respelled : Respelled (.record members) (.object entries) value) :
    ∃ others, value = .object others ∧ Admits (members.map Member.field) others ∧
      ∀ member ∈ members,
        member.Alike (member.field.given entries) (member.field.given others) := by
  cases respelled with
  | @entry _ member name value other before after among accepted inside =>
    have absent := count_around_eq_zero among accepted admits
    exact ⟨_, rfl, alike_of_change (some (name, value)) (some (name, other)) distinct among absent
      accepted accepted admits (.inside inside)⟩
  | @rename _ member name other before after node among accepted also =>
    have absent := count_around_eq_zero among accepted admits
    exact ⟨_, rfl, alike_of_change (some (name, node)) (some (other, node)) distinct among absent
      accepted also admits (.same _)⟩
  | @drop _ member name before after among omissible accepted =>
    have absent := count_around_eq_zero among accepted admits
    exact ⟨_, rfl, alike_of_change (some (name, .null)) none distinct among absent
      accepted rfl admits (.dropped omissible)⟩
  | @add _ member name before after among omissible accepted absent =>
    have absent := FieldName.count_eq_zero_iff.mpr (FieldName.given_eq_none_iff.mpr absent)
    exact ⟨_, rfl, alike_of_change none (some (name, .null)) distinct among absent
      rfl accepted admits (.added omissible)⟩
  | @permute _ others _ same =>
    obtain ⟨known, once⟩ := admits
    refine ⟨others, rfl, ⟨fun entry listed => known entry (same.mem_iff.mpr listed), ?_⟩, ?_⟩
    · intro field member
      have count : field.count entries = field.count others := same.countP_eq _
      exact count ▸ once field member
    · intro member among
      rw [FieldName.given_perm (once _ (List.mem_map_of_mem among)) same]
      exact .same _

end Records

/-! ## The spelling does not count -/

/-- Another spelling of a value is read as the value is. -/
def Shape.Steady {α : Type} (shape : Shape α) (grammar : Grammar) : Prop :=
  ∀ value other result, Respelled grammar value other → shape.ofValue value = .ok result →
    shape.ofValue other = .ok result

section Places

variable {α : Type} {shape : Shape α} {grammar : Grammar}

/-- What may be missing is there in either spelling. -/
theorem Shape.Steady.option (steady : shape.Steady grammar) :
    shape.option.Steady (.optional grammar) := by
  intro value other result respelled read
  cases respelled with
  | given inside =>
    obtain ⟨set, still⟩ := inside.ne_null
    rcases Shape.ofValue_option read with ⟨unset, -⟩ | ⟨-, item, found, rfl⟩
    · exact absurd unset set
    · exact Shape.ofValue_some still (steady _ _ _ inside found)

/-- One item of a list is spelled differently. -/
theorem Shape.Steady.list (steady : shape.Steady grammar) :
    shape.list.Steady (.list grammar) := by
  intro value other results respelled read
  cases respelled with
  | @item _ value other before after inside =>
    obtain ⟨items, listed, read⟩ := bind_eq_ok.mp read
    obtain rfl := Except.ok.inj listed
    obtain ⟨result, found⟩ := exists_mapM_iff.mp ⟨results, read⟩ value (by simp)
    have first : shape.ofValue value = .ok result := found
    have second : shape.ofValue other = .ok result := steady _ _ _ inside found
    have same : (before ++ other :: after).mapM shape.ofValue =
        (before ++ value :: after).mapM shape.ofValue := by
      simp only [List.mapM_append, List.mapM_cons, first, second]
    exact bind_eq_ok.mpr ⟨_, rfl, same.trans read⟩

variable {field : FieldName} {entries others : List (String × Value)} {value missing : α}

/-- A field that has to be given holds the same when it is given the like. -/
theorem exists_given_of_alike (steady : shape.Steady grammar)
    (alike : Member.Alike ⟨field, true, grammar⟩ (field.given entries) (field.given others))
    (held : ∃ node, field.given entries = some node ∧ shape.ofValue node = .ok value) :
    ∃ node, field.given others = some node ∧ shape.ofValue node = .ok value := by
  obtain ⟨node, given, read⟩ := held
  rw [given] at alike
  generalize field.given others = after at alike ⊢
  cases alike with
  | same => exact ⟨node, rfl, read⟩
  | inside respelled => exact ⟨_, rfl, steady _ _ _ respelled read⟩
  | dropped omissible => contradiction

/-- A field whose default is what a null is read as holds the same when it is given the like. -/
theorem held_of_alike (steady : shape.Steady grammar) (unset : shape.ofValue .null = .ok missing)
    (alike : Member.Alike ⟨field, false, grammar⟩ (field.given entries) (field.given others))
    (held : Held field shape.ofValue missing entries value) :
    Held field shape.ofValue missing others value := by
  unfold Held at held ⊢
  generalize field.given entries = before at alike held
  generalize field.given others = after at alike ⊢
  cases alike with
  | same => exact held
  | inside respelled => exact steady _ _ _ respelled held
  | dropped => exact Except.ok.inj (held.symm.trans unset)
  | added => exact held ▸ unset

end Places

mutual

/-- A legible shape reads the values of the grammar that it follows alike in every spelling. -/
theorem Shape.Follows.steady : {α : Type} → {shape : Shape α} → {grammar : Grammar} →
    shape.Legible → shape.Follows grammar → shape.Steady grammar
  | _, .text, _, _, follows => by
    obtain rfl := follows
    intro _ _ _ respelled
    cases respelled
  | _, .address, _, _, follows => by
    obtain rfl := follows
    intro _ _ _ respelled
    cases respelled
  | _, .boolean, _, _, follows => by
    obtain rfl := follows
    intro _ _ _ respelled
    cases respelled
  | _, @Shape.integer _ _, _, _, follows => by
    obtain rfl := follows
    intro _ _ _ respelled
    cases respelled
  | _, @Shape.keyword _ _, _, _, follows => by
    obtain rfl := follows
    intro _ _ _ respelled
    cases respelled
  | _, .option inner, _, legible, follows => by
    obtain ⟨own, rfl, follows⟩ := follows
    have steady : inner.Steady own := Shape.Follows.steady legible.2 follows
    exact steady.option
  | _, .list item, _, legible, follows => by
    obtain ⟨own, rfl, follows⟩ := follows
    have steady : item.Steady own := Shape.Follows.steady legible follows
    exact steady.list
  | _, .record name fields, _, legible, follows => by
    obtain ⟨members, rfl, follows⟩ := follows
    obtain ⟨distinct, legible⟩ := legible
    intro value other values respelled read
    obtain ⟨entries, listed, admits, holds⟩ := (Shape.ofValue_record distinct).mp read
    have apart : (members.flatMap fun member => member.field.candidates).Nodup := by
      rw [← List.flatMap_map, follows.names, ← fields.candidates_eq]
      exact distinct
    obtain rfl : value = .object entries := by
      cases value with
      | object => rw [Option.some.inj listed]
      | null => exact absurd rfl respelled.ne_null.1
      | _ => contradiction
    rw [← follows.names] at admits
    obtain ⟨others, rfl, admits, alike⟩ := alike_of_respelled apart admits respelled
    rw [follows.names] at admits
    exact (Shape.ofValue_record distinct).mpr
      ⟨others, rfl, admits, Fields.Follows.holds_of_alike legible follows alike holds⟩
  | _, .refine form accept _ _, _, legible, follows => by
    rcases follows with ⟨follows, -⟩ | ⟨choices, rfl, -⟩
    · have steady : form.Steady _ := Shape.Follows.steady legible follows
      intro value other result respelled read
      obtain ⟨raw, read, admitted⟩ := Shape.ofValue_refine.mp read
      exact Shape.ofValue_refine.mpr ⟨raw, steady _ _ _ respelled read, admitted⟩
    · intro _ _ _ respelled
      cases respelled

/-- Fields hold the same after entries that give their members the like. -/
theorem Fields.Follows.holds_of_alike : {β σ : Type} → {fields : Fields β σ} →
    {members : List Member} → {entries others : List (String × Value)} → {values : β} →
    fields.Legible → fields.Follows members →
    (∀ member ∈ members, member.Alike (member.field.given entries) (member.field.given others)) →
    fields.Holds entries values → fields.Holds others values
  | _, _, .nil, _, _, _, _, _, _, _, _ => trivial
  | _, _, .required field shape rest, _, _, _, (value, _), legible, follows, alike, holds => by
    obtain ⟨grammar, members, rfl, follows, later⟩ := follows
    obtain ⟨first, alike⟩ := List.forall_mem_cons.mp alike
    obtain ⟨held, holds⟩ := holds
    have steady : shape.Steady grammar := Shape.Follows.steady legible.1 follows
    exact ⟨exists_given_of_alike steady first held,
      Fields.Follows.holds_of_alike legible.2 later alike holds⟩
  | _, _, .defaulted field shape _ rest, _, _, _, (value, _), legible, follows, alike, holds => by
    obtain ⟨grammar, members, rfl, follows, unset, later⟩ := follows
    obtain ⟨first, alike⟩ := List.forall_mem_cons.mp alike
    obtain ⟨held, holds⟩ := holds
    have steady : shape.Steady grammar := Shape.Follows.steady legible.1 follows
    exact ⟨held_of_alike steady unset first held,
      Fields.Follows.holds_of_alike legible.2 later alike holds⟩
  | _, _, .sparse field shape rest, _, _, _, (value, _), legible, follows, alike, holds => by
    obtain ⟨grammar, members, rfl, follows, later⟩ := follows
    obtain ⟨first, alike⟩ := List.forall_mem_cons.mp alike
    obtain ⟨held, holds⟩ := holds
    have steady : shape.Steady grammar := Shape.Follows.steady legible.2.1 follows
    exact ⟨held_of_alike steady.option rfl first held,
      Fields.Follows.holds_of_alike legible.2.2 later alike holds⟩

end

/-! ## A member under two names -/

/-- A value that gives a member of a record under two of its names, at any depth. -/
def Doubled (grammar : Grammar) (value : Value) : Prop :=
  ∃ members entries, Stands (.record members) (.object entries) grammar value ∧
    ∃ member ∈ members, ∃ first ∈ entries, ∃ second ∈ entries, first.1 ≠ second.1 ∧
      member.field.accepts first.1 = true ∧ member.field.accepts second.1 = true

/-- A value that gives a member under two names does not conform. -/
theorem not_conforms_of_doubled {grammar : Grammar} {value : Value}
    (doubled : Doubled grammar value) : ¬ Conforms grammar value := by
  intro conforms
  obtain ⟨members, entries, stands, member, among, first, listed, second, also, different,
    accepts, accepted⟩ := doubled
  obtain ⟨_, held, admits, -⟩ := conforms_record_iff.mp (conforms_of_stands stands conforms)
  obtain rfl := Option.some.inj held
  obtain ⟨before, after, rfl⟩ := List.append_of_mem listed
  have absent := count_around_eq_zero among accepts admits
  have refused := FieldName.given_eq_none_iff.mp (FieldName.count_eq_zero_iff.mp absent)
  have around : second ∈ before ++ after := by
    simp only [List.mem_append, List.mem_cons] at also ⊢
    rcases also with earlier | rfl | later
    · exact .inl earlier
    · exact absurd rfl different
    · exact .inr later
  rw [refused second around] at accepted
  contradiction

/-- A legible shape refuses a value of the grammar that it follows when a member is given under two
names. -/
theorem Shape.Follows.refuses_doubled {α : Type} {shape : Shape α} {grammar : Grammar}
    {value : Value} (legible : shape.Legible) (follows : shape.Follows grammar)
    (doubled : Doubled grammar value) : ∃ fault, shape.ofValue value = .error fault := by
  cases read : shape.ofValue value with
  | error fault => exact ⟨fault, rfl⟩
  | ok result =>
    exact absurd ((Shape.Follows.accepts legible follows value).mp ⟨result, read⟩)
      (not_conforms_of_doubled doubled)

end RunningConfig.Schema
