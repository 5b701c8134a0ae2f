import RunningConfig.Proofs.Schema.Reading
import RunningConfig.Proofs.Yaml.Composing
import RunningConfig.Yaml.Source
/-!
# Reading what a document shows

A document gives each reader what its nodes show. No text that is plain looks like null, so nothing
that is written is taken for an unset option but null itself.
-/

namespace RunningConfig.Yaml

open Schema (Read)

/-- The text of an integer is no word for null. -/
theorem isNull_integer (value : Int) : Scalar.isNull (toString value) = false := by
  have chars : ∀ char ∈ (toString value).toList, (char.isDigit || char = '-') = true := by
    intro char member
    rw [toList_toString, List.mem_append] at member
    rcases member with sign | digit
    · split at sign
      · contradiction
      · rw [List.mem_singleton.mp sign]
        rfl
    · rw [isDigit_of_mem_toDigits _ char digit, Bool.true_or]
  have words : ∀ word ∈ ["null", "Null", "NULL", "~"],
      (word.toList.any fun char => !(char.isDigit || char = '-')) = true :=
    List.all_eq_true.mp (by decide)
  have filled : (toString value).isEmpty = false := by
    rw [String.isEmpty_eq_false_iff]
    intro empty
    exact Printer.toList_integer_ne_nil value (by rw [empty]; rfl)
  rw [Scalar.isNull, filled, Bool.false_or, ← Bool.not_eq_true, Scalar.isNullWord]
  intro word
  obtain ⟨char, member, other⟩ := List.any_eq_true.mp (words _ (List.contains_iff_mem.mp word))
  rw [chars char member] at other
  exact Bool.false_ne_true other

/-- A plain text is no word for null. -/
theorem isNull_of_style {text : String} (plain : Printer.style text = .plain) :
    Scalar.isNull text = false := by
  have clear := (plain_of_style plain).2.1
  rw [← Bool.not_eq_true]
  intro null
  rw [Printer.isAmbiguous, Scalar.resolve, if_pos null] at clear
  simp at clear

/-- Items related in a row stay so when they are given their paths. -/
theorem forall₂_mapIdx {α β γ : Type} {relate : α → β → Prop} {relate' : α → γ → Prop}
    {place : Nat → β → γ} (each : ∀ index value node, relate value node →
      relate' value (place index node)) {values : List α} {nodes : List β}
    (related : List.Forall₂ relate values nodes) :
    List.Forall₂ relate' values (nodes.mapIdx place) := by
  induction related generalizing place with
  | nil => exact .nil
  | cons first _ ih =>
    rw [List.mapIdx_cons]
    exact .cons (each 0 _ _ first) (ih fun index => each (index + 1))

/-- Every reader of a document reads what its nodes show. -/
theorem Document.sees (document : Document) :
    document.source.Sees (fun name view => ∃ mark : Mark, view.node = .scalar { mark } .plain name)
      (fun value view => Shows value view.node) where
  name := by
    rintro α text expected parse value ⟨node, path⟩ ⟨mark, rfl⟩ parsed
    simp [source, resolve, parsed, View.accept]
  text := by
    rintro α text expected parse value ⟨node, path⟩ shown parsed
    obtain @⟨⟩ := shown
    simp [source, resolve, parsed, View.accept]
  keyword := by
    rintro α word choose choice ⟨node, path⟩ shown chosen
    obtain @⟨⟩ := shown
    simp [source, resolve, View.keyword, tagWord?, chosen, View.accept]
  boolean := by
    rintro value ⟨node, path⟩ shown
    obtain @⟨⟩ := shown
    have read : Scalar.boolean? (toString value) = some value := by cases value <;> decide
    simp [source, resolve, View.plainText?, read]
  integer := by
    rintro α inst value ⟨node, path⟩ bounded shown
    have small := bounded.natAbs_lt value
    have positive : MachineInteger.signed α = false → 0 ≤ MachineInteger.toInt value :=
      fun unsigned => MachineInteger.toInt_nonneg unsigned value
    have held := MachineInteger.ofInt?_toInt value
    generalize MachineInteger.toInt value = number at shown small positive held
    obtain @⟨⟩ := shown
    have read : (if MachineInteger.signed α then Scalar.signed? else Scalar.unsigned?)
        (toString number) = some number := by
      cases signed : MachineInteger.signed α with
      | true => exact Scalar.signed?_toString small
      | false =>
        refine Scalar.unsigned?_toString (positive signed) ?_
        unfold Scalar.largest64
        omega
    generalize toString number = text at read
    simp [source, resolve, View.integer, View.plainText?, read, held]
  unset := by
    rintro ⟨node, path⟩ shown
    obtain @⟨⟩ := shown
    have null : Scalar.isNull "null" = true := by decide
    simp [source, resolve, View.optional, null]
  given := by
    rintro value ⟨node, path⟩ shown other
    cases shown with
    | null => contradiction
    | boolean value =>
      have null : Scalar.isNull (toString value) = false := by cases value <;> decide
      simp [source, resolve, View.optional, null]
    | integer value =>
      have null := isNull_integer value
      generalize toString value = text at null
      simp [source, resolve, View.optional, null]
    | text value =>
      cases style : Printer.style value with
      | plain => simp [source, resolve, View.optional, isNull_of_style style]
      | _ => rfl
    | list => rfl
    | object => rfl
  items := by
    rintro values ⟨node, path⟩ shown
    cases shown with
    | list mark each =>
      refine ⟨_, rfl, forall₂_mapIdx ?_ each⟩
      exact fun _ _ _ shown => shown
  entries := by
    rintro name values ⟨node, path⟩ shown
    cases shown with
    | object mark keys each =>
      refine ⟨_, rfl, List.forall₂_map_right_iff.mpr ?_⟩
      induction keys with
      | nil => exact .nil
      | cons key _ ih =>
        cases each with
        | cons first others => exact .cons ⟨key, first⟩ (ih others)
  within := rfl

end RunningConfig.Yaml
