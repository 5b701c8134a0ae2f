import RunningConfig.Load
import RunningConfig.Proofs.Config.Schema
import RunningConfig.Proofs.Yaml.Document
import RunningConfig.Proofs.Yaml.Source
/-!
# Saving and loading

A value of a shape is written as a model value, printed as a document, read as a document again and
then by the shape. The printer is faithful for values whose keys are names and whose lists hold no
lists, which is a property of the shape that can be checked. The schema of configurations has it,
so a configuration that is saved and loaded is itself, unless it is refused for what it holds.
-/

namespace RunningConfig

namespace Schema

/-- A shape that may write a value as a list. -/
def Shape.listed : {α : Type} → Shape α → Bool
  | _, .list _ => true
  | _, .option inner => inner.listed
  | _, .refine form _ _ _ => form.listed
  | _, _ => false

/-- A shape that is not listed writes no list. -/
theorem Shape.write_ne_list : {α : Type} → (shape : Shape α) → shape.listed = false →
    (value : α) → (items : List Value) → shape.write value ≠ .list items
  | _, .text, _, _, _ => by simp [write]
  | _, .address, _, _, _ => by simp [write]
  | _, .boolean, _, _, _ => by simp [write]
  | _, @Shape.integer _ _, _, _, _ => by simp [write]
  | _, @Shape.keyword _ _, _, _, _ => by simp [write]
  | _, .record _ _, _, _, _ => by simp [write]
  | _, .option _, _, none, _ => by simp [write]
  | _, .option inner, single, some value, items => by
    rw [write]
    exact inner.write_ne_list single value items
  | _, .refine form _ toForm _, single, value, items => by
    rw [write]
    exact form.write_ne_list single (toForm value) items

mutual

/-- A shape of which every value can be printed: no item of a list is a list, and every name of a
field can be a key. -/
def Shape.prints : {α : Type} → Shape α → Bool
  | _, .option inner => inner.prints
  | _, .list item => !item.listed && item.prints
  | _, .record _ fields => fields.prints
  | _, .refine form _ _ _ => form.prints
  | _, _ => true

/-- Fields of which every value can be printed. -/
def Fields.prints : {β σ : Type} → Fields β σ → Bool
  | _, _, .nil => true
  | _, _, .required field shape rest =>
    decide (Yaml.Plain.IsKey field.name.toList) && (shape.prints && rest.prints)
  | _, _, .defaulted field shape _ rest =>
    decide (Yaml.Plain.IsKey field.name.toList) && (shape.prints && rest.prints)
  | _, _, .sparse field shape rest =>
    decide (Yaml.Plain.IsKey field.name.toList) && (shape.prints && rest.prints)

end

/-- A field whose name is a key, before others, when all of them print. -/
theorem prints_field {name : String} {shape rest : Bool}
    (prints : (decide (Yaml.Plain.IsKey name.toList) && (shape && rest)) = true) :
    Yaml.Plain.IsKey name.toList ∧ shape = true ∧ rest = true := by
  simpa only [Bool.and_eq_true, decide_eq_true_eq] using prints

mutual

/-- What a shape that prints writes can be printed. -/
theorem Shape.printable_write : {α : Type} → (shape : Shape α) → shape.prints = true →
    (value : α) → Yaml.Printable (shape.write value)
  | _, .text, _, value => .text value
  | _, .address, _, value => .text value.toText
  | _, .boolean, _, value => .boolean value
  | _, @Shape.integer _ _, _, value => .integer (MachineInteger.toInt value)
  | _, @Shape.keyword _ _, _, value => .text (Keyword.word value)
  | _, .option _, _, none => .null
  | _, .option inner, prints, some value => inner.printable_write prints value
  | _, .list item, prints, values => by
    obtain ⟨single, prints⟩ := Bool.and_eq_true_iff.mp prints
    rw [Shape.write]
    refine .list ?_ ?_
    · simp only [List.forall_mem_map]
      exact fun value _ => item.printable_write prints value
    · simp only [List.forall_mem_map]
      exact fun value _ first inner =>
        item.write_ne_list (Bool.not_eq_true' _ ▸ single) value (first :: inner)
  | _, .record _ fields, prints, values => by
    have entries := fields.printable_write prints values
    exact .object (fun entry member => (entries entry member).2)
      fun entry member => (entries entry member).1
  | _, .refine form _ toForm _, prints, value => form.printable_write prints (toForm value)

/-- What fields that print write can be printed, under keys that are names. -/
theorem Fields.printable_write : {β σ : Type} → (fields : Fields β σ) → fields.prints = true →
    (values : β) → ∀ entry ∈ fields.write values,
    Yaml.Plain.IsKey entry.1.toList ∧ Yaml.Printable entry.2
  | _, _, .nil, _, _ => by simp [Fields.write]
  | _, _, .required _ shape rest, prints, (value, values) => by
    obtain ⟨key, first, others⟩ := prints_field prints
    exact List.forall_mem_cons.mpr ⟨⟨key, shape.printable_write first value⟩,
      rest.printable_write others values⟩
  | _, _, .defaulted _ shape _ rest, prints, (value, values) => by
    obtain ⟨key, first, others⟩ := prints_field prints
    exact List.forall_mem_cons.mpr ⟨⟨key, shape.printable_write first value⟩,
      rest.printable_write others values⟩
  | _, _, .sparse _ _ rest, prints, (none, values) => by
    obtain ⟨-, -, others⟩ := prints_field prints
    exact rest.printable_write others values
  | _, _, .sparse _ shape rest, prints, (some value, values) => by
    obtain ⟨key, first, others⟩ := prints_field prints
    exact List.forall_mem_cons.mpr ⟨⟨key, shape.printable_write first value⟩,
      rest.printable_write others values⟩

end

/-- A value that is written as an object with entries is read back from its document. -/
theorem Shape.ofYaml_document {α : Type} {shape : Shape α} {value : α}
    {entries : List (String × Value)} (legible : shape.Legible) (prints : shape.prints = true)
    (written : shape.write value = .object entries) (nonempty : entries ≠ []) :
    shape.ofYaml (Yaml.Printer.document (shape.write value)) = .ok value := by
  have printable : Yaml.Printable (.object entries) := written ▸ shape.printable_write prints value
  obtain ⟨root, parsed, shown⟩ := Yaml.Document.ofText_document nonempty printable
  rw [← written] at parsed shown
  have read : shape.read (Yaml.Document.ofRoot root).source { node := root, path := .root } =
      .ok value := shape.read_write (Yaml.Document.sees _) legible value shown
  have sameRoot : (Yaml.Document.ofRoot root).root = root := rfl
  simp only [Shape.ofYaml, parsed, sameRoot, read]

end Schema

namespace Config

/-- A configuration that is saved and loaded is the one saved, unless it is refused with the first
violation it holds. -/
theorem ofYaml_toYaml (config : Config) :
    ofYaml config.toYaml = match config.validate with
      | .ok () => .ok config
      | .error violation => .error (.invalid violation) := by
  have prints : shape.prints = true := by decide
  have read : shape.ofYaml config.toYaml = .ok config :=
    Schema.Shape.ofYaml_document legible prints rfl (List.cons_ne_nil _ _)
  rw [ofYaml, read]
  cases valid : config.validate <;> simp only [valid]

end Config

end RunningConfig
