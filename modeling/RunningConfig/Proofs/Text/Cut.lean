import RunningConfig.Keyword
import RunningConfig.Proofs.Text.Decimal
/-!
# Where a part of a text ends

A text made of parts tells where its first part ends when no such part holds what comes next: a
word without blanks ends at the first blank. The words of a closed set of choices tell it without
help when none of them begins another.
-/

namespace RunningConfig

namespace Text

/-- Two sequences begin with the same part when that part holds only accepted items and what
follows it, if anything, begins with an item that is not accepted. -/
theorem append_inj_of_stop {α : Type} {ok : α → Prop} {left right leftRest rightRest : List α}
    (leftOk : ∀ item ∈ left, ok item) (rightOk : ∀ item ∈ right, ok item)
    (leftStop : ∀ item ∈ leftRest.head?, ¬ok item) (rightStop : ∀ item ∈ rightRest.head?, ¬ok item)
    (same : left ++ leftRest = right ++ rightRest) : left = right ∧ leftRest = rightRest := by
  induction left generalizing right with
  | nil =>
    cases right with
    | nil => exact ⟨rfl, same⟩
    | cons item right =>
      obtain rfl : leftRest = item :: (right ++ rightRest) := same
      exact absurd (rightOk item List.mem_cons_self) (leftStop item rfl)
  | cons item left ih =>
    cases right with
    | nil =>
      obtain rfl : item :: (left ++ leftRest) = rightRest := same
      exact absurd (leftOk item List.mem_cons_self) (rightStop item rfl)
    | cons other right =>
      obtain ⟨rfl, tails⟩ := List.cons.inj same
      have leftLater := (List.forall_mem_cons.mp leftOk).2
      have rightLater := (List.forall_mem_cons.mp rightOk).2
      obtain ⟨rfl, rest⟩ := ih leftLater rightLater tails
      exact ⟨rfl, rest⟩

/-- A word: there is no blank in it. -/
def Solid (text : String) : Prop := ' ' ∉ text.toList

instance (text : String) : Decidable (Solid text) := by unfold Solid; infer_instance

/-- The text of a number is a word. -/
theorem solid_toString (number : Nat) : Solid (toString number) := not_mem_toString rfl number

/-- A text that begins with a blank. -/
def BlankFirst (text : String) : Prop := text.toList.head? = some ' '

/-- Two texts that begin with a word before a blank begin with the same word. -/
theorem append_inj_of_solid {left right leftRest rightRest : String} (leftSolid : Solid left)
    (rightSolid : Solid right) (leftBlank : BlankFirst leftRest) (rightBlank : BlankFirst rightRest)
    (same : left ++ leftRest = right ++ rightRest) : left = right ∧ leftRest = rightRest := by
  have chars : left.toList ++ leftRest.toList = right.toList ++ rightRest.toList := by
    simpa only [String.toList_append] using congrArg String.toList same
  have plain {text : String} (solid : Solid text) : ∀ char ∈ text.toList, char ≠ ' ' :=
    fun _ member blank => solid (blank ▸ member)
  have stop {text : String} (blank : BlankFirst text) :
      ∀ char ∈ text.toList.head?, ¬char ≠ ' ' := by
    rw [blank]
    simp
  obtain ⟨first, rest⟩ := append_inj_of_stop (plain leftSolid) (plain rightSolid)
    (stop leftBlank) (stop rightBlank) chars
  exact ⟨String.toList_inj.mp first, String.toList_inj.mp rest⟩

/-- Two texts that begin with a number before a blank begin with the same number. -/
theorem number_append_inj {left right : Nat} {leftRest rightRest : String}
    (leftBlank : BlankFirst leftRest) (rightBlank : BlankFirst rightRest)
    (same : toString left ++ leftRest = toString right ++ rightRest) :
    left = right ∧ leftRest = rightRest := by
  obtain ⟨number, rest⟩ := append_inj_of_solid (solid_toString left) (solid_toString right)
    leftBlank rightBlank same
  exact ⟨toString_inj number, rest⟩

/-- A text of one part or more is the first part and what comes after it. -/
theorem intercalate_cons (separator text : String) (texts : List String) :
    separator.intercalate (text :: texts) =
      text ++ if texts.isEmpty then "" else separator ++ separator.intercalate texts := by
  cases texts with
  | nil => simp
  | cons next texts => simp [String.intercalate_cons_cons, String.append_assoc]

end Text

namespace Keyword

variable {α : Type} [Keyword α]

/-- No word on offer begins another. -/
def PrefixFree (α : Type) [Keyword α] : Prop :=
  ∀ left right : α, (word left).toList <+: (word right).toList → left = right

/-- Two texts that begin with a word of a prefix free choice begin with the same one. -/
theorem word_append_inj (free : PrefixFree α) {left right : α} {leftRest rightRest : String}
    (same : word left ++ leftRest = word right ++ rightRest) :
    left = right ∧ leftRest = rightRest := by
  have chars : (word left).toList ++ leftRest.toList = (word right).toList ++ rightRest.toList := by
    simpa only [String.toList_append] using congrArg String.toList same
  have shared : (word right).toList <+: (word left).toList ++ leftRest.toList :=
    chars ▸ List.prefix_append _ _
  obtain rfl : left = right := by
    rcases List.prefix_or_prefix_of_prefix (List.prefix_append _ _) shared with before | after
    · exact free left right before
    · exact (free right left after).symm
  exact ⟨rfl, String.append_right_inj _ |>.mp same⟩

/-- Choices of a prefix free kind are known from their words with blanks between them. -/
theorem intercalate_word_inj (free : PrefixFree α) {left right : List α} (leftSome : left ≠ [])
    (rightSome : right ≠ [])
    (same : " ".intercalate (left.map word) = " ".intercalate (right.map word)) :
    left = right := by
  induction left generalizing right with
  | nil => contradiction
  | cons one left ih =>
    cases right with
    | nil => contradiction
    | cons other right =>
      rw [List.map_cons, List.map_cons, Text.intercalate_cons, Text.intercalate_cons] at same
      obtain ⟨rfl, rest⟩ := word_append_inj free same
      cases left with
      | nil =>
        cases right with
        | nil => rfl
        | cons next right => simp [← String.toList_inj] at rest
      | cons second left =>
        cases right with
        | nil => simp [← String.toList_inj] at rest
        | cons next right =>
          have later : " ".intercalate ((second :: left).map word) =
              " ".intercalate ((next :: right).map word) := String.append_right_inj _ |>.mp rest
          rw [ih (by simp) (by simp) later]

end Keyword

end RunningConfig
