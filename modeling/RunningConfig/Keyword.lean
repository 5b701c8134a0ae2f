/-!
# Keywords of the device

A closed set of choices, each with the one word the device uses for it. Words are distinct, so
a word determines its choice and `ofWord?` finds it.
-/

namespace RunningConfig

/-- A closed set of choices with distinct words. -/
class Keyword (α : Type) where
  /-- Every choice, in the order it is offered. -/
  all : List α
  /-- The word of a choice. -/
  word : α → String
  /-- Nothing is left out. -/
  mem_all : ∀ choice, choice ∈ all
  /-- A word stands for one choice. -/
  word_injective : ∀ {left right}, word left = word right → left = right

namespace Keyword

/-- The words on offer, in order. -/
def words (α : Type) [Keyword α] : List String := (all : List α).map word

variable {α : Type} [Keyword α]

/-- The choice of a word. -/
def ofWord? (text : String) : Option α :=
  (all : List α).find? fun choice => word choice = text

/-- A choice is found by its word. -/
theorem ofWord?_word (choice : α) : ofWord? (word choice) = some choice := by
  cases found : (ofWord? (word choice) : Option α) with
  | none =>
    have missed := List.find?_eq_none.mp found choice (mem_all choice)
    simp at missed
  | some other =>
    have same : word other = word choice := by simpa using List.find?_some found
    rw [word_injective same]

/-- Only the word of a choice finds it. -/
theorem word_of_ofWord? {text : String} {choice : α} (found : ofWord? text = some choice) :
    word choice = text := by
  simpa using List.find?_some found

end Keyword

end RunningConfig
