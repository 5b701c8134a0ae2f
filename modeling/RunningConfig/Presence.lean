/-!
# Presence of a directive

The existence of a directive is configured apart from its value: a block that is there turns
the directive on, what the block holds only adjusts it. Three states keep "present, value left
to the device" apart from "absent".
-/

namespace RunningConfig

/-- Whether a directive is configured, and with which value. -/
inductive Presence (α : Type) where
  /-- Not configured. -/
  | absent
  /-- Configured, its value left to the device. -/
  | defaulted
  /-- Configured with a value. -/
  | valued (value : α)
  deriving DecidableEq, Repr, Inhabited

namespace Presence

variable {α : Type}

/-- The state given by whether the directive is there and by its value; a value without
presence counts for nothing. -/
def ofParts (present : Bool) (value : Option α) : Presence α :=
  if present then value.elim defaulted valued else absent

/-- Configured, with or without a value. -/
def isPresent : Presence α → Bool
  | absent => false
  | defaulted | valued _ => true

/-- The configured value. -/
def value? : Presence α → Option α
  | valued value => some value
  | absent | defaulted => none

/-- The configured value, or a substitute. -/
def valueOr (presence : Presence α) (substitute : α) : α := presence.value?.getD substitute

/-- The block that stands for a state: none when absent, else its optional value. -/
def toBlock : Presence α → Option (Option α)
  | absent => none
  | defaulted => some none
  | valued value => some (some value)

/-- The state a block stands for. -/
def ofBlock (block : Option (Option α)) : Presence α := ofParts block.isSome block.join

/-- A state is recovered from its block. -/
theorem ofBlock_toBlock (presence : Presence α) : ofBlock presence.toBlock = presence := by
  cases presence <;> rfl

end Presence

end RunningConfig
