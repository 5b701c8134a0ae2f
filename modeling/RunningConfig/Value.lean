import RunningConfig.Number.Binary64
/-!
# Model values

The tree that configurations are exchanged in: scalars, lists and objects. The entries of an
object keep the order they are given in, and a reader meets them in that order.
-/

namespace RunningConfig

/-- A model value. -/
inductive Value where
  /-- Nothing. -/
  | null
  /-- A truth value. -/
  | boolean (value : Bool)
  /-- An integer of any size. -/
  | integer (value : Int)
  /-- A double. -/
  | float (value : Binary64)
  /-- A text. -/
  | text (value : String)
  /-- A list of values. -/
  | list (items : List Value)
  /-- Keys and their values, in the order they are given. -/
  | object (entries : List (String × Value))
  deriving Repr, Inhabited

end RunningConfig
