import RunningConfig.Credential
import RunningConfig.Mask
/-!
# Why a configuration cannot be rendered

Two things can go wrong while text is made: a prefix length that has no mask, and a credential
that has no encoding of the type asked for.
-/

namespace RunningConfig

/-- Why a configuration cannot be rendered. -/
inductive RenderFault where
  /-- A prefix length outside 0 through 32. -/
  | prefixLength (length : Int32)
  /-- A credential without an encoding of the given type. -/
  | credential (plaintext : String) (encryption : Encryption)
  deriving DecidableEq, Repr

namespace RenderFault

/-- The message of a fault. -/
def message : RenderFault → String
  | prefixLength length =>
    "invalid ipv4 prefix length " ++ toString length.toInt ++ ", must be between 0 and "
      ++ toString Mask.longest.toInt
  | credential plaintext encryption =>
    "no type " ++ encryption.toText ++ " encoding available for credential '" ++ plaintext ++ "'"

end RenderFault

/-- What rendering gives: a result or the first fault met. -/
abbrev Rendered (α : Type) := Except RenderFault α

namespace Render

/-- The mask of a prefix length, as text. -/
def mask (length : Int32) : Rendered String :=
  match Mask.mask? length with
  | some mask => .ok mask.toText
  | none => .error (.prefixLength length)

/-- The wildcard of a prefix length, as text. -/
def wildcard (length : Int32) : Rendered String :=
  match Mask.wildcard? length with
  | some wildcard => .ok wildcard.toText
  | none => .error (.prefixLength length)

/-- The text shown for a credential under a storage type. -/
def credential (plaintext : String) (encryption : Encryption) : Rendered String :=
  match Credential.encode? plaintext encryption with
  | some text => .ok text
  | none => .error (.credential plaintext encryption)

end Render

end RunningConfig
