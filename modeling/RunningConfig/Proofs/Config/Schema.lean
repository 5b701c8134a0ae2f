import RunningConfig.Device.Schema
import RunningConfig.Proofs.Schema.Reading
/-!
# The schema of a configuration is legible

The integers of the schema are of at most 32 bits, none of its optional parts is optional twice,
and no record accepts one name for two fields.
-/

namespace RunningConfig

open Schema (Shape Fields structureShape optionalField)

/-- Every configuration that the schema writes reads back. -/
theorem Config.legible : Config.shape.Legible := by
  simp only [Config.shape, structureShape, optionalField, Shape.Legible, Fields.Legible,
    Shape.nullable, Services.shape, Presence.shape, EnableSecret.shape, Encryption.shape,
    Authentication.blockShape, Authentication.shape, AuthenticationMethod.shape, User.shape,
    Password.userShape, Interface.shape, Port.shape, Ipv4Interface.shape, Ospf.shape,
    OspfNetwork.shape, StaticRoute.shape, Line.shape, Password.lineShape, LoginPolicy.shape,
    ExecTimeout.shape, true_and, and_true]
  -- What is left are the ranges of the integers and the names of each record, all of them closed.
  and_intros
  all_goals decide

end RunningConfig
