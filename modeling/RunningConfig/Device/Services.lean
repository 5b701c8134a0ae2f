import RunningConfig.Keyword
import RunningConfig.Presence
/-!
# Global services

The services that apply to the whole router: timestamps on debug and log messages, turned on by
the presence of a block, and automatic password encryption.
-/

namespace RunningConfig

/-- What is put in front of a message as its time. -/
inductive TimestampMode where
  /-- Time since start. -/
  | uptime
  /-- Local date and time. -/
  | datetime
  /-- Local date and time to the millisecond. -/
  | datetimeMsec
  deriving DecidableEq, Repr, Inhabited

instance : Keyword TimestampMode where
  all := [.uptime, .datetime, .datetimeMsec]
  word
    | .uptime => "uptime"
    | .datetime => "datetime"
    | .datetimeMsec => "datetime msec"
  mem_all choice := by cases choice <;> simp
  word_injective := by
    intro left right
    cases left <;> cases right <;> simp

/-- The global services. -/
structure Services where
  /-- Timestamps on debug messages. -/
  timestampsDebug : Presence TimestampMode := .absent
  /-- Timestamps on log messages. -/
  timestampsLog : Presence TimestampMode := .absent
  /-- Automatic password encryption. -/
  passwordEncryption : Option Bool := none
  deriving DecidableEq, Repr, Inhabited

end RunningConfig
