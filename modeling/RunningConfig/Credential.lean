/-!
# Stored credentials

A credential is stored as it is (type 0), hashed (type 5) or obscured (type 7). The two
encodings are a closed table, not a cipher: only the two credentials of the lab have one.
-/

namespace RunningConfig

/-- How a credential is stored. -/
inductive Encryption where
  /-- Type 0: as it is. -/
  | plaintext
  /-- Type 5: salted hash. -/
  | md5
  /-- Type 7: reversible obscuring. -/
  | vigenere
  deriving DecidableEq, Repr, Inhabited

namespace Encryption

/-- The number the device shows for a storage type. -/
def number : Encryption → UInt8
  | plaintext => 0
  | md5 => 5
  | vigenere => 7

/-- The storage type of a number. -/
def ofNumber? (number : UInt8) : Option Encryption :=
  if number = 0 then some plaintext
  else if number = 5 then some md5
  else if number = 7 then some vigenere
  else none

/-- Every storage type is found by its number. -/
theorem ofNumber?_number (encryption : Encryption) :
    ofNumber? encryption.number = some encryption := by
  cases encryption <;> rfl

/-- The number as text. -/
def toText (encryption : Encryption) : String := toString encryption.number.toNat

end Encryption

namespace Credential

/-- The encodings of one credential. -/
structure Entry where
  /-- The credential itself. -/
  plaintext : String
  /-- The salted hash of type 5. -/
  md5 : String
  /-- The reversible encoding of type 7. -/
  vigenere : String

/-- The credentials that have encodings. -/
def table : List Entry :=
  [⟨"cisco", "$1$mERr$hx5rVt7rPNoS4wqbXKX7m0", "0822455D0A16"⟩,
   ⟨"class", "$1$mERr$9cTjUIEqNGurQiFU.ZeCil", "0822404F1A0A"⟩]

/-- The entry of a credential. -/
def lookup? (plaintext : String) : Option Entry :=
  table.find? fun entry => entry.plaintext = plaintext

/-- The text shown for a credential under a storage type. Type 0 shows any text unchanged;
types 5 and 7 show what the table holds. -/
def encode? (plaintext : String) : Encryption → Option String
  | .plaintext => some plaintext
  | .md5 => (lookup? plaintext).map Entry.md5
  | .vigenere => (lookup? plaintext).map Entry.vigenere

end Credential

end RunningConfig
