import RunningConfig.Address
/-!
# Subnet masks

A prefix length from 0 to 32 stands for a mask, a word whose highest bits of that number are
set, and for a wildcard, the complement of the mask. A length outside that range has neither.
-/

namespace RunningConfig.Mask

/-- The longest prefix length of a 32-bit address. -/
def longest : Int32 := 32

/-- The mask word of a prefix length. A shift takes its distance modulo the word size, so
length zero, whose distance would be the whole word, is a case of its own. -/
def bits? (length : Int32) : Option UInt32 :=
  if length < 0 || longest < length then none
  else if length = 0 then some 0
  else some (0xFFFFFFFF <<< (longest - length).toInt.toNat.toUInt32)

/-- The mask of a prefix length, as an address. -/
def mask? (length : Int32) : Option Address := (bits? length).map Address.mk

/-- The wildcard of a prefix length: the complement of its mask. -/
def wildcard? (length : Int32) : Option Address :=
  (bits? length).map fun word => ⟨~~~word⟩

end RunningConfig.Mask
