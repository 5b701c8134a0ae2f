import Mathlib.Algebra.Group.Nat.Defs
import RunningConfig.Proofs.Address
import RunningConfig.Proofs.Render.Demand
/-!
# Masks of prefix lengths

The mask of a prefix length is, as a number, the size of a word less a power of two that the length
determines. So different lengths have different masks and different wildcards, and a length is
known from the text of either.
-/

namespace RunningConfig

namespace Mask

/-- A length from 0 to 32 has the mask of its number. -/
theorem bits?_ofNat (number : Fin 33) :
    (bits? (.ofNat number.val)).map UInt32.toNat = some (2 ^ 32 - 2 ^ (32 - number.val)) := by
  revert number
  decide +kernel

/-- The mask of a length, as a number. -/
theorem toNat_of_bits? {length : Int32} {word : UInt32} (found : bits? length = some word) :
    word.toNat = 2 ^ 32 - 2 ^ (32 - length.toInt.toNat) ∧
      0 ≤ length.toInt ∧ length.toInt ≤ 32 := by
  have range : 0 ≤ length.toInt ∧ length.toInt ≤ 32 := by
    by_contra outside
    rw [bits?_eq_none.mpr outside] at found
    contradiction
  have number : Int32.ofNat length.toInt.toNat = length :=
    Int32.ofNat_toNatClampNeg length (Int32.le_iff_toInt_le.mpr range.1)
  have table := bits?_ofNat ⟨length.toInt.toNat, by omega⟩
  simp only [number, found, Option.map_some, Option.some.injEq] at table
  exact ⟨table, range⟩

/-- The wildcard of a length, as a number. -/
theorem toNat_not_of_bits? {length : Int32} {word : UInt32} (found : bits? length = some word) :
    (~~~word).toNat = 2 ^ (32 - length.toInt.toNat) - 1 := by
  obtain ⟨value, low, high⟩ := toNat_of_bits? found
  have power : 2 ^ (32 - length.toInt.toNat) ≤ 2 ^ 32 :=
    Nat.pow_le_pow_right (by decide) (by omega)
  have size : UInt32.size = 2 ^ 32 := rfl
  rw [UInt32.toNat_not, value, size]
  omega

/-- Lengths with the same mask are the same. -/
theorem bits?_inj {left right : Int32} {word : UInt32} (ofLeft : bits? left = some word)
    (ofRight : bits? right = some word) : left = right := by
  obtain ⟨first, leftLow, leftHigh⟩ := toNat_of_bits? ofLeft
  obtain ⟨second, rightLow, rightHigh⟩ := toNat_of_bits? ofRight
  have leftPower : 2 ^ (32 - left.toInt.toNat) ≤ 2 ^ 32 :=
    Nat.pow_le_pow_right (by decide) (by omega)
  have rightPower : 2 ^ (32 - right.toInt.toNat) ≤ 2 ^ 32 :=
    Nat.pow_le_pow_right (by decide) (by omega)
  have powers : 2 ^ (32 - left.toInt.toNat) = 2 ^ (32 - right.toInt.toNat) := by omega
  have exponents := Nat.pow_right_injective (le_refl 2) powers
  apply Int32.toInt_inj.mp
  omega

end Mask

namespace Render

/-- The text of a mask is the dotted quad of its word. -/
theorem mask_eq_ok {length : Int32} {text : String} :
    mask length = .ok text ↔
      ∃ word, Mask.bits? length = some word ∧ (Address.mk word).toText = text := by
  cases found : Mask.bits? length <;> simp [mask, Mask.mask?, found]

/-- The text of a wildcard is the dotted quad of the complement. -/
theorem wildcard_eq_ok {length : Int32} {text : String} :
    wildcard length = .ok text ↔
      ∃ word, Mask.bits? length = some word ∧ (Address.mk (~~~word)).toText = text := by
  cases found : Mask.bits? length <;> simp [wildcard, Mask.wildcard?, found]

/-- A prefix length is known from its mask. -/
theorem mask_inj {left right : Int32} {text : String} (ofLeft : mask left = .ok text)
    (ofRight : mask right = .ok text) : left = right := by
  obtain ⟨first, leftBits, rfl⟩ := mask_eq_ok.mp ofLeft
  obtain ⟨second, rightBits, same⟩ := mask_eq_ok.mp ofRight
  obtain rfl : second = first := Address.mk.inj (Address.toText_inj same)
  exact Mask.bits?_inj leftBits rightBits

/-- A prefix length is known from its wildcard. -/
theorem wildcard_inj {left right : Int32} {text : String} (ofLeft : wildcard left = .ok text)
    (ofRight : wildcard right = .ok text) : left = right := by
  obtain ⟨first, leftBits, rfl⟩ := wildcard_eq_ok.mp ofLeft
  obtain ⟨second, rightBits, same⟩ := wildcard_eq_ok.mp ofRight
  obtain rfl : second = first := by
    have complements : ~~~second = ~~~first := Address.mk.inj (Address.toText_inj same)
    rw [← UInt32.not_not (a := second), complements, UInt32.not_not]
  exact Mask.bits?_inj leftBits rightBits

/-- A mask holds digits and dots only. -/
theorem not_mem_mask {char : Char} (noDigit : char.isDigit = false) (noDot : char ≠ '.')
    {length : Int32} {text : String} (shown : mask length = .ok text) : char ∉ text.toList := by
  obtain ⟨word, -, rfl⟩ := mask_eq_ok.mp shown
  exact Address.not_mem_toText noDigit noDot _

/-- A wildcard holds digits and dots only. -/
theorem not_mem_wildcard {char : Char} (noDigit : char.isDigit = false) (noDot : char ≠ '.')
    {length : Int32} {text : String} (shown : wildcard length = .ok text) :
    char ∉ text.toList := by
  obtain ⟨word, -, rfl⟩ := wildcard_eq_ok.mp shown
  exact Address.not_mem_toText noDigit noDot _

end Render

end RunningConfig
