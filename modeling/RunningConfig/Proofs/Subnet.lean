import RunningConfig.Proofs.Mask
/-!
# Subnets

The mask of a prefix length has exactly its highest bits set, as many as the length says. So two
addresses lie in one subnet, which is to agree on these bits, exactly when they are the same under
the mask, and exactly when the wildcard hides all that tells them apart. A length that has no mask
is refused before any of the word arithmetic runs, and on every other length that arithmetic stays
inside its types.
-/

namespace RunningConfig.Mask

/-- Two words agree on their highest bits of the given number. -/
def AgreeOn (count : Nat) (left right : UInt32) : Prop :=
  ∀ place < count, left.toBitVec.getMsbD place = right.toBitVec.getMsbD place

/-- Every bit that is set in a word is set in another one. -/
def Within (word outer : UInt32) : Prop :=
  ∀ place, word.toBitVec.getMsbD place = true → outer.toBitVec.getMsbD place = true

/-- A mask and a wildcard decide alike which words agree on their highest bits. -/
structure Delimits (count : Nat) (mask wildcard : UInt32) : Prop where
  /-- Words that agree are the same under the mask. -/
  underMask : ∀ left right, AgreeOn count left right ↔ left &&& mask = right &&& mask
  /-- Words that agree are the same once the wildcard is filled in. -/
  overWildcard : ∀ left right,
    AgreeOn count left right ↔ left ||| wildcard = right ||| wildcard
  /-- Words that agree differ in bits of the wildcard only. -/
  withinWildcard : ∀ left right, AgreeOn count left right ↔ Within (left ^^^ right) wildcard

/-! ## The bits of a mask -/

/-- The mask of a length is a word of ones, shifted by what the length leaves over. -/
theorem toBitVec_of_bits? {length : Int32} {word : UInt32} (found : bits? length = some word) :
    word.toBitVec = BitVec.allOnes 32 <<< (32 - length.toInt.toNat) := by
  obtain ⟨value, low, high⟩ := toNat_of_bits? found
  have positive : 0 < 2 ^ (32 - length.toInt.toNat) := Nat.two_pow_pos _
  have small : 2 ^ (32 - length.toInt.toNat) ≤ 2 ^ 32 :=
    Nat.pow_le_pow_right (by decide) (by omega)
  apply BitVec.eq_of_toNat_eq
  rw [UInt32.toNat_toBitVec, value, BitVec.toNat_shiftLeft, BitVec.toNat_allOnes,
    Nat.shiftLeft_eq]
  generalize 2 ^ (32 - length.toInt.toNat) = power at positive small ⊢
  have parts : (2 ^ 32 - 1) * power = 2 ^ 32 - power + 2 ^ 32 * (power - 1) := by omega
  rw [parts, Nat.add_mul_mod_self_left, Nat.mod_eq_of_lt (by omega)]

/-- A bit of the mask of a length is set exactly when it is one of the highest, as many as the
length says. -/
theorem getMsbD_of_bits? {length : Int32} {word : UInt32} (found : bits? length = some word)
    (place : Nat) : word.toBitVec.getMsbD place = decide (place < length.toInt.toNat) := by
  obtain ⟨-, low, high⟩ := toNat_of_bits? found
  rw [toBitVec_of_bits? found, BitVec.getMsbD_shiftLeft, BitVec.getMsbD_allOnes]
  apply decide_eq_decide.mpr
  omega

/-! ## Addresses of a subnet -/

/-- Words agree on their highest bits exactly when they become the same where these are kept and
all others are filled alike. -/
theorem agreeOn_iff_eq {count : Nat} (small : count ≤ 32) (fill : Bool) (kept : UInt32 → UInt32)
    (bits : ∀ word, ∀ place < 32, (kept word).toBitVec.getMsbD place =
      if place < count then word.toBitVec.getMsbD place else fill) (left right : UInt32) :
    AgreeOn count left right ↔ kept left = kept right := by
  constructor
  · intro agree
    apply UInt32.toBitVec_inj.mp
    apply BitVec.eq_of_getMsbD_eq
    intro place inWord
    rw [bits left place inWord, bits right place inWord]
    by_cases inside : place < count
    · rw [if_pos inside, if_pos inside, agree place inside]
    · rw [if_neg inside, if_neg inside]
  · intro same place inside
    have inWord : place < 32 := by omega
    have ofLeft := bits left place inWord
    have ofRight := bits right place inWord
    rw [if_pos inside] at ofLeft ofRight
    rw [← ofLeft, ← ofRight, same]

section Subnet

variable {length : Int32} {word : UInt32}

/-- Words agree on the bits of a mask exactly when they are the same under it. -/
theorem agreeOn_iff_and (found : bits? length = some word) (left right : UInt32) :
    AgreeOn length.toInt.toNat left right ↔ left &&& word = right &&& word := by
  obtain ⟨-, -, high⟩ := toNat_of_bits? found
  have small : length.toInt.toNat ≤ 32 := by omega
  apply agreeOn_iff_eq small false (· &&& word)
  intro other place _
  rw [UInt32.toBitVec_and, BitVec.getMsbD_and, getMsbD_of_bits? found]
  by_cases inside : place < length.toInt.toNat
  · rw [if_pos inside, decide_eq_true inside, Bool.and_true]
  · rw [if_neg inside, decide_eq_false inside, Bool.and_false]

/-- A bit of the wildcard of a length is set exactly when it is not one of the highest. -/
theorem getMsbD_not_of_bits? (found : bits? length = some word) {place : Nat} (small : place < 32) :
    (~~~word.toBitVec).getMsbD place = !decide (place < length.toInt.toNat) := by
  rw [BitVec.getMsbD_not, getMsbD_of_bits? found, decide_eq_true small, Bool.true_and]

/-- Words agree on the bits of a mask exactly when they are the same once all others are set. -/
theorem agreeOn_iff_or (found : bits? length = some word) (left right : UInt32) :
    AgreeOn length.toInt.toNat left right ↔ left ||| ~~~word = right ||| ~~~word := by
  obtain ⟨-, -, high⟩ := toNat_of_bits? found
  have small : length.toInt.toNat ≤ 32 := by omega
  apply agreeOn_iff_eq small true (· ||| ~~~word)
  intro other place inWord
  rw [UInt32.toBitVec_or, UInt32.toBitVec_not, BitVec.getMsbD_or,
    getMsbD_not_of_bits? found inWord]
  by_cases inside : place < length.toInt.toNat
  · rw [if_pos inside, decide_eq_true inside, Bool.not_true, Bool.or_false]
  · rw [if_neg inside, decide_eq_false inside, Bool.not_false, Bool.or_true]

/-- Words agree on the bits of a mask exactly when they differ in other bits only. -/
theorem agreeOn_iff_xor (found : bits? length = some word) (left right : UInt32) :
    AgreeOn length.toInt.toNat left right ↔ Within (left ^^^ right) (~~~word) := by
  obtain ⟨-, -, high⟩ := toNat_of_bits? found
  unfold Within
  rw [UInt32.toBitVec_xor, UInt32.toBitVec_not]
  constructor
  · intro agree place differs
    have small : place < 32 := BitVec.lt_of_getMsbD differs
    rw [getMsbD_not_of_bits? found small, Bool.not_eq_true', decide_eq_false_iff_not]
    intro inside
    rw [BitVec.getMsbD_xor, agree place inside, Bool.xor_self] at differs
    contradiction
  · intro within place inside
    have small : place < 32 := by omega
    by_contra differs
    have hidden := within place (by rw [BitVec.getMsbD_xor, bne_iff_ne]; exact differs)
    rw [getMsbD_not_of_bits? found small, decide_eq_true inside] at hidden
    contradiction

/-- The mask and the wildcard of a length decide which addresses lie in one subnet. -/
theorem delimits_of_bits? (found : bits? length = some word) :
    Delimits length.toInt.toNat word (~~~word) where
  underMask := agreeOn_iff_and found
  overWildcard := agreeOn_iff_or found
  withinWildcard := agreeOn_iff_xor found

end Subnet

/-! ## Arithmetic that stays inside its types -/

/-- What stops a machine that does not wrap around. -/
inductive Trap where
  /-- A difference is no number of its type. -/
  | difference (left right : Int32)
  /-- A word is shifted by its size or more, or backwards. -/
  | shift (distance : Int32)

/-- The difference of two numbers, unless it is no number of their type. -/
def checkedSub (left right : Int32) : Except Trap Int32 :=
  if Int32.minValue.toInt ≤ left.toInt - right.toInt ∧
      left.toInt - right.toInt ≤ Int32.maxValue.toInt then .ok (left - right)
  else .error (.difference left right)

/-- A word shifted to the left, unless by its size or more. -/
def checkedShift (word : UInt32) (distance : Int32) : Except Trap UInt32 :=
  if 0 ≤ distance.toInt ∧ distance.toInt < 32 then
    .ok (word <<< distance.toInt.toNat.toUInt32)
  else .error (.shift distance)

/-- The mask word of a prefix length, on a machine that checks every operation. -/
def checkedBits? (length : Int32) : Except Trap (Option UInt32) :=
  if length < 0 || longest < length then return none
  else if length = 0 then return some 0
  else do
    let distance ← checkedSub longest length
    return some (← checkedShift 0xFFFFFFFF distance)

section Checked

variable {length : Int32}

/-- The longest length is that of a whole word. -/
theorem toInt_longest : longest.toInt = 32 := by decide

/-- The distance of a length above zero that has a mask is less than the size of a word. -/
theorem toInt_distance (low : 0 < length.toInt) (high : length.toInt ≤ 32) :
    (longest - length).toInt = 32 - length.toInt := by
  rw [Int32.toInt_sub, toInt_longest]
  exact Int.bmod_eq_of_le (by omega) (by omega)

/-- That distance is a number of its type. -/
theorem checkedSub_longest (low : 0 < length.toInt) (high : length.toInt ≤ 32) :
    checkedSub longest length = .ok (longest - length) := by
  apply if_pos
  show (-2147483648 : Int) ≤ _ ∧ _ ≤ (2147483647 : Int)
  have whole := toInt_longest
  omega

/-- A word can be shifted by that distance. -/
theorem checkedShift_distance (low : 0 < length.toInt) (high : length.toInt ≤ 32) (word : UInt32) :
    checkedShift word (longest - length) =
      .ok (word <<< (longest - length).toInt.toNat.toUInt32) := by
  have distance := toInt_distance low high
  apply if_pos
  omega

end Checked

/-- No length reaches an operation that leaves its type. -/
theorem checkedBits?_eq_ok (length : Int32) : checkedBits? length = .ok (bits? length) := by
  unfold checkedBits? bits?
  split
  case isTrue => rfl
  case isFalse inside =>
    split
    case isTrue => rfl
    case isFalse positive =>
      simp only [Bool.or_eq_true, decide_eq_true_eq, not_or, Int32.not_lt] at inside
      have above : 0 ≤ length.toInt := Int32.le_iff_toInt_le.mp inside.1
      have high : length.toInt ≤ 32 := Int32.le_iff_toInt_le.mp inside.2
      have nonzero : length.toInt ≠ 0 := fun zero => positive (Int32.toInt_inj.mp zero)
      have low : 0 < length.toInt := by omega
      simp only [checkedSub_longest low high, checkedShift_distance low high, bind, Except.bind,
        pure, Except.pure]

/-! ## Prefix lengths -/

/-- A text is the dotted quad of a word, and reads back as that word. -/
def IsQuadOf (text : String) (word : UInt32) : Prop :=
  Address.IsDottedQuad text ∧ Address.ofText? text = some ⟨word⟩

/-- The text of an address is the dotted quad of its word. -/
theorem isQuadOf_toText (word : UInt32) : IsQuadOf (Address.mk word).toText word := by
  have read : Address.ofText? (Address.mk word).toText = some ⟨word⟩ := Address.ofText?_toText _
  exact ⟨Address.exists_ofText?_iff.mp ⟨_, read⟩, read⟩

/-- What a prefix length stands for. -/
structure Subnets (length : Int32) : Prop where
  /-- A length below zero or above 32 has neither a mask nor a wildcard. -/
  refused : length.toInt < 0 ∨ 32 < length.toInt →
    Render.mask length = .error (.prefixLength length) ∧
      Render.wildcard length = .error (.prefixLength length)
  /-- Any other one has both, and they decide which addresses lie in one subnet of it. -/
  shown : 0 ≤ length.toInt → length.toInt ≤ 32 →
    ∃ (maskText wildcardText : String) (mask wildcard : UInt32),
      Render.mask length = .ok maskText ∧ IsQuadOf maskText mask ∧
      Render.wildcard length = .ok wildcardText ∧ IsQuadOf wildcardText wildcard ∧
      Delimits length.toInt.toNat mask wildcard
  /-- The words are found without an operation that leaves its type. -/
  trapless : checkedBits? length = .ok (bits? length)

/-- Every prefix length stands for the subnets of its size, or is refused. -/
theorem subnets_of_length (length : Int32) : Subnets length where
  refused outside := by
    have missing : bits? length = none := bits?_eq_none.mpr (by omega)
    constructor
    · simp only [Render.mask, mask?, missing, Option.map_none]
    · simp only [Render.wildcard, wildcard?, missing, Option.map_none]
  shown low high := by
    have present : bits? length ≠ none := mt bits?_eq_none.mp (not_not.mpr ⟨low, high⟩)
    obtain ⟨word, found⟩ := Option.ne_none_iff_exists'.mp present
    exact ⟨(Address.mk word).toText, (Address.mk (~~~word)).toText, word, ~~~word,
      Render.mask_eq_ok.mpr ⟨word, found, rfl⟩, isQuadOf_toText word,
      Render.wildcard_eq_ok.mpr ⟨word, found, rfl⟩, isQuadOf_toText (~~~word),
      delimits_of_bits? found⟩
  trapless := checkedBits?_eq_ok length

/-- The lowest length is refused before its distance is asked for, which no number holds. -/
example : checkedBits? Int32.minValue = .ok none ∧
    checkedSub longest Int32.minValue = .error (.difference longest Int32.minValue) :=
  ⟨rfl, rfl⟩

end RunningConfig.Mask
