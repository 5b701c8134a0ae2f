/-!
# Fixed-width integers

The integer types of the model, each with the name it is known by and the range of the integers it
holds. What follows from the range is proved here once for all of them.
-/

namespace RunningConfig

/-- A type that holds the integers of one range. -/
class MachineInteger (α : Type) where
  /-- The name of the type. -/
  name : String
  /-- The lowest integer held. -/
  lowest : Int
  /-- The highest integer held. -/
  highest : Int
  /-- The integer held. -/
  toInt : α → Int
  /-- The holder of an integer, which holds it only when it is in range. -/
  ofInt : Int → α
  /-- What is held is in range. -/
  toInt_mem : ∀ value, lowest ≤ toInt value ∧ toInt value ≤ highest
  /-- What is held is held by the value itself. -/
  ofInt_toInt : ∀ value, ofInt (toInt value) = value
  /-- An integer in range is held as it is. -/
  toInt_ofInt : ∀ number, lowest ≤ number → number ≤ highest → toInt (ofInt number) = number

namespace MachineInteger

section

variable {α : Type} [MachineInteger α]

/-- Whether a type holds negative integers. -/
def signed (α : Type) [MachineInteger α] : Bool := decide (lowest α < 0)

/-- The holder of an integer in range. -/
def ofInt? (number : Int) : Option α :=
  if lowest α ≤ number ∧ number ≤ highest α then some (ofInt number) else none

/-- Every value is the holder of what it holds. -/
theorem ofInt?_toInt (value : α) : ofInt? (toInt value) = some value := by
  rw [ofInt?, if_pos (toInt_mem value), ofInt_toInt]

/-- The integers of the range have a holder, and no other ones. -/
theorem isSome_ofInt?_iff {number : Int} :
    (ofInt? number : Option α).isSome ↔ lowest α ≤ number ∧ number ≤ highest α := by
  simp [ofInt?]

/-- The holder of an integer holds that integer. -/
theorem toInt_of_ofInt? {number : Int} {value : α} (held : ofInt? number = some value) :
    toInt value = number := by
  obtain ⟨low, high⟩ := isSome_ofInt?_iff.mp (Option.isSome_of_eq_some held)
  rw [ofInt?, if_pos ⟨low, high⟩] at held
  rw [← Option.some.inj held, toInt_ofInt number low high]

/-- A type without a sign holds no negative integer. -/
theorem toInt_nonneg (unsigned : signed α = false) (value : α) : 0 ≤ toInt value := by
  have positive := of_decide_eq_false unsigned
  have above := (toInt_mem value).1
  omega

end

/-- Words that hold the natural numbers below a size. -/
abbrev ofWord {α : Type} (name : String) (size : Nat) (toNat : α → Nat) (ofNat : Nat → α)
    (toNat_lt : ∀ word, toNat word < size) (ofNat_toNat : ∀ word, ofNat (toNat word) = word)
    (toNat_ofNat : ∀ {number}, number < size → toNat (ofNat number) = number) :
    MachineInteger α where
  name := name
  lowest := 0
  highest := size - 1
  toInt word := toNat word
  ofInt number := ofNat number.toNat
  toInt_mem word := by
    have below := toNat_lt word
    omega
  ofInt_toInt word := by rw [Int.toNat_natCast, ofNat_toNat]
  toInt_ofInt number low high := by
    rw [toNat_ofNat (by omega)]
    exact Int.toNat_of_nonneg low

end MachineInteger

instance : MachineInteger UInt8 :=
  .ofWord "u8" UInt8.size UInt8.toNat UInt8.ofNat UInt8.toNat_lt
    (fun _ => UInt8.ofNat_toNat) UInt8.toNat_ofNat_of_lt'

instance : MachineInteger UInt16 :=
  .ofWord "u16" UInt16.size UInt16.toNat UInt16.ofNat UInt16.toNat_lt
    (fun _ => UInt16.ofNat_toNat) UInt16.toNat_ofNat_of_lt'

instance : MachineInteger UInt32 :=
  .ofWord "u32" UInt32.size UInt32.toNat UInt32.ofNat UInt32.toNat_lt
    (fun _ => UInt32.ofNat_toNat) UInt32.toNat_ofNat_of_lt'

instance : MachineInteger Int32 where
  name := "i32"
  lowest := -0x80000000
  highest := 0x7FFFFFFF
  toInt := Int32.toInt
  ofInt := Int32.ofInt
  toInt_mem value := by
    have above := value.le_toInt
    have below := value.toInt_lt
    omega
  ofInt_toInt := Int32.ofInt_toInt
  toInt_ofInt number low high := by
    apply Int32.toInt_ofInt_of_le
    · exact low
    · omega

end RunningConfig
