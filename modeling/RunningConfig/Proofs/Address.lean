import RunningConfig.Address
import RunningConfig.Proofs.Text.Decimal
import RunningConfig.Proofs.Text.Lines
/-!
# Reading an address back

The dotted quad of an address reads back as that address. So an address is known from its text,
which holds nothing but digits and dots. Conversely an address is read from no other text than four
octets with dots between them (`exists_ofText?_iff`): digits without a leading zero are the digits
of the number that they are folded to.
-/

namespace RunningConfig.Address

/-- An octet is read back from its digits. -/
theorem octet?_toString {octet : Nat} (small : octet < 256) :
    octet? (toString octet).toList = some octet := by
  have table : ∀ octet : Fin 256, octet? (toString octet.val).toList = some octet.val := by
    decide +kernel
  exact table ⟨octet, small⟩

/-- An octet is less than 256. -/
theorem octet_lt (address : Address) (shift : Nat) : address.octet shift < 256 :=
  Nat.mod_lt _ (by decide)

/-- An address is made of its octets. -/
theorem ofOctets_octet (address : Address) :
    ofOctets (address.octet 24) (address.octet 16) (address.octet 8) (address.octet 0) =
      address := by
  obtain ⟨word⟩ := address
  have bound := word.toNat_lt
  simp only [ofOctets, octet, Nat.shiftRight_eq_div_pow, mk.injEq]
  apply UInt32.toNat_inj.mp
  rw [UInt32.toNat_ofNat']
  omega

/-- The characters of a dotted quad. -/
theorem toList_toText (address : Address) :
    address.toText.toList = (toString (address.octet 24)).toList ++ '.' ::
      ((toString (address.octet 16)).toList ++ '.' ::
        ((toString (address.octet 8)).toList ++ '.' :: (toString (address.octet 0)).toList)) := by
  simp [toText]

/-- A character that is neither a digit nor a dot is in no dotted quad. -/
theorem not_mem_toText {char : Char} (noDigit : char.isDigit = false) (noDot : char ≠ '.')
    (address : Address) : char ∉ address.toText.toList := by
  simp only [toList_toText, List.mem_append, List.mem_cons, Text.not_mem_toString noDigit, noDot,
    or_self, not_false_eq_true]

/-- Four numbers with dots between them are cut into their texts. -/
theorem splitOn_quad (first second third fourth : Nat) :
    Text.splitOn '.' (toString first ++ "." ++ toString second ++ "." ++ toString third ++ "."
      ++ toString fourth).toList =
      [(toString first).toList, (toString second).toList, (toString third).toList,
        (toString fourth).toList] := by
  have free (octet : Nat) : '.' ∉ (toString octet).toList := Text.not_mem_toString rfl octet
  have dot : ".".toList = ['.'] := rfl
  simp only [String.toList_append, dot, List.append_assoc, List.cons_append, List.nil_append,
    Text.splitOn_append_cons, Text.splitOn_of_not_mem (free _)]

/-- The dotted quad of an address reads back as the address. -/
theorem ofText?_toText (address : Address) : ofText? address.toText = some address := by
  simp only [ofText?, toText, splitOn_quad, octet?_toString (octet_lt _ _), Option.bind_eq_bind,
    Option.bind_some, ofOctets_octet, Option.pure_def]

/-- Addresses with the same text are the same. -/
theorem toText_inj {left right : Address} (same : left.toText = right.toText) : left = right := by
  have back := ofText?_toText left
  rw [same, ofText?_toText] at back
  exact (Option.some.inj back).symm

/-! ## The texts that are read -/

/-- A decimal digit is the digit of its value. -/
theorem digitChar_toNat_sub {digit : Char} (decimal : digit.isDigit = true) :
    digit.toNat - 48 < 10 ∧ Nat.digitChar (digit.toNat - 48) = digit := by
  simp only [Char.isDigit, Bool.and_eq_true, decide_eq_true_eq] at decimal
  have above : 48 ≤ digit.toNat := decimal.1
  have below : digit.toNat ≤ 57 := decimal.2
  have table : ∀ value : Fin 10, Nat.digitChar value.val = Char.ofNat (48 + value.val) := by decide
  have found := table ⟨digit.toNat - 48, by omega⟩
  rw [show 48 + (digit.toNat - 48) = digit.toNat by omega, Char.ofNat_toNat] at found
  exact ⟨by omega, found⟩

/-- Digits behind those of a number that is not zero are the digits of a number. -/
theorem toDigits_append {value : Nat} {digits : List Char} (positive : 0 < value)
    (decimal : ∀ digit ∈ digits, digit.isDigit = true) :
    Nat.toDigits 10 value ++ digits = Nat.toDigits 10
      (digits.foldl (fun value digit => value * 10 + (digit.toNat - 48)) value) := by
  induction digits generalizing value with
  | nil => simp
  | cons digit digits ih =>
    obtain ⟨first, others⟩ := List.forall_mem_cons.mp decimal
    obtain ⟨below, same⟩ := digitChar_toNat_sub first
    have more : 0 < value * 10 + (digit.toNat - 48) := by omega
    calc Nat.toDigits 10 value ++ digit :: digits
        = (Nat.toDigits 10 value ++ Nat.toDigits 10 (digit.toNat - 48)) ++ digits := by
          rw [Nat.toDigits_of_lt_base below, same, List.append_assoc, List.singleton_append]
      _ = Nat.toDigits 10 (value * 10 + (digit.toNat - 48)) ++ digits := by
          rw [Nat.toDigits_append_toDigits (by decide) positive below, Nat.mul_comm]
      _ = _ := ih more others

/-- An octet is read exactly from its digits. -/
theorem octet?_eq_some {digits : List Char} {octet : Nat} :
    octet? digits = some octet ↔ octet ≤ 255 ∧ digits = (toString octet).toList := by
  constructor
  · intro read
    simp only [octet?, Option.ite_none_left_eq_some, Bool.or_eq_true, not_or, Bool.and_eq_true,
      Option.some.injEq, decide_eq_true_eq, Bool.not_eq_true', Bool.not_eq_false, not_and,
      List.all_eq_true] at read
    obtain ⟨⟨⟨some, -⟩, decimal⟩, unpadded, small, rfl⟩ := read
    refine ⟨by omega, ?_⟩
    rw [Nat.toString_eq_ofList_toDigits, String.toList_ofList]
    cases digits with
    | nil => simp at some
    | cons digit digits =>
      obtain ⟨first, others⟩ := List.forall_mem_cons.mp decimal
      obtain ⟨below, same⟩ := digitChar_toNat_sub first
      have alone : Nat.toDigits 10 (digit.toNat - 48) = [digit] := by
        rw [Nat.toDigits_of_lt_base below, same]
      by_cases single : digits = []
      · subst single
        simp [digitsValue, alone]
      · have positive : 0 < digit.toNat - 48 := by
          refine Nat.pos_of_ne_zero fun zero => single ?_
          rw [zero] at same
          have short := unpadded (by rw [← same]; rfl)
          simp only [List.length_cons] at short
          exact List.eq_nil_of_length_eq_zero (by omega)
        have all := toDigits_append positive others
        rw [alone] at all
        simpa [digitsValue] using all
  · rintro ⟨small, rfl⟩
    exact octet?_toString (by omega)

/-- Text that is four decimal octets without leading zeros, with dots between them. -/
def IsDottedQuad (text : String) : Prop :=
  ∃ first second third fourth : Nat, first ≤ 255 ∧ second ≤ 255 ∧ third ≤ 255 ∧ fourth ≤ 255 ∧
    text = toString first ++ "." ++ toString second ++ "." ++ toString third ++ "."
      ++ toString fourth

/-- An address is read exactly from a dotted quad. -/
theorem exists_ofText?_iff {text : String} :
    (∃ address, ofText? text = some address) ↔ IsDottedQuad text := by
  constructor
  · rintro ⟨address, read⟩
    unfold ofText? at read
    split at read
    case h_2 => contradiction
    case h_1 first second third fourth cut =>
      obtain ⟨octet1, read1, read⟩ := Option.bind_eq_some_iff.mp read
      obtain ⟨octet2, read2, read⟩ := Option.bind_eq_some_iff.mp read
      obtain ⟨octet3, read3, read⟩ := Option.bind_eq_some_iff.mp read
      obtain ⟨octet4, read4, -⟩ := Option.bind_eq_some_iff.mp read
      obtain ⟨small1, rfl⟩ := octet?_eq_some.mp read1
      obtain ⟨small2, rfl⟩ := octet?_eq_some.mp read2
      obtain ⟨small3, rfl⟩ := octet?_eq_some.mp read3
      obtain ⟨small4, rfl⟩ := octet?_eq_some.mp read4
      refine ⟨octet1, octet2, octet3, octet4, small1, small2, small3, small4, ?_⟩
      have joined := Text.joinWith_splitOn '.' text.toList
      rw [cut, ← splitOn_quad, Text.joinWith_splitOn] at joined
      exact (String.toList_inj.mp joined).symm
  · rintro ⟨first, second, third, fourth, small1, small2, small3, small4, rfl⟩
    have read {octet : Nat} (small : octet ≤ 255) :
        octet? (toString octet).toList = some octet := octet?_eq_some.mpr ⟨small, rfl⟩
    refine ⟨ofOctets first second third fourth, ?_⟩
    simp only [ofText?, splitOn_quad, read small1, read small2, read small3, read small4,
      Option.bind_eq_bind, Option.bind_some, Option.pure_def]

end RunningConfig.Address
