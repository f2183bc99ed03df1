import NetProfile.Net.Subnet
import NetProfile.Proofs.Net.Address
import NetProfile.Proofs.Reading

/-!
Subnets. Whatever text a subnet is read from, its length is one to the bits of its family, and it is
read back from its own text.
-/

namespace NetProfile.Subnet

/-- Lengths of the prefixes of a family. There is no empty prefix. -/
def IsLength (family : Family) (length : UInt8) : Prop :=
  1 ≤ length.toNat ∧ length.toNat ≤ family.bits

instance (family : Family) (length : UInt8) : Decidable (IsLength family length) :=
  inferInstanceAs (Decidable (_ ∧ _))

structure IsOf (family : Family) (subnet : Subnet) : Prop where
  family_eq : subnet.address.family = family
  length : IsLength family subnet.length

theorem isLength_ofNat {family : Family} {n : Nat} (positive : 1 ≤ n) (bounded : n ≤ family.bits) :
    IsLength family (UInt8.ofNat n) := by
  have small : family.bits ≤ 128 := by cases family <;> decide
  have same : (UInt8.ofNat n).toNat = n := UInt8.toNat_ofNat_of_lt (show n < 256 by omega)
  unfold IsLength
  omega

theorem isLength_of_splitLength {family : Family} {text part : String} {length : UInt8}
    (cut : splitLength family text = .ok (part, length)) : IsLength family length := by
  unfold splitLength at cut
  split at cut
  · cases cut
    exact isLength_ofNat (by cases family <;> decide) (Nat.le_refl _)
  · split at cut
    · next n read =>
      split at cut
      · next positive =>
        cases cut
        exact isLength_ofNat positive (Numeral.le_of_natural? read)
      · cases cut
    · cases cut

theorem isOf_of_parse {family : Family} {text : String} {subnet : Subnet}
    (read : parse family text = .ok subnet) : subnet.IsOf family := by
  obtain ⟨⟨part, length⟩, cut, read⟩ := Reading.bind_eq_ok read
  simp only at read
  split at read
  · next address found =>
    cases read
    exact ⟨Address.family_of_ofFamily? found, isLength_of_splitLength cut⟩
  · cases read

def joined (address : Address) (length : UInt8) : String :=
  address.toText ++ "/" ++ Numeral.decimalDigits length.toNat

theorem toText_eq_joined (subnet : Subnet) : subnet.toText = joined subnet.address subnet.length := rfl

theorem mem_joined {address : Address} {length : UInt8} {c : Char}
    (here : c ∈ (joined address length).toList) : isAddressChar c = true ∨ c = '/' := by
  simp only [joined, String.toList_append, List.mem_append, Numeral.decimalDigits,
    String.toList_ofList] at here
  rcases here with (address | slash) | digit
  · exact .inl (Address.isAddressChar_of_mem_toText address)
  · exact .inr (by simpa using slash)
  · have ten := Numeral.isDigitOf_of_mem_toDigits (by decide) (by decide) digit
    have sixteen := Numeral.isDigitOf_mono (show 10 ≤ 16 by decide) ten
    simp [isAddressChar, sixteen]

theorem not_isBlank_of_mem_joined {address : Address} {length : UInt8} {c : Char}
    (here : c ∈ (joined address length).toList) : Text.isBlank c = false := by
  rcases mem_joined here with stands | slash
  · exact not_isBlank_of_isAddressChar stands
  · subst slash
    decide

theorem splitLength_joined {family : Family} {length : UInt8} (legal : IsLength family length)
    (address : Address) :
    splitLength family (joined address length) = .ok (address.toText, length) := by
  have cut : Text.cutOnce '/' (joined address length)
      = some (address.toText, Numeral.decimalDigits length.toNat) := by
    rw [Text.cutOnce_eq_some_iff]
    constructor
    · simp [joined]
    · intro slash
      exact absurd (Address.isAddressChar_of_mem_toText slash) (by decide)
  unfold splitLength
  rw [cut]
  simp only [Numeral.natural?_decimal (.inr rfl) legal.2, if_pos legal.1, UInt8.ofNat_toNat]

theorem parse_toText {family : Family} {subnet : Subnet} (legal : subnet.IsOf family) :
    parse family subnet.toText = .ok subnet := by
  have trimmed : Text.trim (joined subnet.address subnet.length)
      = joined subnet.address subnet.length := by
    apply Text.trim_of_isTight
    apply Text.IsTight.of_forall
    intro c here
    exact not_isBlank_of_mem_joined here
  have read := Address.ofFamily?_toText subnet.address
  rw [legal.family_eq] at read
  unfold parse
  simp only [toText_eq_joined, trimmed, splitLength_joined legal.length, bind, Except.bind]
  rw [read]

end NetProfile.Subnet
