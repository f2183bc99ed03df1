import NetProfile.Proofs.Numeral

/-!
Words as sets of bits. A word is known by its bits, those of joined words are the bits of either, and
those of a word with some cleared are what it has beside them.
-/

namespace NetProfile

def hasBit (word : Int64) (place : Nat) : Bool := word.toBitVec.getLsbD place

def IsPart (part whole : Int64) : Prop := ∀ place, hasBit part place = true → hasBit whole place = true

section

variable {a b c : Int64}

@[simp]
theorem hasBit_zero (place : Nat) : hasBit 0 place = false := BitVec.getLsbD_zero

@[simp]
theorem hasBit_or (place : Nat) : hasBit (a ||| b) place = (hasBit a place || hasBit b place) := by
  rw [hasBit, Int64.toBitVec_or, BitVec.getLsbD_or]
  rfl

@[simp]
theorem hasBit_and (place : Nat) : hasBit (a &&& b) place = (hasBit a place && hasBit b place) := by
  rw [hasBit, Int64.toBitVec_and, BitVec.getLsbD_and]
  rfl

theorem hasBit_clear (place : Nat) : hasBit (a &&& ~~~b) place = (hasBit a place && !hasBit b place) := by
  rw [hasBit_and, hasBit, hasBit, hasBit, Int64.toBitVec_not, BitVec.getLsbD_not]
  by_cases inside : place < 64
  · simp [inside]
  · rw [BitVec.getLsbD_of_ge a.toBitVec place (by omega)]
    rfl

theorem eq_of_hasBit (same : ∀ place, hasBit a place = hasBit b place) : a = b :=
  Int64.toBitVec_inj.1 (BitVec.eq_of_getLsbD_eq fun place _ => same place)

theorem isPart_iff : IsPart a b ↔ b &&& a = a := by
  constructor
  · intro part
    refine eq_of_hasBit fun place => ?_
    rw [hasBit_and]
    cases bit : hasBit a place with
    | true => rw [part place bit, Bool.and_self]
    | false => rw [Bool.and_false]
  · intro same place bit
    rw [← same, hasBit_and, Bool.and_eq_true] at bit
    exact bit.1

instance (a b : Int64) : Decidable (IsPart a b) := decidable_of_iff _ isPart_iff.symm

theorem IsPart.refl (a : Int64) : IsPart a a := fun _ bit => bit

theorem IsPart.zero (a : Int64) : IsPart 0 a := fun place bit => by simp at bit

theorem IsPart.trans (first : IsPart a b) (second : IsPart b c) : IsPart a c :=
  fun place bit => second place (first place bit)

theorem isPart_or : IsPart (a ||| b) c ↔ IsPart a c ∧ IsPart b c := by
  constructor
  · intro part
    exact ⟨fun place bit => part place (by simp [bit]), fun place bit => part place (by simp [bit])⟩
  · rintro ⟨first, second⟩ place bit
    rw [hasBit_or, Bool.or_eq_true] at bit
    exact bit.elim (first place) (second place)

theorem IsPart.or_eq (part : IsPart a b) : a ||| b = b := by
  refine eq_of_hasBit fun place => ?_
  rw [hasBit_or]
  cases bit : hasBit a place with
  | true => rw [part place bit, Bool.or_self]
  | false => rw [Bool.false_or]

theorem or_clear : a ||| (b &&& ~~~a) = a ||| b := by
  refine eq_of_hasBit fun place => ?_
  rw [hasBit_or, hasBit_clear, hasBit_or]
  cases hasBit a place <;> simp

theorem isPart_clear : IsPart (a &&& ~~~b) a := by
  intro place bit
  rw [hasBit_clear, Bool.and_eq_true] at bit
  exact bit.1

theorem hasBit_of_nonneg (natural : 0 ≤ a) (place : Nat) : hasBit a place = a.toInt.toNat.testBit place := by
  have whole : (a.toBitVec.toNat : Int) = a.toInt := Numeral.toNat_toUInt64_of_nonneg natural
  rw [← whole, Int.toNat_natCast]
  rfl

/-- The sign is the highest bit, which a number has only below zero. -/
theorem lt_of_hasBit (natural : 0 ≤ a) {place : Nat} (bit : hasBit a place = true) : place < 63 := by
  rw [hasBit_of_nonneg natural] at bit
  have large := Nat.ge_two_pow_of_testBit bit
  have bound := a.toInt_lt
  exact (Nat.pow_lt_pow_iff_right (a := 2) (by decide)).1 (by omega)

theorem exists_hasBit_of_le (natural : 0 ≤ a) (order : a ≤ b) {place : Nat} (bit : hasBit a place = true) :
    ∃ high ≥ place, hasBit b high = true := by
  rw [hasBit_of_nonneg natural] at bit
  have large := Nat.ge_two_pow_of_testBit bit
  have less : a.toInt ≤ b.toInt := Int64.le_iff_toInt_le.1 order
  obtain ⟨high, above, top⟩ := Nat.exists_ge_and_testBit_of_ge_two_pow
    (show 2 ^ place ≤ b.toInt.toNat by omega)
  exact ⟨high, above, by rw [hasBit_of_nonneg (Int64.le_trans natural order), top]⟩

theorem exists_single (natural : 0 ≤ b) {low high : Nat} (below : low ≤ high) (bit : hasBit b high = true) :
    ∃ single : Int64, 0 ≤ single ∧ single ≤ b ∧ hasBit single low = true := by
  have short := lt_of_hasBit natural bit
  rw [hasBit_of_nonneg natural] at bit
  have large := Nat.ge_two_pow_of_testBit bit
  have positive := Nat.two_pow_pos low
  have order : 2 ^ low ≤ 2 ^ high := Nat.pow_le_pow_right (by decide) below
  have bound := b.toInt_lt
  have exact : (Int64.ofNat (2 ^ low)).toInt = (2 ^ low : Nat) := Int64.toInt_ofNat_of_lt (by omega)
  have above : 0 ≤ Int64.ofNat (2 ^ low) := by
    rw [Int64.le_iff_toInt_le, exact]
    exact Int.natCast_nonneg _
  refine ⟨Int64.ofNat (2 ^ low), above, ?_, ?_⟩
  · rw [Int64.le_iff_toInt_le, exact]
    omega
  · rw [hasBit_of_nonneg above, exact, Int.toNat_natCast, Nat.testBit_two_pow_self]

theorem IsPart.le (part : IsPart a b) (natural : 0 ≤ b) : 0 ≤ a ∧ a ≤ b := by
  have whole : (b.toBitVec.toNat : Int) = b.toInt := Numeral.toNat_toUInt64_of_nonneg natural
  have fewer : a.toBitVec.toNat ≤ b.toBitVec.toNat := by
    rw [← isPart_iff.1 part, Int64.toBitVec_and, BitVec.toNat_and]
    exact Nat.and_le_left
  have exact : a.toInt = a.toBitVec.toNat := by
    have bound := b.toInt_lt
    exact BitVec.toInt_eq_toNat_of_lt (by omega)
  rw [Int64.le_iff_toInt_le, Int64.le_iff_toInt_le]
  have zero : (0 : Int64).toInt = 0 := rfl
  omega

end

end NetProfile
