import Mathlib.Tactic.MkIffOfInductiveProp
import NetProfile.Proofs.Contract.Admits
import NetProfile.Proofs.Numeral

/-!
Integers are read back from the number they are shown as, whether or not a name stands for them.
-/

namespace NetProfile

/-- The words that the number goes through on the way leave it as it is. -/
theorem readWithin_eq (base : Numeral.Base) (low high : Int64) (text : String) :
    readWithin base low high text =
      match Numeral.readSigned base text with
      | none => .error (.notANumber text)
      | some n =>
        if low.toInt ≤ n ∧ n ≤ high.toInt then .ok (Int64.ofInt n)
        else .error (.outOfRange text low.toInt high.toInt) := by
  obtain ⟨negative, body, sign⟩ : ∃ negative body,
      Numeral.splitSign (Text.trimChars text.toList) = (negative, body) := ⟨_, _, rfl⟩
  obtain ⟨radix, digits, mark⟩ : ∃ radix digits, base.split body = (radix, digits) := ⟨_, _, rfl⟩
  simp only [readWithin, sign, mark, Numeral.readSigned_eq sign mark, ← Numeral.value?_eq_none_iff]
  cases read : Numeral.value? radix digits with
  | none => rw [if_pos rfl, Option.map_none]
  | some n =>
    rw [if_neg (by simp), Numeral.gatherFrom_of_value? read, Option.map_some]
    by_cases fits : n ≤ Numeral.widest
    · simp only [if_pos fits]
    · -- a number that does not fit lies beyond both bounds, whatever its sign
      have outside : ¬(low.toInt ≤ Numeral.withSign negative n ∧ Numeral.withSign negative n ≤ high.toInt) := by
        have lowest := low.le_toInt
        have highest := high.toInt_lt
        have large : 170141183460469231731687303715884105727 < n := Nat.lt_of_not_le fits
        unfold Numeral.withSign
        split <;> omega
      simp only [if_neg fits, if_neg outside]

section

variable {base : Numeral.Base} {low high value : Int64} {text : String}

theorem readWithin_eq_notANumber_iff :
    readWithin base low high text = .error (.notANumber text) ↔ Numeral.readSigned base text = none := by
  rw [readWithin_eq]
  cases Numeral.readSigned base text with
  | none => simp
  | some n =>
    simp only [reduceCtorEq, iff_false]
    split <;> simp [Error.notANumber, Error.outOfRange]

theorem readWithin_eq_outOfRange_iff :
    readWithin base low high text = .error (.outOfRange text low.toInt high.toInt) ↔
      ∃ n, Numeral.readSigned base text = some n ∧ ¬(low.toInt ≤ n ∧ n ≤ high.toInt) := by
  rw [readWithin_eq]
  cases Numeral.readSigned base text with
  | none => simp [Error.notANumber, Error.outOfRange]
  | some n =>
    simp only [Option.some.injEq, exists_eq_left']
    split
    · next inside => simp [inside]
    · next outside => simp [outside]

theorem readWithin_eq_ok_iff : readWithin base low high text = .ok value ↔
    Numeral.readSigned base text = some value.toInt ∧ Within (low, high) value := by
  constructor
  · intro read
    have inside := readWithin_mem read
    rw [readWithin_eq] at read
    split at read
    · cases read
    · next n written =>
      split at read
      · next between =>
        cases read
        have lowest := Int.le_trans low.le_toInt between.1
        have highest := Int.lt_of_le_of_lt between.2 high.toInt_lt
        rw [Int64.toInt_ofInt_of_le lowest highest]
        exact ⟨written, inside⟩
      · cases read
  · rintro ⟨written, inside⟩
    have between : low.toInt ≤ value.toInt ∧ value.toInt ≤ high.toInt :=
      ⟨Int64.le_iff_toInt_le.1 inside.1, Int64.le_iff_toInt_le.1 inside.2⟩
    simp only [readWithin_eq, written, if_pos between, Int64.ofInt_toInt]

end

theorem readWithin_of_readSigned (bounds : Int64 × Int64) {base : Numeral.Base} {value : Int64}
    {text : String} (read : Numeral.readSigned base text = some value.toInt) (inside : Within bounds value) :
    readWithin base bounds.1 bounds.2 text = .ok value := readWithin_eq_ok_iff.2 ⟨read, inside⟩

namespace IntegerRule

/-- Rules whose names are no numbers and whose base can write every number between the bounds. A
negative number has no hexadecimal form that is read as one. -/
@[mk_iff]
structure Faithful (rule : IntegerRule) : Prop where
  sound : rule.Sound
  names : ∀ named ∈ rule.aliases, Numeral.readSigned rule.base named.1 = none
  base : rule.base.ReadsDecimal ∨ rule.base = .hexadecimal ∧ 0 ≤ rule.bounds.1

instance (rule : IntegerRule) : Decidable rule.Faithful :=
  decidable_of_iff _ rule.faithful_iff.symm

/-- Rules with numbers within the bounds and names that cannot be taken for numbers. A name with a blank at
an end is never looked up. -/
@[mk_iff]
structure Legible (rule : IntegerRule) : Prop where
  sound : rule.Sound
  names : ∀ named ∈ rule.aliases, Text.trim named.1 = named.1 → Numeral.readSigned rule.base named.1 = none
  base : rule.base.ReadsDecimal ∨ rule.base = .hexadecimal

instance (rule : IntegerRule) : Decidable rule.Legible := decidable_of_iff _ rule.legible_iff.symm

variable {rule : IntegerRule} {text : String} {value : Int64}

theorem Faithful.legible (faithful : rule.Faithful) : rule.Legible where
  sound := faithful.sound
  names named here _ := faithful.names named here
  base := faithful.base.imp_right (·.1)

namespace Legible

/-- A number is no name. -/
theorem parse_eq_readWithin (legible : rule.Legible) {n : Int}
    (number : Numeral.readSigned rule.base text = some n) :
    rule.parse text = readWithin rule.base rule.bounds.1 rule.bounds.2 (Text.trim text) := by
  have unnamed : rule.aliases.find? (·.1 = Text.trim text) = none := by
    apply List.find?_eq_none.2
    intro named here same
    have name : named.1 = Text.trim text := of_decide_eq_true same
    have noNumber := legible.names named here (by rw [name, Text.trim_trim])
    rw [name, Numeral.readSigned_trim, number] at noNumber
    cases noNumber
  simp only [parse, unnamed]

theorem parse_of_readSigned (legible : rule.Legible)
    (read : Numeral.readSigned rule.base text = some value.toInt) (inside : Within rule.bounds value) :
    rule.parse text = .ok value := by
  rw [legible.parse_eq_readWithin read]
  exact readWithin_of_readSigned rule.bounds (by rwa [Numeral.readSigned_trim]) inside

theorem readSigned_number (legible : rule.Legible) (plain : ¬(rule.base = .hexadecimal ∧ value < 0)) :
    Numeral.readSigned rule.base (rule.number value) = some value.toInt := by
  unfold number
  split
  · next hexadecimal =>
    have natural : 0 ≤ value := Int64.not_lt.1 fun negative => plain ⟨hexadecimal, negative⟩
    exact Numeral.readSigned_hexWord_of_nonneg (.inr hexadecimal) natural
  · next other => exact Numeral.readSigned_decimal (legible.base.resolve_right other) _

/-- The two's complement that a negative number is shown as is beyond every upper bound. -/
theorem parse_hexWord_of_neg (legible : rule.Legible) (hexadecimal : rule.base = .hexadecimal)
    (negative : value < 0) :
    rule.parse (Numeral.hexWord value) =
      .error (.outOfRange (Numeral.hexWord value) rule.bounds.1.toInt rule.bounds.2.toInt) := by
  have number := Numeral.readSigned_hexWord (.inr hexadecimal) value
  have whole : Text.trim (Numeral.hexWord value) = Numeral.hexWord value :=
    Text.trim_of_isTight (.of_forall fun _ => Numeral.not_isBlank_of_mem_hexWord)
  have beyond : ¬((value.toUInt64.toNat : Int) ≤ rule.bounds.2.toInt) := by
    have complement := Numeral.toNat_toUInt64_of_neg negative
    have least := value.le_toInt
    have greatest := rule.bounds.2.toInt_lt
    omega
  rw [legible.parse_eq_readWithin number, whole]
  exact readWithin_eq_outOfRange_iff.2 ⟨_, number, fun between => beyond between.2⟩

end Legible

theorem parse_format (faithful : rule.Faithful) (inside : Within rule.bounds value) :
    rule.parse (rule.format .parsable value) = .ok value := by
  refine faithful.legible.parse_of_readSigned (faithful.legible.readSigned_number ?_) inside
  rintro ⟨hexadecimal, negative⟩
  rcases faithful.base with ten | ⟨-, natural⟩
  · rcases ten with other | other <;> cases hexadecimal.symm.trans other
  · exact Int64.not_lt.2 (Int64.le_trans natural inside.1) negative

/-- What is read of a text is read again of the number it is shown as, but for negative numbers in
hexadecimal: their sign is lost in the two's complement, which no bounds reach. -/
theorem read_again (legible : rule.Legible) (read : rule.parse text = .ok value) :
    rule.parse (rule.format .parsable value) =
      if rule.base = .hexadecimal ∧ value < 0 then
        .error (.outOfRange (Numeral.hexWord value) rule.bounds.1.toInt rule.bounds.2.toInt)
      else .ok value := by
  have shown : rule.format .parsable value = rule.number value := rfl
  rw [shown]
  split
  · next negative =>
    rw [number, if_pos negative.1, legible.parse_hexWord_of_neg negative.1 negative.2]
  · next plain =>
    exact legible.parse_of_readSigned (legible.readSigned_number plain) (within_of_parse legible.sound read)

def signedWords : IntegerRule where
  width := .int64
  base := .hexadecimal
  aliases := [("unset", -1), ("most", Int64.maxValue)]

theorem read_again_most :
    signedWords.Legible ∧ signedWords.parse " most " = .ok Int64.maxValue ∧
      signedWords.format .parsable Int64.maxValue = "0x7fffffffffffffff" ∧
      signedWords.parse (signedWords.format .parsable Int64.maxValue) = .ok Int64.maxValue := by
  have legible : signedWords.Legible := by decide
  have read : signedWords.parse " most " = .ok Int64.maxValue := by decide
  exact ⟨legible, read, by decide, (read_again legible read).trans (if_neg (by decide))⟩

/-- A name for a negative number, and the number itself, are shown as a text that is refused. -/
theorem negative_not_read_again :
    signedWords.Legible ∧ signedWords.parse "unset" = .ok (-1) ∧ signedWords.parse "-0x1" = .ok (-1) ∧
      signedWords.format .parsable (-1) = "0xffffffffffffffff" ∧
      signedWords.parse (signedWords.format .parsable (-1)) ≠ .ok (-1) := by decide

end IntegerRule

theorem Scalar.parseMtu_format {value : Int64} (inside : Within (0, 4294967295) value) :
    parseMtu (if value = 0 then "auto" else Numeral.decimal value.toInt) = .ok value := by
  split
  · next zero =>
    subst zero
    decide
  · have number : Numeral.readSigned (.fixed 10) (Text.trim (Numeral.decimal value.toInt))
        = some value.toInt := by
      rw [Numeral.readSigned_trim, Numeral.readSigned_decimal (.inr rfl)]
    have noWord : Text.trim (Numeral.decimal value.toInt) ≠ "auto" := by
      intro same
      have noNumber : Numeral.readSigned (.fixed 10) "auto" = none := by decide
      rw [same, noNumber] at number
      cases number
    have read : readWithin (.fixed 10) 0 4294967295 (Text.trim (Numeral.decimal value.toInt)) = .ok value :=
      readWithin_of_readSigned (0, 4294967295) number inside
    simp only [parseMtu, if_neg noWord, read]

end NetProfile
