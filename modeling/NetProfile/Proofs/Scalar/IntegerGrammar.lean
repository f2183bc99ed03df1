import Mathlib.Data.Nat.Digits.Defs
import NetProfile.Proofs.Scalar.Integer
import NetProfile.Proofs.Text.Case

/-!
The grammar of written integers. At most one sign is followed by digits, and a mark in front of the
digits may say which radix they have. What is read is the exact integer that the digits denote, as long
as it lies within the bounds.
-/

namespace NetProfile

namespace Numeral

structure Parts where
  negative : Bool
  radix : Nat
  digits : List Char

inductive SignedAs : List Char → Bool → List Char → Prop
  | minus (body : List Char) : SignedAs ('-' :: body) true body
  | plus (body : List Char) : SignedAs ('+' :: body) false body
  | bare {body : List Char} (unsigned : ∀ c, body.head? = some c → c ≠ '-' ∧ c ≠ '+') : SignedAs body false body

inductive HexMarked (digits : List Char) : List Char → Prop
  | small : HexMarked digits ('0' :: 'x' :: digits)
  | capital : HexMarked digits ('0' :: 'X' :: digits)

inductive MarkedAs : Base → List Char → Nat → List Char → Prop
  | fixed (radix : Nat) (digits : List Char) : MarkedAs (.fixed radix) digits radix digits
  | marked {base : Base} {digits body : List Char} (reads : base = .automatic ∨ base = .hexadecimal)
      (mark : HexMarked digits body) : MarkedAs base body 16 digits
  | hexadecimal {digits : List Char} (unmarked : ∀ rest, ¬HexMarked rest digits) :
      MarkedAs .hexadecimal digits 16 digits
  | octal {digits : List Char} (more : digits ≠ []) (unmarked : ∀ rest, ¬HexMarked rest ('0' :: digits)) :
      MarkedAs .automatic ('0' :: digits) 8 digits
  | decimal {digits : List Char} (unmarked : ∀ rest, digits = '0' :: rest → rest = []) :
      MarkedAs .automatic digits 10 digits

inductive Written (base : Base) (text : String) : Parts → Prop
  | parts {negative : Bool} {body digits : List Char} {radix : Nat}
      (sign : SignedAs (Text.trim text).toList negative body) (mark : MarkedAs base body radix digits) :
      Written base text ⟨negative, radix, digits⟩

def IsDigit (radix : Nat) (c : Char) (d : Nat) : Prop := d < radix ∧ c.toLower = Nat.digitChar d

/-- The exact integer of the parts. The first of the digits counts most. -/
inductive Parts.Denotes (parts : Parts) : Int → Prop
  | integer {values : List Nat} (notEmpty : values ≠ [])
      (digits : List.Forall₂ (IsDigit parts.radix) parts.digits values) :
      parts.Denotes (withSign parts.negative (Nat.ofDigits parts.radix values.reverse))

theorem signedAs_iff {cs body : List Char} {negative : Bool} :
    SignedAs cs negative body ↔ splitSign cs = (negative, body) := by
  constructor
  · intro signed
    cases signed with
    | minus | plus => rfl
    | bare unsigned =>
      unfold splitSign
      split
      · exact absurd rfl (unsigned '-' rfl).1
      · exact absurd rfl (unsigned '+' rfl).2
      · rfl
  · intro cut
    unfold splitSign at cut
    split at cut
    · cases cut
      exact .minus _
    · cases cut
      exact .plus _
    · next noMinus noPlus =>
      cases cut
      refine .bare fun c head => ⟨?_, ?_⟩
      · rintro rfl
        obtain ⟨rest, rfl⟩ := List.head?_eq_some_iff.1 head
        exact noMinus rest rfl
      · rintro rfl
        obtain ⟨rest, rfl⟩ := List.head?_eq_some_iff.1 head
        exact noPlus rest rfl

theorem hexMarked_iff {cs digits : List Char} : HexMarked digits cs ↔ stripHexMark? cs = some digits := by
  constructor
  · rintro (_ | _) <;> rfl
  · intro strip
    unfold stripHexMark? at strip
    split at strip
    · cases strip
      exact .small
    · cases strip
      exact .capital
    · cases strip

theorem stripHexMark?_eq_none_iff {cs : List Char} :
    stripHexMark? cs = none ↔ ∀ rest, ¬HexMarked rest cs := by
  rw [Option.eq_none_iff_forall_ne_some]
  exact forall_congr' fun rest => not_congr hexMarked_iff.symm

section Marks

variable {base : Base} {body digits : List Char} {radix : Nat}

theorem MarkedAs.split_eq (marked : MarkedAs base body radix digits) : base.split body = (radix, digits) := by
  cases marked with
  | fixed => rfl
  | marked reads mark =>
    rcases reads with rfl | rfl <;> simp only [Base.split, hexMarked_iff.1 mark, Option.getD_some]
  | hexadecimal unmarked => simp only [Base.split, stripHexMark?_eq_none_iff.2 unmarked, Option.getD_none]
  | octal more unmarked =>
    obtain ⟨d, rest, rfl⟩ := List.exists_cons_of_ne_nil more
    simp only [Base.split, stripHexMark?_eq_none_iff.2 unmarked]
  | decimal unmarked =>
    have plain : ∀ rest, ¬HexMarked rest body := by
      rintro rest (_ | _) <;> simp at unmarked
    simp only [Base.split, stripHexMark?_eq_none_iff.2 plain]
    split
    · next d rest => simpa using unmarked _ rfl
    · rfl

theorem markedAs_of_split_hexadecimal (cut : Base.hexadecimal.split body = (radix, digits)) :
    MarkedAs .hexadecimal body radix digits := by
  cases strip : stripHexMark? body with
  | some rest =>
    simp only [Base.split, strip, Option.getD_some] at cut
    cases cut
    exact .marked (.inr rfl) (hexMarked_iff.2 strip)
  | none =>
    simp only [Base.split, strip, Option.getD_none] at cut
    cases cut
    exact .hexadecimal (stripHexMark?_eq_none_iff.1 strip)

theorem markedAs_of_split_automatic (cut : Base.automatic.split body = (radix, digits)) :
    MarkedAs .automatic body radix digits := by
  cases strip : stripHexMark? body with
  | some rest =>
    simp only [Base.split, strip] at cut
    cases cut
    exact .marked (.inl rfl) (hexMarked_iff.2 strip)
  | none =>
    simp only [Base.split, strip] at cut
    split at cut
    · next d rest =>
      cases cut
      exact .octal (by simp) (stripHexMark?_eq_none_iff.1 strip)
    · next unmarked =>
      cases cut
      refine .decimal fun rest start => ?_
      cases rest with
      | nil => rfl
      | cons d rest => exact absurd start (unmarked d rest)

theorem markedAs_iff : MarkedAs base body radix digits ↔ base.split body = (radix, digits) := by
  refine ⟨MarkedAs.split_eq, fun cut => ?_⟩
  cases base with
  | fixed =>
    cases cut
    exact .fixed _ _
  | hexadecimal => exact markedAs_of_split_hexadecimal cut
  | automatic => exact markedAs_of_split_automatic cut

end Marks

theorem exists_parts (base : Base) (text : String) :
    ∃ parts : Parts, (∀ other, Written base text other ↔ other = parts) ∧
      readSigned base text = (value? parts.radix parts.digits).map (withSign parts.negative) := by
  obtain ⟨negative, body, sign⟩ : ∃ negative body,
      splitSign (Text.trimChars text.toList) = (negative, body) := ⟨_, _, rfl⟩
  obtain ⟨radix, digits, mark⟩ : ∃ radix digits, base.split body = (radix, digits) := ⟨_, _, rfl⟩
  refine ⟨⟨negative, radix, digits⟩, fun other => ⟨?_, ?_⟩, readSigned_eq sign mark⟩
  · rintro ⟨otherSign, otherMark⟩
    rw [signedAs_iff, Text.toList_trim, sign] at otherSign
    cases otherSign
    rw [markedAs_iff, mark] at otherMark
    cases otherMark
    rfl
  · rintro rfl
    exact .parts (signedAs_iff.2 (by rw [Text.toList_trim, sign])) (markedAs_iff.2 mark)

theorem digitValue_eq_some_iff {c : Char} {d : Nat} (small : d < 16) :
    digitValue c = some d ↔ c.toLower = Nat.digitChar d := by
  have ascii : ∀ n : Fin 128, ∀ d : Fin 16,
      digitValue (Char.ofNat n) = some d.val ↔ (Char.ofNat n).toLower = Nat.digitChar d := by decide +kernel
  have known : c.toNat < 128 → (digitValue c = some d ↔ c.toLower = Nat.digitChar d) := fun low => by
    simpa only [Char.ofNat_toNat] using ascii ⟨c.toNat, low⟩ ⟨d, small⟩
  -- either side holds of ASCII characters only
  constructor
  · intro value
    have digit : isDigitOf (d + 1) c = true := by simp [isDigitOf, value]
    have range := range_of_isDigitOf digit
    exact (known (by omega)).1 value
  · intro letter
    refine (known ?_).2 letter
    rcases Text.toLower_cases c with same | ⟨n, rfl⟩
    · have digits : ∀ d : Fin 16, (Nat.digitChar d).toNat < 128 := by decide
      rw [same] at letter
      exact letter ▸ digits ⟨d, small⟩
    · have capitals : ∀ n : Fin 26, (Char.ofNat (65 + n)).toNat < 128 := by decide
      exact capitals n

theorem isDigit_iff {radix d : Nat} {c : Char} (small : radix ≤ 16) :
    IsDigit radix c d ↔ isDigitOf radix c = true ∧ digitValue c = some d := by
  constructor
  · rintro ⟨below, letter⟩
    have value := (digitValue_eq_some_iff (by omega)).2 letter
    exact ⟨by simpa [isDigitOf, value] using below, value⟩
  · rintro ⟨digit, value⟩
    have below : d < radix := by simpa [isDigitOf, value] using digit
    exact ⟨below, (digitValue_eq_some_iff (by omega)).1 value⟩

theorem isDigitOf_iff {radix : Nat} {c : Char} (small : radix ≤ 16) :
    isDigitOf radix c = true ↔ ∃ d, IsDigit radix c d := by
  constructor
  · intro digit
    cases value : digitValue c with
    | none => simp [isDigitOf, value] at digit
    | some d => exact ⟨d, (isDigit_iff small).2 ⟨digit, value⟩⟩
  · rintro ⟨d, digit⟩
    exact ((isDigit_iff small).1 digit).1

/-- Each digit adds its value to the number before it, which moves one place up. -/
theorem valueFrom_eq_some_iff {radix n m : Nat} {cs : List Char} (small : radix ≤ 16) :
    valueFrom radix n cs = some m ↔
      ∃ values, List.Forall₂ (IsDigit radix) cs values ∧
        m = n * radix ^ cs.length + Nat.ofDigits radix values.reverse := by
  induction cs generalizing n with
  | nil => simp [valueFrom, Nat.ofDigits_nil, eq_comm]
  | cons c cs ih =>
    have place : ∀ d values, List.Forall₂ (IsDigit radix) cs values →
        (n * radix + d) * radix ^ cs.length + Nat.ofDigits radix values.reverse
          = n * radix ^ (c :: cs).length + Nat.ofDigits radix (d :: values).reverse := by
      intro d values digits
      rw [Nat.ofDigits_reverse_cons, ← digits.length_eq, List.length_cons, Nat.pow_succ]
      ring
    rw [valueFrom]
    split
    · next digit =>
      obtain ⟨d, known⟩ := (isDigitOf_iff small).1 digit
      have value := ((isDigit_iff small).1 known).2
      rw [value, Option.getD_some, ih]
      constructor
      · rintro ⟨values, digits, rfl⟩
        exact ⟨d :: values, .cons known digits, place d values digits⟩
      · rintro ⟨values, digits, rfl⟩
        obtain ⟨e, rest, first, later, rfl⟩ := List.forall₂_cons_left_iff.1 digits
        obtain rfl : d = e := Option.some.inj (value.symm.trans ((isDigit_iff small).1 first).2)
        exact ⟨rest, later, (place d rest later).symm⟩
    · next other =>
      simp only [reduceCtorEq, false_iff]
      rintro ⟨values, digits, rfl⟩
      obtain ⟨e, rest, first, -, rfl⟩ := List.forall₂_cons_left_iff.1 digits
      exact other ((isDigit_iff small).1 first).1

theorem lt_of_digits {radix : Nat} {cs : List Char} {values : List Nat}
    (digits : List.Forall₂ (IsDigit radix) cs values) : ∀ d ∈ values, d < radix := by
  induction digits with
  | nil => simp
  | cons digit rest ih => exact List.forall_mem_cons.2 ⟨digit.1, ih⟩

/-- More digits move a number to the left, but never as far as the next one. -/
theorem bounds_of_valueFrom {radix n m : Nat} {cs : List Char} (two : 1 < radix) (small : radix ≤ 16)
    (value : valueFrom radix n cs = some m) :
    n * radix ^ cs.length ≤ m ∧ m < (n + 1) * radix ^ cs.length := by
  obtain ⟨values, digits, rfl⟩ := (valueFrom_eq_some_iff small).1 value
  have below : Nat.ofDigits radix values.reverse < radix ^ cs.length := by
    rw [digits.length_eq, ← List.length_reverse]
    exact Nat.ofDigits_lt_base_pow_length two (by simpa using lt_of_digits digits)
  rw [Nat.succ_mul]
  omega

theorem value?_eq_some_iff {radix n : Nat} {cs : List Char} (small : radix ≤ 16) :
    value? radix cs = some n ↔
      ∃ values, values ≠ [] ∧ List.Forall₂ (IsDigit radix) cs values ∧ n = Nat.ofDigits radix values.reverse := by
  unfold value?
  split
  · next empty =>
    simp only [reduceCtorEq, false_iff, empty, List.forall₂_nil_left_iff]
    rintro ⟨values, notEmpty, rfl, -⟩
    exact notEmpty rfl
  · next notEmpty =>
    rw [valueFrom_eq_some_iff small]
    simp only [Nat.zero_mul, Nat.zero_add]
    constructor
    · rintro ⟨values, digits, rfl⟩
      refine ⟨values, fun empty => notEmpty ?_, digits, rfl⟩
      rwa [empty, List.forall₂_nil_right_iff] at digits
    · rintro ⟨values, -, digits, rfl⟩
      exact ⟨values, digits, rfl⟩

theorem isDigitOf_of_forall₂ {radix : Nat} {cs : List Char} {values : List Nat} (small : radix ≤ 16)
    (digits : List.Forall₂ (IsDigit radix) cs values) : ∀ c ∈ cs, isDigitOf radix c = true :=
  isDigitOf_of_valueFrom ((valueFrom_eq_some_iff (n := 0) small).2 ⟨values, digits, rfl⟩)

theorem Parts.denotes_iff {parts : Parts} (small : parts.radix ≤ 16) {n : Int} :
    parts.Denotes n ↔ (value? parts.radix parts.digits).map (withSign parts.negative) = some n := by
  constructor
  · rintro ⟨notEmpty, digits⟩
    rw [(value?_eq_some_iff small).2 ⟨_, notEmpty, digits, rfl⟩, Option.map_some]
  · intro read
    obtain ⟨m, value, rfl⟩ := Option.map_eq_some_iff.1 read
    obtain ⟨values, notEmpty, digits, rfl⟩ := (value?_eq_some_iff small).1 value
    exact .integer notEmpty digits

theorem Parts.value?_eq_none_iff {parts : Parts} (small : parts.radix ≤ 16) :
    value? parts.radix parts.digits = none ↔
      parts.digits = [] ∨ ∃ c ∈ parts.digits, ∀ d, ¬IsDigit parts.radix c d := by
  simp only [Numeral.value?_eq_none_iff, List.all_eq_false, isDigitOf_iff small, not_exists]

theorem radix_le {base : Base} (known : base.ReadsDecimal ∨ base = .hexadecimal) {text : String} {parts : Parts}
    (written : Written base text parts) : parts.radix ≤ 16 := by
  obtain ⟨-, mark⟩ := written
  cases mark with
  | marked | hexadecimal | octal | decimal => simp
  | fixed radix =>
    rcases known with (other | ten) | other
    · cases other
    · cases ten
      simp
    · cases other

theorem readSigned_eq_some_iff {base : Base} (known : base.ReadsDecimal ∨ base = .hexadecimal) {text : String}
    {n : Int} : readSigned base text = some n ↔ ∃ parts, Written base text parts ∧ parts.Denotes n := by
  obtain ⟨parts, unique, read⟩ := exists_parts base text
  have small := radix_le known ((unique parts).2 rfl)
  simp only [unique, exists_eq_left, Parts.denotes_iff small, read]

end Numeral

/-- A text is no number if there are no digits or if one of its characters is no digit of the radix. Any
other text denotes an exact integer, which is out of range or is what is read, however many digits it
has. Every number within the bounds is read from its decimal form. -/
theorem readWithin_grammar {base : Numeral.Base} (known : base.ReadsDecimal ∨ base = .hexadecimal)
    (low high : Int64) (text : String) :
    ∃ parts : Numeral.Parts, (∀ other, Numeral.Written base text other ↔ other = parts) ∧
      (readWithin base low high text = .error (.notANumber text) ↔
        parts.digits = [] ∨ ∃ c ∈ parts.digits, ∀ d, ¬Numeral.IsDigit parts.radix c d) ∧
      (readWithin base low high text = .error (.outOfRange text low.toInt high.toInt) ↔
        ∃ n, parts.Denotes n ∧ ¬(low.toInt ≤ n ∧ n ≤ high.toInt)) ∧
      (∀ value, readWithin base low high text = .ok value ↔
        parts.Denotes value.toInt ∧ Within (low, high) value) ∧
      (base.ReadsDecimal → ∀ value, Within (low, high) value →
        readWithin base low high (Numeral.decimal value.toInt) = .ok value) := by
  obtain ⟨parts, unique, read⟩ := Numeral.exists_parts base text
  have small := Numeral.radix_le known ((unique parts).2 rfl)
  refine ⟨parts, unique, ?_⟩
  simp only [Numeral.Parts.denotes_iff small, ← Numeral.Parts.value?_eq_none_iff small, ← read]
  refine ⟨?_, readWithin_eq_outOfRange_iff, fun value => readWithin_eq_ok_iff, fun ten value inside => ?_⟩
  · rw [readWithin_eq_notANumber_iff, read, Option.map_eq_none_iff]
  · exact readWithin_of_readSigned (low, high) (Numeral.readSigned_decimal ten _) inside

/-- The least number of 64 bits has a magnitude that no number of 64 bits has. -/
theorem readWithin_grammar_least :
    let text := " -0X8000000000000000\n"
    let digits := "8000000000000000".toList
    Numeral.Base.automatic.ReadsDecimal ∧ Numeral.Written .automatic text ⟨true, 16, digits⟩ ∧
      Numeral.Parts.Denotes ⟨true, 16, digits⟩ (-9223372036854775808) ∧
      readWithin .automatic Int64.minValue Int64.maxValue text = .ok Int64.minValue ∧
      Within (Int64.minValue, Int64.maxValue) Int64.minValue ∧
      readWithin .automatic Int64.minValue Int64.maxValue "-9223372036854775808" = .ok Int64.minValue := by
  intro text digits
  have ten : Numeral.Base.automatic.ReadsDecimal := .inl rfl
  have sign : Numeral.SignedAs (Text.trim text).toList true ('0' :: 'X' :: digits) :=
    Numeral.signedAs_iff.2 (by decide)
  have written : Numeral.Written .automatic text ⟨true, 16, digits⟩ :=
    .parts sign (.marked (.inl rfl) .capital)
  have inside : Within (Int64.minValue, Int64.maxValue) Int64.minValue := by decide
  obtain ⟨parts, unique, -, -, exact, back⟩ :=
    readWithin_grammar (.inl ten) Int64.minValue Int64.maxValue text
  obtain rfl := (unique _).1 written
  have read : readWithin .automatic Int64.minValue Int64.maxValue text = .ok Int64.minValue := by decide
  exact ⟨ten, written, ((exact _).1 read).1, read, inside, back ten _ inside⟩

end NetProfile
