import NetProfile.Numeral
import NetProfile.Proofs.Text.Trim

/-!
Written integers. The digits of a number denote that number in every radix up to sixteen, and the
decimal form of an integer is read back whether the radix is ten or found from the text.
-/

namespace NetProfile.Numeral

theorem digitValue_digitChar {d : Nat} (small : d < 16) : digitValue (Nat.digitChar d) = some d := by
  have all : ∀ n : Fin 16, digitValue (Nat.digitChar n) = some n.val := by decide
  exact all ⟨d, small⟩

theorem isDigitOf_digitChar {radix d : Nat} (below : d < radix) (small : d < 16) :
    isDigitOf radix (Nat.digitChar d) = true := by
  simp [isDigitOf, digitValue_digitChar small, below]

theorem valueFrom_append (radix n : Nat) (front back : List Char) :
    valueFrom radix n (front ++ back) =
      (valueFrom radix n front).bind fun m => valueFrom radix m back := by
  induction front generalizing n with
  | nil => rfl
  | cons c cs ih =>
    simp only [List.cons_append, valueFrom]
    split
    · exact ih _
    · rfl

theorem valueFrom_toDigits {radix : Nat} (two : 1 < radix) (small : radix ≤ 16) (n : Nat) :
    valueFrom radix 0 (Nat.toDigits radix n) = some n := by
  induction n using Nat.strongRecOn with
  | ind n ih =>
    have last : ∀ m d, d < radix → valueFrom radix m [Nat.digitChar d] = some (m * radix + d) := by
      intro m d below
      have digit : d < 16 := by omega
      simp [valueFrom, isDigitOf_digitChar below digit, digitValue_digitChar digit]
    rw [Nat.toDigits_eq_if two]
    split
    · next below => simpa using last 0 n below
    · next above =>
      have shorter : n / radix < n := Nat.div_lt_self (by omega) two
      rw [valueFrom_append, ih _ shorter, Option.bind_some, last _ _ (Nat.mod_lt n (by omega)),
        Nat.div_add_mod']

theorem value?_toDigits {radix : Nat} (two : 1 < radix) (small : radix ≤ 16) (n : Nat) :
    value? radix (Nat.toDigits radix n) = some n := by
  rw [value?, if_neg Nat.toDigits_ne_nil, valueFrom_toDigits two small]

theorem mem_toDigits {radix n : Nat} (two : 1 < radix) {c : Char} (here : c ∈ Nat.toDigits radix n) :
    ∃ d < radix, c = Nat.digitChar d := by
  induction n using Nat.strongRecOn with
  | ind n ih =>
    rw [Nat.toDigits_eq_if two] at here
    split at here
    · next below => exact ⟨n, below, by simpa using here⟩
    · next above =>
      rcases List.mem_append.1 here with front | back
      · exact ih _ (Nat.div_lt_self (by omega) two) front
      · exact ⟨n % radix, Nat.mod_lt n (by omega), by simpa using back⟩

theorem head?_toDigits {radix n : Nat} (two : 1 < radix) (small : radix ≤ 16) (positive : 0 < n) :
    (Nat.toDigits radix n).head? ≠ some '0' := by
  induction n using Nat.strongRecOn with
  | ind n ih =>
    rw [Nat.toDigits_eq_if two]
    split
    · next below =>
      have notZero : ∀ d : Fin 16, 0 < d.val → Nat.digitChar d ≠ '0' := by decide
      simpa using notZero ⟨n, by omega⟩ positive
    · next above =>
      have quotient : 0 < n / radix := Nat.div_pos (by omega) (by omega)
      rw [List.head?_append]
      have front := ih _ (Nat.div_lt_self positive two) quotient
      obtain ⟨d, ds, shape⟩ := List.exists_cons_of_ne_nil
        (Nat.toDigits_ne_nil (n := n / radix) (b := radix))
      rw [shape] at front ⊢
      exact front

theorem isDigitOf_mono {low high : Nat} (le : low ≤ high) {c : Char}
    (digit : isDigitOf low c = true) : isDigitOf high c = true := by
  unfold isDigitOf at digit ⊢
  split at digit
  · simp only [decide_eq_true_eq] at digit ⊢
    omega
  · cases digit

theorem isDigitOf_of_mem_toDigits {radix n : Nat} (two : 1 < radix) (small : radix ≤ 16) {c : Char}
    (here : c ∈ Nat.toDigits radix n) : isDigitOf radix c = true := by
  obtain ⟨d, below, rfl⟩ := mem_toDigits two here
  exact isDigitOf_digitChar below (by omega)

theorem not_mem_toDigits {radix n : Nat} (two : 1 < radix) (small : radix ≤ 16) {c : Char}
    (other : isDigitOf radix c = false) : c ∉ Nat.toDigits radix n := by
  intro here
  rw [isDigitOf_of_mem_toDigits two small here] at other
  cases other

theorem unsigned?_toDigits {radix : Nat} (two : 1 < radix) (small : radix ≤ 16) (n : Nat) :
    unsigned? radix (Nat.toDigits radix n) = some n := by
  unfold unsigned?
  split
  · next shape =>
    have plus : '+' ∉ Nat.toDigits radix n := not_mem_toDigits two small rfl
    exact absurd (shape ▸ List.mem_cons_self) plus
  · exact value?_toDigits two small n

theorem ne_of_mem_toDigits {radix n : Nat} (two : 1 < radix) (small : radix ≤ 16) {c d : Char}
    (other : isDigitOf radix c = false) (here : d ∈ Nat.toDigits radix n) : (d == c) = false := by
  rw [beq_eq_false_iff_ne]
  intro same
  exact not_mem_toDigits two small other (same ▸ here)

theorem value?_append {radix n : Nat} {front : List Char} (value : value? radix front = some n) (back : List Char) :
    value? radix (front ++ back) = valueFrom radix n back := by
  unfold value? at value ⊢
  split at value
  · cases value
  · next notEmpty =>
    rw [if_neg (List.append_ne_nil_of_left_ne_nil notEmpty back), valueFrom_append, value, Option.bind_some]

theorem isDigitOf_of_valueFrom {radix n m : Nat} {cs : List Char}
    (read : valueFrom radix n cs = some m) : ∀ c ∈ cs, isDigitOf radix c = true := by
  induction cs generalizing n with
  | nil => simp
  | cons c cs ih =>
    simp only [valueFrom] at read
    split at read
    · next digit =>
      intro d here
      rcases List.mem_cons.1 here with rfl | later
      · exact digit
      · exact ih read d later
    · cases read

theorem isDigitOf_of_value? {radix n : Nat} {cs : List Char} (read : value? radix cs = some n) :
    ∀ c ∈ cs, isDigitOf radix c = true := by
  unfold value? at read
  split at read
  · cases read
  · exact isDigitOf_of_valueFrom read

theorem range_of_isDigitOf {radix : Nat} {c : Char} (digit : isDigitOf radix c = true) :
    (48 ≤ c.toNat ∧ c.toNat ≤ 57) ∨ (97 ≤ c.toNat ∧ c.toNat ≤ 122) ∨ (65 ≤ c.toNat ∧ c.toNat ≤ 90) := by
  unfold isDigitOf digitValue at digit
  simp only [Bool.and_eq_true, decide_eq_true_eq, Char.le_def, UInt32.le_iff_toNat_le] at digit
  split at digit
  · next _ value =>
    split at value
    · next decimal => exact .inl decimal
    · split at value
      · next small => exact .inr (.inl small)
      · split at value
        · next capital => exact .inr (.inr capital)
        · cases value
  · cases digit

theorem not_isBlank_of_isDigitOf {radix : Nat} {c : Char} (digit : isDigitOf radix c = true) :
    Text.isBlank c = false := by
  have range := range_of_isDigitOf digit
  simp only [Text.isBlank, Bool.or_eq_false_iff, Bool.and_eq_false_iff, decide_eq_false_iff_not,
    beq_eq_false_iff_ne]
  omega

theorem isDigitOf_ten (c : Char) : isDigitOf 10 c = Text.isAsciiDigit c := by
  have ascii : ∀ n : Fin 128, isDigitOf 10 (Char.ofNat n) = Text.isAsciiDigit (Char.ofNat n) := by decide
  have known : c.toNat < 128 → isDigitOf 10 c = Text.isAsciiDigit c := fun low => by
    simpa only [Char.ofNat_toNat] using ascii ⟨c.toNat, low⟩
  -- either side holds of ASCII characters only
  rw [Bool.eq_iff_iff]
  constructor
  · intro digit
    have range := range_of_isDigitOf digit
    rwa [← known (by omega)]
  · intro digit
    have range := digit
    simp only [Text.isAsciiDigit, Bool.and_eq_true, decide_eq_true_eq] at range
    have low : c.toNat ≤ 57 := range.2
    rwa [known (by omega)]

theorem le_of_valueFrom {radix n m : Nat} (positive : 0 < radix) {cs : List Char}
    (value : valueFrom radix n cs = some m) : n ≤ m := by
  induction cs generalizing n with
  | nil =>
    cases value
    exact Nat.le_refl _
  | cons c cs ih =>
    simp only [valueFrom] at value
    split at value
    · have grown : n ≤ n * radix := Nat.le_mul_of_pos_right n positive
      exact Nat.le_trans (Nat.le_trans grown (Nat.le_add_right _ _)) (ih value)
    · cases value

theorem exists_valueFrom {radix : Nat} {cs : List Char} (digits : ∀ c ∈ cs, isDigitOf radix c = true)
    (n : Nat) : ∃ m, valueFrom radix n cs = some m := by
  induction cs generalizing n with
  | nil => exact ⟨n, rfl⟩
  | cons c cs ih =>
    obtain ⟨digit, rest⟩ := List.forall_mem_cons.1 digits
    obtain ⟨m, value⟩ := ih rest (n * radix + (digitValue c).getD 0)
    exact ⟨m, by rw [valueFrom, if_pos digit, value]⟩

/-- A number that is gathered is exact. One that is given up on the way would not fit in the end either,
as more digits make no number smaller. -/
theorem gatherFrom_eq {radix n : Nat} {cs : List Char} (positive : 0 < radix)
    (digits : ∀ c ∈ cs, isDigitOf radix c = true) (fits : n ≤ widest) :
    gatherFrom radix n cs = (valueFrom radix n cs).filter (· ≤ widest) := by
  induction cs generalizing n with
  | nil => rw [gatherFrom, valueFrom, Option.filter_some, if_pos (by simpa using fits)]
  | cons c cs ih =>
    obtain ⟨digit, rest⟩ := List.forall_mem_cons.1 digits
    rw [gatherFrom, valueFrom, if_pos digit]
    split
    · next small => exact ih rest small
    · next large =>
      obtain ⟨m, value⟩ := exists_valueFrom rest (n * radix + (digitValue c).getD 0)
      have grown := le_of_valueFrom positive value
      rw [value, Option.filter_some, if_neg (by simpa using by omega)]

theorem value?_eq_none_iff {radix : Nat} {cs : List Char} :
    value? radix cs = none ↔ cs = [] ∨ cs.all (isDigitOf radix) = false := by
  rw [value?]
  split
  · next empty => simp [empty]
  · next notEmpty =>
    constructor
    · intro unread
      refine .inr (Bool.eq_false_iff.2 fun digits => ?_)
      obtain ⟨m, value⟩ := exists_valueFrom (List.all_eq_true.1 digits) 0
      rw [unread] at value
      cases value
    · rintro (empty | other)
      · exact absurd empty notEmpty
      · cases value : valueFrom radix 0 cs with
        | none => rfl
        | some m =>
          rw [List.all_eq_true.2 (isDigitOf_of_valueFrom value)] at other
          cases other

theorem pos_of_isDigitOf {radix : Nat} {c : Char} (digit : isDigitOf radix c = true) : 0 < radix := by
  unfold isDigitOf at digit
  split at digit
  · next d _ => exact Nat.lt_of_le_of_lt (Nat.zero_le d) (of_decide_eq_true digit)
  · cases digit

theorem gatherFrom_of_value? {radix n : Nat} {cs : List Char} (read : value? radix cs = some n) :
    gatherFrom radix 0 cs = if n ≤ widest then some n else none := by
  have digits := isDigitOf_of_value? read
  unfold value? at read
  split at read
  · cases read
  · next notEmpty =>
    obtain ⟨c, here⟩ := List.exists_mem_of_ne_nil cs notEmpty
    rw [gatherFrom_eq (pos_of_isDigitOf (digits c here)) digits (Nat.zero_le _), read, Option.filter_some]
    simp only [decide_eq_true_eq]

theorem readSigned_eq {base : Base} {text : String} {negative : Bool} {body digits : List Char} {radix : Nat}
    (sign : splitSign (Text.trimChars text.toList) = (negative, body))
    (mark : base.split body = (radix, digits)) :
    readSigned base text = (value? radix digits).map (withSign negative) := by
  simp only [readSigned, sign, mark]
  cases value? radix digits <;> rfl

theorem readSigned_eq_some {base : Base} {text : String} {negative : Bool} {body digits : List Char}
    {radix m : Nat} (sign : splitSign (Text.trimChars text.toList) = (negative, body))
    (mark : base.split body = (radix, digits)) (value : value? radix digits = some m) :
    readSigned base text = some (withSign negative m) := by
  rw [readSigned_eq sign mark, value, Option.map_some]

theorem readSigned_trim (base : Base) (text : String) :
    readSigned base (Text.trim text) = readSigned base text := by
  unfold readSigned
  rw [Text.toList_trim, Text.trimChars_trimChars]

theorem value?_of_readSigned {base : Base} {text : String} {n : Int}
    (read : readSigned base text = some n) :
    ∃ m, value? (base.split (splitSign (Text.trimChars text.toList)).2).1
      (base.split (splitSign (Text.trimChars text.toList)).2).2 = some m := by
  unfold readSigned at read
  simp only at read
  cases value : value? (base.split (splitSign (Text.trimChars text.toList)).2).1
      (base.split (splitSign (Text.trimChars text.toList)).2).2 with
  | none =>
    rw [value] at read
    cases read
  | some m => exact ⟨m, rfl⟩

theorem mem_of_readSigned {radix : Nat} {text : String} {n : Int}
    (read : readSigned (.fixed radix) text = some n) {c : Char} (here : c ∈ text.toList) :
    Text.isBlank c = true ∨ c = '-' ∨ c = '+' ∨ isDigitOf radix c = true := by
  cases blank : Text.isBlank c with
  | true => exact .inl rfl
  | false =>
    have inner := Text.mem_trimChars_of_mem here blank
    obtain ⟨m, value⟩ := value?_of_readSigned read
    have digits := isDigitOf_of_value? value
    simp only [Base.split] at digits
    right
    generalize Text.trimChars text.toList = body at digits inner
    unfold splitSign at digits
    split at digits
    · rcases List.mem_cons.1 inner with minus | later
      · exact .inl minus
      · exact .inr (.inr (digits c later))
    · rcases List.mem_cons.1 inner with plus | later
      · exact .inr (.inl plus)
      · exact .inr (.inr (digits c later))
    · exact .inr (.inr (digits c inner))

theorem toDigits_zero (radix : Nat) (two : 1 < radix) : Nat.toDigits radix 0 = ['0'] := by
  rw [Nat.toDigits_eq_if two, if_pos (by omega), Nat.digitChar_eq_zero.2 rfl]

def Base.ReadsDecimal (base : Base) : Prop := base = .automatic ∨ base = .fixed 10

instance (base : Base) : Decidable base.ReadsDecimal := inferInstanceAs (Decidable (_ ∨ _))

theorem Base.split_toDigits {base : Base} (ten : base.ReadsDecimal) (n : Nat) :
    base.split (Nat.toDigits 10 n) = (10, Nat.toDigits 10 n) := by
  rcases ten with rfl | rfl
  · have front : ∀ c rest, Nat.toDigits 10 n ≠ '0' :: c :: rest := by
      intro c rest shape
      rcases Nat.eq_zero_or_pos n with rfl | positive
      · rw [toDigits_zero 10 (by decide)] at shape
        cases shape
      · have first : (Nat.toDigits 10 n).head? ≠ some '0' :=
          head?_toDigits (by decide) (by decide) positive
        rw [shape] at first
        exact first rfl
    have unmarked : stripHexMark? (Nat.toDigits 10 n) = none := by
      unfold stripHexMark?
      split
      · next shape => exact absurd shape (front _ _)
      · next shape => exact absurd shape (front _ _)
      · rfl
    simp only [Base.split, unmarked]
  · rfl

theorem trimChars_toDigits (n : Nat) : Text.trimChars (Nat.toDigits 10 n) = Nat.toDigits 10 n := by
  apply Text.trimChars_of_isTight
  apply Text.IsTight.of_forall
  intro c here
  exact not_isBlank_of_isDigitOf (isDigitOf_of_mem_toDigits (by decide) (by decide) here)

theorem splitSign_toDigits (n : Nat) : splitSign (Nat.toDigits 10 n) = (false, Nat.toDigits 10 n) := by
  unfold splitSign
  split
  · next shape =>
    have absent : '-' ∉ Nat.toDigits 10 n := not_mem_toDigits (by decide) (by decide) (by decide)
    rw [shape] at absent
    exact absurd List.mem_cons_self absent
  · next shape =>
    have absent : '+' ∉ Nat.toDigits 10 n := not_mem_toDigits (by decide) (by decide) (by decide)
    rw [shape] at absent
    exact absurd List.mem_cons_self absent
  · rfl

theorem readSigned_decimalDigits {base : Base} (ten : base.ReadsDecimal) (n : Nat) :
    readSigned base (decimalDigits n) = some (n : Int) := by
  have sign : splitSign (Text.trimChars (decimalDigits n).toList) = (false, Nat.toDigits 10 n) := by
    rw [decimalDigits, String.toList_ofList, trimChars_toDigits, splitSign_toDigits]
  exact readSigned_eq_some sign (base.split_toDigits ten n) (value?_toDigits (by decide) (by decide) n)

theorem readSigned_decimal {base : Base} (ten : base.ReadsDecimal) (i : Int) :
    readSigned base (decimal i) = some i := by
  cases i with
  | ofNat n => exact readSigned_decimalDigits ten n
  | negSucc n =>
    have whole : (decimal (.negSucc n)).toList = '-' :: Nat.toDigits 10 (n + 1) := by
      simp [decimal, decimalDigits]
    have tight : Text.trimChars ('-' :: Nat.toDigits 10 (n + 1)) = '-' :: Nat.toDigits 10 (n + 1) := by
      apply Text.trimChars_of_isTight
      apply Text.IsTight.of_forall
      intro c here
      rcases List.mem_cons.1 here with rfl | digit
      · decide
      · exact not_isBlank_of_isDigitOf (isDigitOf_of_mem_toDigits (by decide) (by decide) digit)
    have sign : splitSign (Text.trimChars (decimal (.negSucc n)).toList)
        = (true, Nat.toDigits 10 (n + 1)) := by
      rw [whole, tight]
      rfl
    exact readSigned_eq_some sign (base.split_toDigits ten (n + 1))
      (value?_toDigits (by decide) (by decide) (n + 1))

theorem mem_decimal {i : Int} {c : Char} (here : c ∈ (decimal i).toList) :
    c = '-' ∨ isDigitOf 10 c = true := by
  have digit : ∀ n : Nat, c ∈ (decimalDigits n).toList → isDigitOf 10 c = true := by
    intro n inside
    rw [decimalDigits, String.toList_ofList] at inside
    exact isDigitOf_of_mem_toDigits (by decide) (by decide) inside
  cases i with
  | ofNat n => exact .inr (digit n here)
  | negSucc n =>
    rw [decimal, String.toList_append, List.mem_append] at here
    exact here.imp (fun minus => List.mem_singleton.1 minus) (digit (n + 1))

theorem not_isBlank_of_mem_decimal {i : Int} {c : Char} (here : c ∈ (decimal i).toList) :
    Text.isBlank c = false := by
  rcases mem_decimal here with rfl | digit
  · decide
  · exact not_isBlank_of_isDigitOf digit

theorem trim_decimal (i : Int) : Text.trim (decimal i) = decimal i :=
  Text.trim_of_isTight (.of_forall fun _ => not_isBlank_of_mem_decimal)

theorem decimal_ne_nil (i : Int) : (decimal i).toList ≠ [] := by
  cases i with
  | ofNat n =>
    rw [decimal, decimalDigits, String.toList_ofList]
    exact Nat.toDigits_ne_nil
  | negSucc n => simp [decimal]

theorem toList_hexWord (word : Int64) :
    (hexWord word).toList = '0' :: 'x' :: Nat.toDigits 16 word.toUInt64.toNat := by
  simp [hexWord, hexDigits]

theorem mem_hexWord {word : Int64} {c : Char} (here : c ∈ (hexWord word).toList) :
    c = 'x' ∨ isDigitOf 16 c = true := by
  rw [toList_hexWord, List.mem_cons, List.mem_cons] at here
  rcases here with rfl | mark | digit
  · exact .inr (by decide)
  · exact .inl mark
  · exact .inr (isDigitOf_of_mem_toDigits (by decide) (by decide) digit)

theorem not_isBlank_of_mem_hexWord {word : Int64} {c : Char} (here : c ∈ (hexWord word).toList) :
    Text.isBlank c = false := by
  rcases mem_hexWord here with rfl | digit
  · decide
  · exact not_isBlank_of_isDigitOf digit

theorem toNat_toUInt64_of_nonneg {word : Int64} (natural : 0 ≤ word) :
    ((word.toUInt64.toNat : Nat) : Int) = word.toInt := by
  have above : (0 : Int) ≤ word.toInt := Int64.le_iff_toInt_le.1 natural
  rw [Int64.toNat_toUInt64_of_le natural, ← Int64.toNat_toInt, Int.toNat_of_nonneg above]

/-- The two's complement of a negative number lies beyond all signed words. -/
theorem toNat_toUInt64_of_neg {word : Int64} (negative : word < 0) :
    ((word.toUInt64.toNat : Nat) : Int) = word.toInt + 18446744073709551616 := by
  have below : word.toInt < 0 := Int64.lt_iff_toInt_lt.1 negative
  have whole : word.toInt = if 2 * word.toUInt64.toNat < 2 ^ 64 then (word.toUInt64.toNat : Int)
      else (word.toUInt64.toNat : Int) - (2 ^ 64 : Nat) := BitVec.toInt_eq_toNat_cond word.toBitVec
  rw [whole] at below ⊢
  split at below <;> split <;> omega

/-- What is read is the two's complement as a number without sign. -/
theorem readSigned_hexWord {base : Base} (marked : base = .automatic ∨ base = .hexadecimal) (word : Int64) :
    readSigned base (hexWord word) = some (word.toUInt64.toNat : Int) := by
  have tight : Text.trimChars (hexWord word).toList = (hexWord word).toList :=
    Text.trimChars_of_isTight (.of_forall fun _ => not_isBlank_of_mem_hexWord)
  have sign : splitSign (Text.trimChars (hexWord word).toList)
      = (false, '0' :: 'x' :: Nat.toDigits 16 word.toUInt64.toNat) := by
    rw [tight, toList_hexWord]
    rfl
  have mark : base.split ('0' :: 'x' :: Nat.toDigits 16 word.toUInt64.toNat)
      = (16, Nat.toDigits 16 word.toUInt64.toNat) := by
    rcases marked with rfl | rfl <;> rfl
  exact readSigned_eq_some sign mark (value?_toDigits (by decide) (by decide) _)

theorem readSigned_hexWord_of_nonneg {base : Base} (marked : base = .automatic ∨ base = .hexadecimal)
    {word : Int64} (natural : 0 ≤ word) : readSigned base (hexWord word) = some word.toInt := by
  rw [readSigned_hexWord marked, toNat_toUInt64_of_nonneg natural]

theorem natural?_eq_some_iff {base : Base} {limit n : Nat} {text : String} :
    natural? base limit text = some n ↔ readSigned base text = some (n : Int) ∧ n ≤ limit := by
  unfold natural?
  cases readSigned base text with
  | none => simp
  | some m =>
    simp only [Option.some.injEq]
    split
    · next inside =>
      rw [Option.some.injEq]
      omega
    · simp only [reduceCtorEq, false_iff]
      omega

theorem natural?_decimal {base : Base} (ten : base.ReadsDecimal) {n limit : Nat} (fits : n ≤ limit) :
    natural? base limit (decimalDigits n) = some n :=
  natural?_eq_some_iff.2 ⟨readSigned_decimalDigits ten n, fits⟩

theorem le_of_natural? {base : Base} {limit n : Nat} {text : String}
    (read : natural? base limit text = some n) : n ≤ limit :=
  (natural?_eq_some_iff.1 read).2

end NetProfile.Numeral
