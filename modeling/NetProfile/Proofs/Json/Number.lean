import Mathlib.Data.List.TakeWhile
import NetProfile.Json
import NetProfile.Proofs.Numeral

/-!
Integers of at most 64 bits. Doubles can hold them as far as a reader of numbers is concerned, so
their decimal form is read as the integer that it is.
-/

namespace NetProfile.Json

open Numeral

theorem isAsciiDigit_of_mem_toDigits {n : Nat} {c : Char} (here : c ∈ Nat.toDigits 10 n) :
    Text.isAsciiDigit c = true := by
  rw [← isDigitOf_ten]
  exact isDigitOf_of_mem_toDigits (by decide) (by decide) here

theorem digitValue_of_isAsciiDigit {c : Char} (digit : Text.isAsciiDigit c = true) :
    digitValue c = some (c.toNat - 48) := by
  unfold digitValue
  exact if_pos digit

theorem takeDigits_of_valueFrom {n m : Nat} {cs : List Char} (digits : ∀ c ∈ cs, Text.isAsciiDigit c = true)
    (value : valueFrom 10 n cs = some m) (small : m < 18446744073709551616) : takeDigits n cs = (m, []) := by
  induction cs generalizing n with
  | nil =>
    cases value
    rfl
  | cons c cs ih =>
    simp only [valueFrom] at value
    split at value
    · rw [digitValue_of_isAsciiDigit (digits c List.mem_cons_self), Option.getD_some] at value
      have next : n * 10 + (c.toNat - 48) < 18446744073709551616 :=
        Nat.lt_of_le_of_lt (le_of_valueFrom (by decide) value) small
      rw [takeDigits, if_pos next]
      exact ih (fun d here => digits d (List.mem_cons_of_mem _ here)) value
    · cases value

theorem nearestDouble_le {n : Nat} (positive : 0 < n) : nearestDouble n ≤ 2 * n := by
  have unit : Nat.pow 2 (n.log2 + 1 - 53) ≤ n := by
    have power : 2 ^ (n.log2 + 1 - 53) ≤ 2 ^ n.log2 := Nat.pow_le_pow_right (by decide) (by omega)
    exact Nat.le_trans power (Nat.log2_self_le (Nat.ne_of_gt positive))
  have below : n / Nat.pow 2 (n.log2 + 1 - 53) * Nat.pow 2 (n.log2 + 1 - 53) ≤ n := Nat.div_mul_le_self ..
  unfold nearestDouble
  generalize Nat.pow 2 (n.log2 + 1 - 53) = size at unit below ⊢
  dsimp only
  split
  · rw [Nat.add_mul, Nat.one_mul]
    omega
  · omega

theorem fitsDouble_toDigits {n : Nat} (small : n < 18446744073709551616) :
    fitsDouble (Nat.toDigits 10 n) [] 0 = true := by
  have whole : takeDigits 0 (Nat.toDigits 10 n) = (n, []) :=
    takeDigits_of_valueFrom (fun c => isAsciiDigit_of_mem_toDigits)
      (valueFrom_toDigits (by decide) (by decide) n) small
  have finite : isFinite n 0 = true := by
    rcases Nat.eq_zero_or_pos n with rfl | positive
    · rfl
    · have one : nearestDouble (Nat.pow 10 (Int.toNat 0)) = 1 := by decide
      have bound : 36893488147419103232 < doubleBound := by decide +kernel
      have near : nearestDouble n < doubleBound := by
        have double := nearestDouble_le positive
        omega
      unfold isFinite
      rw [one, Nat.mul_one, decide_eq_true near]
      simp
  unfold fitsDouble
  rw [whole]
  exact finite

theorem takeWhile_toDigits (n : Nat) : (Nat.toDigits 10 n).takeWhile Text.isAsciiDigit = Nat.toDigits 10 n :=
  List.takeWhile_eq_self_iff.2 fun _ => isAsciiDigit_of_mem_toDigits

theorem dropWhile_toDigits (n : Nat) : (Nat.toDigits 10 n).dropWhile Text.isAsciiDigit = [] :=
  List.dropWhile_eq_nil_iff.2 fun _ => isAsciiDigit_of_mem_toDigits

theorem toDigits_wellFormed (n : Nat) :
    ¬(Nat.toDigits 10 n = [] ∨ (Nat.toDigits 10 n).head? = some '0' ∧ 1 < (Nat.toDigits 10 n).length) := by
  rintro (empty | ⟨zero, long⟩)
  · exact Nat.toDigits_ne_nil empty
  · rcases Nat.eq_zero_or_pos n with rfl | positive
    · rw [toDigits_zero 10 (by decide)] at long
      exact absurd long (by decide)
    · exact head?_toDigits (by decide) (by decide) positive zero

theorem number?_minus {n : Nat} (positive : 0 < n) (small : n < 18446744073709551616) :
    number? ('-' :: Nat.toDigits 10 n) = some (.int (-n)) := by
  have notZero : Nat.toDigits 10 n ≠ ['0'] := by
    intro zero
    have first : (Nat.toDigits 10 n).head? ≠ some '0' := head?_toDigits (by decide) (by decide) positive
    rw [zero] at first
    exact first rfl
  have value : valueFrom 10 0 (Nat.toDigits 10 n) = some n := valueFrom_toDigits (by decide) (by decide) n
  simp only [number?, takeWhile_toDigits, dropWhile_toDigits, if_neg (toDigits_wellFormed n), splitFraction,
    exponent?, fitsDouble_toDigits small, value]
  simp [notZero]

theorem number?_toDigits {n : Nat} (small : n < 18446744073709551616) :
    number? (Nat.toDigits 10 n) = some (.int n) := by
  have noMinus : ∀ rest, Nat.toDigits 10 n ≠ '-' :: rest := by
    intro rest shape
    have absent : '-' ∉ Nat.toDigits 10 n := not_mem_toDigits (by decide) (by decide) (by decide)
    rw [shape] at absent
    exact absent List.mem_cons_self
  unfold number?
  split
  next negative body start =>
    split at start
    · next shape => exact absurd shape (noMinus _)
    · cases start
      have value : valueFrom 10 0 (Nat.toDigits 10 n) = some n := valueFrom_toDigits (by decide) (by decide) n
      simp only [takeWhile_toDigits, dropWhile_toDigits, if_neg (toDigits_wellFormed n), splitFraction,
        exponent?, fitsDouble_toDigits small, value]
      simp

theorem number?_decimal {n : Int} (small : n.natAbs < 18446744073709551616) :
    number? (decimal n).toList = some (.int n) := by
  cases n with
  | ofNat n =>
    rw [decimal, decimalDigits, String.toList_ofList]
    exact number?_toDigits small
  | negSucc n =>
    have whole : (decimal (.negSucc n)).toList = '-' :: Nat.toDigits 10 (n + 1) := by
      simp [decimal, decimalDigits]
    rw [whole]
    exact number?_minus (Nat.succ_pos n) small

end NetProfile.Json
