import Mathlib.Data.List.Sort
import Mathlib.Data.Prod.Lex
import Mathlib.Data.String.Basic
import NetProfile.Inventory
import NetProfile.Proofs.Scalar.IntegerGrammar

/-!
The order of devices. Names are listed by a key of three parts, so of two of them the one with the smaller
key comes first. The second part is the number of all digits of the name. It tells names apart as the
number after their stem does where the smaller number has no more digits behind it than the greater one
and the word of 32 bits is wide enough; a name with more digits further on may be listed too late, and one
with too great a number is listed as number zero.
-/

namespace NetProfile

namespace DeviceName

def key (name : String) : String ×ₗ Nat ×ₗ String := toLex (stem name, toLex (number name, name))

theorem key_injective : Function.Injective key := by
  intro a b same
  simp only [key, EmbeddingLike.apply_eq_iff_eq, Prod.mk.injEq] at same
  exact same.2.2

theorem precedes_iff {a b : String} : precedes a b = true ↔ key a ≤ key b := by
  simp only [key, Prod.Lex.toLex_le_toLex]
  unfold precedes
  by_cases stems : stem a = stem b <;> by_cases numbers : number a = number b <;> simp [stems, numbers]

theorem key_lt_iff {a b : String} (stems : stem a = stem b) :
    key a < key b ↔ number a < number b ∨ number a = number b ∧ a < b := by
  simp only [key, Prod.Lex.toLex_lt_toLex, stems, lt_irrefl, false_or, true_and]

/-- A name of a stem without digits and all digits of a number, which `later` more digits may follow
further on. -/
inductive Numbered (name : String) (stem : List Char) (n later : Nat) : Prop
  | numbered {run rest : List Char} (text : name.toList = stem ++ (run ++ rest))
      (noDigit : ∀ c ∈ stem, Text.isAsciiDigit c = false) (number : Numeral.Parts.Denotes ⟨false, 10, run⟩ n)
      (stop : ∀ c, rest.head? = some c → Text.isAsciiDigit c = false)
      (more : rest.countP Text.isAsciiDigit = later) : Numbered name stem n later

variable {a b name : String} {stem : List Char} {m n later : Nat}

theorem denotes_iff_value? {run : List Char} :
    Numeral.Parts.Denotes ⟨false, 10, run⟩ n ↔ Numeral.value? 10 run = some n := by
  have small : (10 : Nat) ≤ 16 := by decide
  rw [Numeral.Parts.denotes_iff small, Option.map_eq_some_iff]
  constructor
  · rintro ⟨m, value, same⟩
    rw [value, Int.ofNat_inj.1 same]
  · intro value
    exact ⟨n, value, rfl⟩

theorem numbered_of_value? (run rest : List Char) (text : name.toList = stem ++ (run ++ rest))
    (noDigit : stem.any Text.isAsciiDigit = false) (value : Numeral.value? 10 run = some n)
    (stop : rest.head?.any Text.isAsciiDigit = false) (more : rest.countP Text.isAsciiDigit = later) :
    Numbered name stem n later := by
  refine .numbered text (by simpa using noDigit) (denotes_iff_value?.2 value) (fun c first => ?_) more
  rwa [first, Option.any_some] at stop

theorem isAsciiDigit_of_value? {run : List Char} (value : Numeral.value? 10 run = some n) :
    ∀ c ∈ run, Text.isAsciiDigit c = true := by
  intro c here
  rw [← Numeral.isDigitOf_ten]
  exact Numeral.isDigitOf_of_value? value c here

theorem Numbered.stem_eq (numbered : Numbered name stem n later) :
    DeviceName.stem name = String.ofList stem := by
  obtain @⟨run, rest, text, noDigit, number, -, -⟩ := numbered
  have value := denotes_iff_value?.1 number
  have digits := isAsciiDigit_of_value? value
  rw [DeviceName.stem, text, List.takeWhile_append_of_pos (by simpa using noDigit)]
  cases run with
  | nil => cases value
  | cons c run => simp [digits c List.mem_cons_self]

/-- All digits of the name make a number that starts with the one after the stem. -/
theorem Numbered.exists_total (numbered : Numbered name stem n later) :
    ∃ total, Numeral.value? 10 (name.toList.filter Text.isAsciiDigit) = some total ∧
      n * 10 ^ later ≤ total ∧ total < (n + 1) * 10 ^ later := by
  obtain @⟨run, rest, text, noDigit, number, -, more⟩ := numbered
  have value := denotes_iff_value?.1 number
  have digits : name.toList.filter Text.isAsciiDigit = run ++ rest.filter Text.isAsciiDigit := by
    rw [text, List.filter_append, List.filter_append, List.filter_eq_nil_iff.2 (by simpa using noDigit),
      List.filter_eq_self.2 (isAsciiDigit_of_value? value), List.nil_append]
  have length : (rest.filter Text.isAsciiDigit).length = later := by rw [← List.countP_eq_length_filter, more]
  obtain ⟨total, whole⟩ : ∃ total, Numeral.valueFrom 10 n (rest.filter Text.isAsciiDigit) = some total :=
    Numeral.exists_valueFrom (fun c here => by simpa [Numeral.isDigitOf_ten] using (List.mem_filter.1 here).2) n
  refine ⟨total, by rw [digits, Numeral.value?_append value, whole], ?_⟩
  rw [← length]
  exact Numeral.bounds_of_valueFrom (by decide) (by decide) whole

theorem Numbered.number_lt {more : Nat} (first : Numbered a stem m later) (second : Numbered b stem n more)
    (less : m < n) (fewer : later ≤ more) (fits : joined b < 4294967296) : number a < number b := by
  obtain ⟨low, lowValue, -, below⟩ := first.exists_total
  obtain ⟨high, highValue, above, -⟩ := second.exists_total
  have between : (m + 1) * 10 ^ later ≤ n * 10 ^ more :=
    Nat.mul_le_mul less (Nat.pow_le_pow_right (by decide) fewer)
  have lowJoined : joined a = low := by rw [joined, lowValue, Option.getD_some]
  have highJoined : joined b = high := by rw [joined, highValue, Option.getD_some]
  rw [highJoined] at fits
  rw [number, number, lowJoined, highJoined, if_pos (by omega), if_pos fits]
  omega

end DeviceName

section

variable (entries : List String)

theorem listDevices_perm : (listDevices entries).Perm entries := List.mergeSort_perm _ _

theorem pairwise_listDevices :
    (listDevices entries).Pairwise fun a b => DeviceName.key a ≤ DeviceName.key b := by
  have sorted : (listDevices entries).Pairwise fun a b => DeviceName.precedes a b = true := by
    refine List.pairwise_mergeSort (fun a b c first second => ?_) (fun a b => ?_) _
    · rw [DeviceName.precedes_iff] at first second ⊢
      exact first.trans second
    · rw [Bool.or_eq_true, DeviceName.precedes_iff, DeviceName.precedes_iff]
      exact le_total _ _
  exact sorted.imp DeviceName.precedes_iff.1

variable {entries} {a b : String}

/-- Of two different devices the one with the smaller key comes first. -/
theorem pair_sublist_listDevices_iff (first : a ∈ entries) (second : b ∈ entries) (different : a ≠ b) :
    [a, b].Sublist (listDevices entries) ↔ DeviceName.key a < DeviceName.key b := by
  have sorted := pairwise_listDevices entries
  have antisymmetric : Std.Antisymm fun a b => DeviceName.key a ≤ DeviceName.key b :=
    ⟨fun a b less greater => DeviceName.key_injective (less.antisymm greater)⟩
  constructor
  · intro before
    exact lt_of_le_of_ne (List.pairwise_iff_forall_sublist.1 sorted before) (DeviceName.key_injective.ne different)
  · intro less
    have members : [a, b] ⊆ listDevices entries := by simp [listDevices, first, second]
    exact List.sublist_of_subperm_of_pairwise (List.subperm_of_subset (by simpa using different) members)
      (List.pairwise_pair.2 less.le) sorted

end

/-- The devices are the entries, so different ones are listed once each. Of two names with the same stem and
a number after it, the one with the smaller number of all its digits comes first. So the numbers after the
stem are in their order as long as the smaller one has no more digits behind it than the greater one and all
digits of the greater one make a number of 32 bits. -/
theorem listDevices_natural (entries : List String) :
    (listDevices entries).Perm entries ∧ (entries.Nodup → (listDevices entries).Nodup) ∧
      ∀ a ∈ entries, ∀ b ∈ entries, ∀ stem m n later more, DeviceName.Numbered a stem m later →
        DeviceName.Numbered b stem n more →
        (a ≠ b → ([a, b].Sublist (listDevices entries) ↔ DeviceName.number a < DeviceName.number b ∨
          DeviceName.number a = DeviceName.number b ∧ a < b)) ∧
        (m < n → later ≤ more → DeviceName.joined b < 4294967296 → [a, b].Sublist (listDevices entries)) := by
  refine ⟨listDevices_perm entries, (listDevices_perm entries).nodup_iff.2, ?_⟩
  intro a first b second stem m n later more numbered other
  have stems : DeviceName.stem a = DeviceName.stem b := numbered.stem_eq.trans other.stem_eq.symm
  rw [← DeviceName.key_lt_iff stems]
  refine ⟨pair_sublist_listDevices_iff first second, fun less fewer fits => ?_⟩
  have keys : DeviceName.key a < DeviceName.key b :=
    (DeviceName.key_lt_iff stems).2 (.inl (numbered.number_lt other less fewer fits))
  exact (pair_sublist_listDevices_iff first second fun same => keys.ne (congrArg _ same)).2 keys

/-- Two ports, each the first of its slot. -/
theorem listDevices_natural_slots :
    DeviceName.Numbered "enp2s0" ['e', 'n', 'p'] 2 1 ∧ DeviceName.Numbered "enp10s0" ['e', 'n', 'p'] 10 1 ∧
      (listDevices ["lo", "enp10s0", "enp2s0"]).Nodup ∧
      ["enp2s0", "enp10s0"].Sublist (listDevices ["lo", "enp10s0", "enp2s0"]) := by
  have two : DeviceName.Numbered "enp2s0" ['e', 'n', 'p'] 2 1 :=
    DeviceName.numbered_of_value? ['2'] ['s', '0'] (by decide) (by decide) (by decide)
      (by decide) (by decide)
  have ten : DeviceName.Numbered "enp10s0" ['e', 'n', 'p'] 10 1 :=
    DeviceName.numbered_of_value? ['1', '0'] ['s', '0'] (by decide) (by decide) (by decide)
      (by decide) (by decide)
  obtain ⟨-, distinct, ordered⟩ := listDevices_natural ["lo", "enp10s0", "enp2s0"]
  exact ⟨two, ten, distinct (by decide),
    (ordered _ (by simp) _ (by simp) _ _ _ _ _ two ten).2 (by decide) (by decide) (by decide)⟩

/-- The digits of a sub-interface are counted to those of its device, and a number of more than 32 bits
counts as zero. -/
theorem natural_order_missed :
    let entries := ["eth1.20", "eth3", "eth4294967296"]
    DeviceName.Numbered "eth1.20" ['e', 't', 'h'] 1 2 ∧ DeviceName.Numbered "eth3" ['e', 't', 'h'] 3 0 ∧
      DeviceName.Numbered "eth4294967296" ['e', 't', 'h'] 4294967296 0 ∧
      ¬["eth1.20", "eth3"].Sublist (listDevices entries) ∧
      ¬["eth3", "eth4294967296"].Sublist (listDevices entries) := by
  refine ⟨?_, ?_, ?_, ?_, ?_⟩
  · exact DeviceName.numbered_of_value? ['1'] ['.', '2', '0'] (by decide) (by decide) (by decide)
      (by decide) (by decide)
  · exact DeviceName.numbered_of_value? ['3'] [] (by decide) (by decide) (by decide)
      (by decide) (by decide)
  · exact DeviceName.numbered_of_value? "4294967296".toList [] (by decide) (by decide) (by decide)
      (by decide) (by decide)
  · rw [pair_sublist_listDevices_iff (by simp) (by simp) (by decide), DeviceName.key_lt_iff (by decide)]
    decide
  · rw [pair_sublist_listDevices_iff (by simp) (by simp) (by decide), DeviceName.key_lt_iff (by decide)]
    decide

end NetProfile
