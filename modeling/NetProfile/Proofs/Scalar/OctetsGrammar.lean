import NetProfile.Proofs.Scalar.IntegerGrammar
import NetProfile.Proofs.Scalar.Octets

/-!
The grammar of strings of octets. Three forms overlap: digits in pairs, groups between colons and, where
it is allowed, groups between blanks. A text that has two of them is a single group, so it does not matter
which form is tried first. A group is one or two digits. A plus sign in front of a single digit is taken,
too, which no form asks for.
-/

namespace NetProfile

namespace Octets

def nibbles (octet : UInt8) : List Nat := [octet.toNat / 16, octet.toNat % 16]

inductive IsGroup : List Char → UInt8 → Prop
  | one {c : Char} {octet : UInt8} (digit : Numeral.IsDigit 16 c octet.toNat) : IsGroup [c] octet
  | two {cs : List Char} {octet : UInt8} (digits : List.Forall₂ (Numeral.IsDigit 16) cs (nibbles octet)) :
      IsGroup cs octet

inductive IsSignedGroup : List Char → UInt8 → Prop
  | plain {cs : List Char} {octet : UInt8} (group : IsGroup cs octet) : IsSignedGroup cs octet
  | signed {c : Char} {octet : UInt8} (digit : Numeral.IsDigit 16 c octet.toNat) : IsSignedGroup ['+', c] octet

inductive Marked (form : List Char → Prop) (cs : List Char) : Prop
  | bare (formed : form cs) : Marked form cs
  | marked {digits : List Char} (mark : Numeral.HexMarked digits cs) (formed : form digits) : Marked form cs

inductive SpellsCompact (group : List Char → UInt8 → Prop) (octets : List UInt8) : List Char → Prop
  | digits {cs : List Char} (notEmpty : octets ≠ [])
      (digits : List.Forall₂ (Numeral.IsDigit 16) cs (octets.flatMap nibbles)) : SpellsCompact group octets cs
  | groups {groups : List (List Char)} (two : 2 ≤ groups.length) (each : List.Forall₂ group groups octets) :
      SpellsCompact group octets ([':'].intercalate groups)

/-- Strings of octets. Groups with blanks between them, each with a mark of its own, are one only where
this is allowed. -/
inductive Spells (group : List Char → UInt8 → Prop) (allowSpaced : Bool) (octets : List UInt8)
    (cs : List Char) : Prop
  | compact (spelled : Marked (SpellsCompact group octets) cs) : Spells group allowSpaced octets cs
  | spaced {tokens : List (List Char)} (allowed : allowSpaced = true) (notEmpty : octets ≠ [])
      (spread : Text.Spread Text.isBlank cs tokens)
      (each : List.Forall₂ (fun token octet => Marked (group · octet) token) tokens octets) :
      Spells group allowSpaced octets cs

theorem value?_single {c : Char} {n : Nat} : Numeral.value? 16 [c] = some n ↔ Numeral.IsDigit 16 c n := by
  rw [Numeral.value?_eq_some_iff (Nat.le_refl 16)]
  constructor
  · rintro ⟨values, -, digits, rfl⟩
    obtain ⟨d, rest, digit, ended, rfl⟩ := List.forall₂_cons_left_iff.1 digits
    cases ended
    simpa using digit
  · intro digit
    exact ⟨[n], List.cons_ne_nil _ _, .cons digit .nil, by simp⟩

theorem value?_pair {a b : Char} {n : Nat} :
    Numeral.value? 16 [a, b] = some n ↔ List.Forall₂ (Numeral.IsDigit 16) [a, b] [n / 16, n % 16] := by
  have number : ∀ high low, Nat.ofDigits 16 [high, low].reverse = high * 16 + low := fun high low => by
    simp only [List.reverse_cons, List.reverse_nil, List.nil_append, List.cons_append, Nat.ofDigits_cons,
      Nat.ofDigits_nil]
    omega
  rw [Numeral.value?_eq_some_iff (Nat.le_refl 16)]
  constructor
  · rintro ⟨values, -, digits, rfl⟩
    obtain ⟨high, rest, first, later, rfl⟩ := List.forall₂_cons_left_iff.1 digits
    obtain ⟨low, rest, second, ended, rfl⟩ := List.forall₂_cons_left_iff.1 later
    cases ended
    have below := second.1
    have quotient : (high * 16 + low) / 16 = high := by omega
    have remainder : (high * 16 + low) % 16 = low := by omega
    rwa [number, quotient, remainder]
  · intro digits
    refine ⟨_, List.cons_ne_nil _ _, digits, ?_⟩
    rw [number]
    omega

theorem map_ofNat_eq_some_iff {reading : Option Nat} (small : ∀ n, reading = some n → n < 256) {octet : UInt8} :
    reading.map UInt8.ofNat = some octet ↔ reading = some octet.toNat := by
  constructor
  · intro read
    obtain ⟨n, found, rfl⟩ := Option.map_eq_some_iff.1 read
    rw [found, UInt8.toNat_ofNat_of_lt' (small n found)]
  · intro found
    rw [found, Option.map_some, UInt8.ofNat_toNat]

theorem octet_single_iff {c : Char} {octet : UInt8} :
    (Numeral.value? 16 [c]).map UInt8.ofNat = some octet ↔ Numeral.IsDigit 16 c octet.toNat :=
  (map_ofNat_eq_some_iff fun _ read => Nat.lt_trans (value?_single.1 read).1 (by decide)).trans value?_single

theorem octet_pair_iff {a b : Char} {octet : UInt8} :
    (Numeral.value? 16 [a, b]).map UInt8.ofNat = some octet ↔
      List.Forall₂ (Numeral.IsDigit 16) [a, b] (nibbles octet) := by
  refine (map_ofNat_eq_some_iff fun n read => ?_).trans value?_pair
  obtain ⟨high, -⟩ := List.forall₂_cons.1 (value?_pair.1 read)
  have below := high.1
  omega

theorem isGroup_iff {cs : List Char} {octet : UInt8} :
    IsGroup cs octet ↔ cs.length ≤ 2 ∧ (Numeral.value? 16 cs).map UInt8.ofNat = some octet := by
  constructor
  · rintro (digit | digits)
    · exact ⟨by simp, octet_single_iff.2 digit⟩
    · obtain ⟨a, rest, -, later, rfl⟩ := List.forall₂_cons_right_iff.1 digits
      obtain ⟨b, rest, -, ended, rfl⟩ := List.forall₂_cons_right_iff.1 later
      cases ended
      exact ⟨by simp, octet_pair_iff.2 digits⟩
  · rintro ⟨size, read⟩
    match cs, size, read with
    | [], _, read => cases read
    | [c], _, read => exact .one (octet_single_iff.1 read)
    | [a, b], _, read => exact .two (octet_pair_iff.1 read)

theorem group?_eq_some_iff {cs : List Char} {octet : UInt8} :
    group? cs = some octet ↔ IsSignedGroup cs octet := by
  constructor
  · intro read
    unfold group? Numeral.unsigned? at read
    split at read
    · next size =>
      split at read
      · next digits =>
        rw [List.length_cons] at size
        cases isGroup_iff.2 ⟨by omega, read⟩ with
        | one digit => exact .signed digit
        | two both =>
          have two := both.length_eq
          simp only [nibbles, List.length_cons, List.length_nil] at two
          omega
      · exact .plain (isGroup_iff.2 ⟨size, read⟩)
    · cases read
  · rintro (group | digit)
    · obtain ⟨size, read⟩ := isGroup_iff.1 group
      have unsigned : Numeral.unsigned? 16 cs = Numeral.value? 16 cs := by
        unfold Numeral.unsigned?
        split
        · next digits =>
          obtain ⟨n, value, -⟩ := Option.map_eq_some_iff.1 read
          exact absurd (Numeral.isDigitOf_of_value? value '+' List.mem_cons_self) (by decide)
        · rfl
      rw [group?, if_pos size, unsigned, read]
    · exact (isGroup_iff.1 (.one digit)).2

theorem pairs?_eq_nil_iff {cs : List Char} : pairs? cs = some [] ↔ cs = [] := by
  constructor
  · intro read
    unfold pairs? at read
    split at read
    · rfl
    · cases read
    · split at read <;> cases read
  · rintro rfl
    rfl

theorem pairs?_eq_cons_iff {cs : List Char} {octet : UInt8} {octets : List UInt8} :
    pairs? cs = some (octet :: octets) ↔ ∃ a b rest, cs = a :: b :: rest ∧
      (Numeral.value? 16 [a, b]).map UInt8.ofNat = some octet ∧ pairs? rest = some octets := by
  constructor
  · intro read
    unfold pairs? at read
    split at read
    · cases read
    · cases read
    · next a b rest =>
      split at read
      · next n others value more =>
        cases read
        exact ⟨a, b, rest, rfl, by rw [value, Option.map_some], more⟩
      · cases read
  · rintro ⟨a, b, rest, rfl, value, more⟩
    obtain ⟨n, found, rfl⟩ := Option.map_eq_some_iff.1 value
    simp only [pairs?, found, more]

theorem pairs?_eq_some_iff {cs : List Char} {octets : List UInt8} :
    pairs? cs = some octets ↔ List.Forall₂ (Numeral.IsDigit 16) cs (octets.flatMap nibbles) := by
  induction octets generalizing cs with
  | nil => rw [pairs?_eq_nil_iff, List.flatMap_nil, List.forall₂_nil_right_iff]
  | cons octet octets ih =>
    rw [List.flatMap_cons]
    constructor
    · intro read
      obtain ⟨a, b, rest, rfl, first, later⟩ := pairs?_eq_cons_iff.1 read
      exact List.rel_append (octet_pair_iff.1 first) (ih.1 later)
    · intro digits
      obtain ⟨a, more, high, others, rfl⟩ := List.forall₂_cons_right_iff.1 digits
      obtain ⟨b, rest, low, later, rfl⟩ := List.forall₂_cons_right_iff.1 others
      exact pairs?_eq_cons_iff.2 ⟨a, b, rest, rfl, octet_pair_iff.2 (.cons high (.cons low .nil)), ih.2 later⟩

theorem isDigitOf_of_digits {cs : List Char} {values : List Nat}
    (digits : List.Forall₂ (Numeral.IsDigit 16) cs values) : ∀ c ∈ cs, Numeral.isDigitOf 16 c = true :=
  Numeral.isDigitOf_of_forall₂ (Nat.le_refl 16) digits

theorem exists_octets_iff {cs : List Char} :
    (∃ octets : List UInt8, List.Forall₂ (Numeral.IsDigit 16) cs (octets.flatMap nibbles)) ↔
      cs.length % 2 = 0 ∧ ∀ c ∈ cs, Numeral.isDigitOf 16 c = true := by
  constructor
  · rintro ⟨octets, digits⟩
    have size : (octets.flatMap nibbles).length = octets.length * 2 := by simp [nibbles]
    refine ⟨?_, isDigitOf_of_digits digits⟩
    rw [digits.length_eq, size]
    omega
  · simp only [← pairs?_eq_some_iff]
    rintro ⟨even, digits⟩
    fun_induction pairs? cs with
    | case1 => exact ⟨[], rfl⟩
    | case2 => cases even
    | case3 => exact ⟨_, rfl⟩
    | case4 a b rest failed ih =>
      simp only [List.length_cons] at even
      obtain ⟨first, second, later⟩ := (List.forall_mem_cons.1 digits).imp_right List.forall_mem_cons.1
      obtain ⟨octets, read⟩ := ih (by omega) later
      cases value : Numeral.value? 16 [a, b] with
      | none =>
        have other := Numeral.value?_eq_none_iff.1 value
        simp [first, second] at other
      | some n => exact absurd read (failed n octets value)

theorem IsGroup.isDigitOf {cs : List Char} {octet : UInt8} (group : IsGroup cs octet) :
    ∀ c ∈ cs, Numeral.isDigitOf 16 c = true := by
  cases group with
  | one digit => exact isDigitOf_of_digits (.cons digit .nil)
  | two digits => exact isDigitOf_of_digits digits

theorem IsSignedGroup.mem {cs : List Char} {octet : UInt8} (group : IsSignedGroup cs octet) :
    ∀ c ∈ cs, c = '+' ∨ Numeral.isDigitOf 16 c = true := by
  cases group with
  | plain group => exact fun c here => .inr (group.isDigitOf c here)
  | signed digit =>
    have plain := isDigitOf_of_digits (.cons digit .nil)
    exact List.forall_mem_cons.2 ⟨.inl rfl, fun c here => .inr (plain c here)⟩

/-- Where a form has no mark of its own, the mark in front is taken off. -/
theorem marked_iff {form : List Char → Prop} (unmarked : ∀ cs, form cs → 'x' ∉ cs ∧ 'X' ∉ cs)
    {cs : List Char} : Marked form cs ↔ form (stripMark cs) := by
  constructor
  · rintro (formed | ⟨mark, formed⟩)
    · have bare : Numeral.stripHexMark? cs = none := by
        refine Numeral.stripHexMark?_eq_none_iff.2 ?_
        rintro rest (_ | _)
        · exact (unmarked _ formed).1 (by simp)
        · exact (unmarked _ formed).2 (by simp)
      rwa [stripMark, bare, Option.getD_none]
    · rwa [stripMark, Numeral.hexMarked_iff.1 mark, Option.getD_some]
  · intro formed
    unfold stripMark at formed
    cases mark : Numeral.stripHexMark? cs with
    | none =>
      rw [mark, Option.getD_none] at formed
      exact .bare formed
    | some digits =>
      rw [mark, Option.getD_some] at formed
      exact .marked (Numeral.hexMarked_iff.2 mark) formed

theorem Marked.forall_mem {form : List Char → Prop} {keeps : Char → Prop} {cs : List Char}
    (spelled : Marked form cs) (inside : ∀ cs, form cs → ∀ c ∈ cs, keeps c) (zero : keeps '0')
    (small : keeps 'x') (capital : keeps 'X') : ∀ c ∈ cs, keeps c := by
  cases spelled with
  | bare formed => exact inside cs formed
  | marked mark formed =>
    have digits := inside _ formed
    cases mark with
    | small => exact List.forall_mem_cons.2 ⟨zero, List.forall_mem_cons.2 ⟨small, digits⟩⟩
    | capital => exact List.forall_mem_cons.2 ⟨zero, List.forall_mem_cons.2 ⟨capital, digits⟩⟩

theorem marked_group_iff {cs : List Char} {octet : UInt8} :
    Marked (IsSignedGroup · octet) cs ↔ group? (stripMark cs) = some octet := by
  rw [marked_iff, group?_eq_some_iff]
  intro cs group
  constructor <;>
    · intro mark
      rcases group.mem _ mark with plus | digit
      · exact absurd plus (by decide)
      · exact absurd digit (by decide)

theorem mem_groups {groups : List (List Char)} {octets : List UInt8}
    (each : List.Forall₂ IsSignedGroup groups octets) :
    ∀ group ∈ groups, ∀ c ∈ group, c = '+' ∨ Numeral.isDigitOf 16 c = true :=
  ((List.forall₂_and_left _ _).1 (each.imp fun _ _ group => ⟨group.mem, group⟩)).1

theorem SpellsCompact.mem {cs : List Char} {octets : List UInt8}
    (compact : SpellsCompact IsSignedGroup octets cs) :
    ∀ c ∈ cs, c = ':' ∨ c = '+' ∨ Numeral.isDigitOf 16 c = true := by
  intro c here
  cases compact with
  | digits _ digits => exact .inr (.inr (isDigitOf_of_digits digits c here))
  | groups _ each =>
    rcases Text.mem_glued here with colon | ⟨piece, member, inside⟩
    · exact .inl colon
    · exact .inr (mem_groups each piece member c inside)

theorem pairs?_of_digits {body : List Char} {octets : List UInt8} (notEmpty : octets ≠ [])
    (digits : List.Forall₂ (Numeral.IsDigit 16) body (octets.flatMap nibbles)) :
    body ≠ [] ∧ ':' ∉ body ∧ pairs? body = some octets := by
  have read := pairs?_eq_some_iff.2 digits
  refine ⟨?_, fun colon => absurd (isDigitOf_of_digits digits ':' colon) (by decide), read⟩
  rintro rfl
  exact notEmpty (Option.some.inj read).symm

theorem piecesOf_groups {groups : List (List Char)} {octets : List UInt8} (two : 2 ≤ groups.length)
    (each : List.Forall₂ IsSignedGroup groups octets) :
    Text.piecesOf (· == ':') ([':'].intercalate groups) = groups := by
  refine Text.piecesOf_intercalate (List.ne_nil_of_length_pos (by omega)) ?_ rfl
  intro group member c inside
  rw [beq_eq_false_iff_ne]
  rintro rfl
  exact absurd (mem_groups each group member ':' inside) (by decide)

/-- A single piece would have the colon in it. -/
theorem two_le_length_piecesOf {body : List Char} (colon : ':' ∈ body) :
    2 ≤ (Text.piecesOf (· == ':') body).length := by
  obtain ⟨first, others, shape⟩ := List.exists_cons_of_ne_nil (Text.piecesOf_ne_nil (· == ':') body)
  rw [shape]
  cases others with
  | nil =>
    have whole : [':'].intercalate [first] = body := shape ▸ Text.intercalate_piecesOf ':' body
    rw [List.intercalate_singleton] at whole
    have known := Text.mem_of_mem_piecesOf (shape ▸ List.mem_cons_self) (whole ▸ colon)
    simp at known
  | cons next rest => simp

theorem spellsCompact_iff {body : List Char} {octets : List UInt8} :
    SpellsCompact IsSignedGroup octets body ↔ body ≠ [] ∧
      (if ':' ∈ body then (Text.piecesOf (· == ':') body).mapM group? else pairs? body) = some octets := by
  constructor
  · rintro (⟨notEmpty, digits⟩ | ⟨two, each⟩)
    · obtain ⟨written, noColon, read⟩ := pairs?_of_digits notEmpty digits
      exact ⟨written, by rw [if_neg noColon, read]⟩
    · have colon : ':' ∈ [':'].intercalate _ := Text.separator_mem_glued two
      refine ⟨List.ne_nil_of_mem colon, ?_⟩
      rw [if_pos colon, piecesOf_groups two each, Reading.mapM_eq_some_iff]
      exact each.imp fun _ _ => group?_eq_some_iff.2
  · rintro ⟨notEmpty, read⟩
    split at read
    · next colon =>
      have each := (Reading.mapM_eq_some_iff.1 read).imp fun _ _ => group?_eq_some_iff.1
      rw [← Text.intercalate_piecesOf ':' body]
      exact .groups (two_le_length_piecesOf colon) each
    · refine .digits ?_ (pairs?_eq_some_iff.1 read)
      rintro rfl
      exact notEmpty (pairs?_eq_nil_iff.1 read)

theorem compact?_eq_some_iff {cs : List Char} {octets : List UInt8} :
    compact? cs = some octets ↔ SpellsCompact IsSignedGroup octets (stripMark cs) := by
  rw [spellsCompact_iff]
  unfold compact?
  simp only
  split
  · next empty => simp [empty]
  · next notEmpty => split <;> simp only [notEmpty, ne_eq, not_false_eq_true, true_and]

theorem marked_compact_iff {cs : List Char} {octets : List UInt8} :
    Marked (SpellsCompact IsSignedGroup octets) cs ↔ compact? cs = some octets := by
  rw [compact?_eq_some_iff, marked_iff]
  intro cs compact
  constructor <;>
    · intro mark
      exact absurd (compact.mem _ mark) (by decide)

theorem spacedGroup_eq_ok_iff {token : List Char} {octet : UInt8} :
    spacedGroup token = .ok octet ↔ Marked (IsSignedGroup · octet) token := by
  rw [marked_group_iff, spacedGroup]
  cases group? (stripMark token) <;> simp

theorem spaced_eq_ok_iff {cs : List Char} {octets : List UInt8} :
    spaced cs = .ok octets ↔ ∃ tokens, Text.Spread Text.isBlank cs tokens ∧
      List.Forall₂ (fun token octet => Marked (IsSignedGroup · octet) token) tokens octets := by
  simp only [spaced, Reading.mapM_eq_ok_iff, spacedGroup_eq_ok_iff, Text.spread_iff, exists_eq_left']

/-- A group of its own is read in the same way as part of a compact string. -/
theorem eq_singleton_of_isSignedGroup {cs : List Char} {octet : UInt8} {octets : List UInt8}
    (compact : SpellsCompact IsSignedGroup octets cs) (group : IsSignedGroup cs octet) : octets = [octet] := by
  cases compact with
  | digits _ digits =>
    have read := pairs?_eq_some_iff.2 digits
    cases group with
    | plain group =>
      cases group with
      | one digit => cases read
      | two both =>
        have same : pairs? cs = some [octet] := pairs?_eq_some_iff.2 (by simpa using both)
        exact Option.some.inj (read.symm.trans same)
    | signed digit => exact absurd (isDigitOf_of_digits digits '+' List.mem_cons_self) (by decide)
  | groups two each =>
    have colon := group.mem ':' (Text.separator_mem_glued two)
    exact absurd colon (by decide)

/-- A text that can be read in both ways is a single group, which stands for the same octet in each. -/
theorem spaced_eq_of_compact? {cs : List Char} {octets others : List UInt8} (found : compact? cs = some octets)
    (read : spaced cs = .ok others) (notEmpty : others ≠ []) : others = octets := by
  have notBlank : ∀ c ∈ cs, Text.isBlank c = false := by
    refine (marked_compact_iff.2 found).forall_mem ?_ rfl rfl rfl
    intro body compact c here
    rcases compact.mem c here with rfl | rfl | digit
    · rfl
    · rfl
    · exact Numeral.not_isBlank_of_isDigitOf digit
  obtain ⟨tokens, spread, each⟩ := spaced_eq_ok_iff.1 read
  have notEmpty : cs ≠ [] := by
    rintro rfl
    cases found
  have whole : Text.Spread Text.isBlank cs [cs] := by
    have alone := Text.Spread.word notEmpty notBlank (by simp) .nil
    rwa [List.append_nil] at alone
  obtain rfl : tokens = [cs] := (Text.spread_iff.1 spread).symm.trans (Text.spread_iff.1 whole)
  obtain ⟨octet, rest, group, ended, rfl⟩ := List.forall₂_cons_left_iff.1 each
  cases ended
  rw [marked_group_iff, group?_eq_some_iff] at group
  exact (eq_singleton_of_isSignedGroup (compact?_eq_some_iff.1 found) group).symm

theorem spells_iff {allowSpaced : Bool} {cs : List Char} {octets : List UInt8} :
    Spells IsSignedGroup allowSpaced octets cs ↔
      compact? cs = some octets ∨ allowSpaced = true ∧ octets ≠ [] ∧ spaced cs = .ok octets := by
  rw [← marked_compact_iff, spaced_eq_ok_iff]
  constructor
  · rintro (compact | ⟨allowed, notEmpty, spread, each⟩)
    · exact .inl compact
    · exact .inr ⟨allowed, notEmpty, _, spread, each⟩
  · rintro (compact | ⟨allowed, notEmpty, tokens, spread, each⟩)
    · exact .compact compact
    · exact .spaced allowed notEmpty spread each

theorem parse_eq_none_iff {allowSpaced : Bool} {text : String} :
    parse allowSpaced text = .ok none ↔ Text.trim text = "" := by
  unfold parse
  simp only
  split
  · next blank => simp [blank]
  · next written =>
    simp only [written, iff_false]
    split
    · simp
    · split
      · intro read
        obtain ⟨octets, -, same⟩ := Reading.map_eq_ok read
        cases same
      · simp

theorem parse_eq_some_iff {allowSpaced : Bool} {text : String} {octets : List UInt8} :
    parse allowSpaced text = .ok (some octets) ↔
      Spells IsSignedGroup allowSpaced octets (Text.trim text).toList := by
  rw [spells_iff]
  constructor
  · intro read
    have notEmpty := ne_nil_of_parse read
    unfold parse at read
    simp only at read
    split at read
    · cases read
    · split at read
      · next found =>
        cases read
        exact .inl found
      · split at read
        · next allowed =>
          obtain ⟨inner, spacedRead, same⟩ := Reading.map_eq_ok read
          cases same
          exact .inr ⟨allowed, notEmpty, spacedRead⟩
        · cases read
  · intro spelled
    have written : Text.trim text ≠ "" := by
      intro blank
      rw [blank] at spelled
      rcases spelled with found | ⟨-, notEmpty, read⟩
      · cases found
      · cases read
        exact notEmpty rfl
    unfold parse
    simp only [if_neg written]
    rcases spelled with found | ⟨allowed, notEmpty, read⟩
    · simp only [found]
    · cases found : compact? (Text.trim text).toList with
      | none => simp only [if_pos allowed, read, Except.map]
      | some others => rw [spaced_eq_of_compact? found read notEmpty]

theorem isGroup_iff_unsigned {cs : List Char} {octet : UInt8} :
    IsGroup cs octet ↔ '+' ∉ cs ∧ IsSignedGroup cs octet := by
  constructor
  · intro group
    exact ⟨fun plus => absurd (group.isDigitOf '+' plus) (by decide), .plain group⟩
  · rintro ⟨unsigned, group | digit⟩
    · exact group
    · exact absurd List.mem_cons_self unsigned

theorem spellsCompact_iff_unsigned {cs : List Char} {octets : List UInt8} :
    SpellsCompact IsGroup octets cs ↔ '+' ∉ cs ∧ SpellsCompact IsSignedGroup octets cs := by
  constructor
  · rintro (⟨notEmpty, digits⟩ | ⟨two, each⟩)
    · exact ⟨fun plus => absurd (isDigitOf_of_digits digits '+' plus) (by decide), .digits notEmpty digits⟩
    · obtain ⟨unsigned, signed⟩ := (List.forall₂_and_left _ _).1 (each.imp fun _ _ => isGroup_iff_unsigned.1)
      refine ⟨fun plus => ?_, .groups two signed⟩
      rcases Text.mem_glued plus with colon | ⟨group, member, inside⟩
      · exact absurd colon (by decide)
      · exact unsigned group member inside
  · rintro ⟨unsigned, ⟨notEmpty, digits⟩ | ⟨two, each⟩⟩
    · exact .digits notEmpty digits
    · have clean := fun group (member : group ∈ _) (plus : '+' ∈ group) =>
        unsigned (Text.mem_glued_of_mem member plus)
      have plain := (List.forall₂_and_left _ _).2 ⟨clean, each⟩
      exact .groups two (plain.imp fun _ _ => isGroup_iff_unsigned.2)

theorem marked_iff_unsigned {form signed : List Char → Prop}
    (forms : ∀ cs, form cs ↔ '+' ∉ cs ∧ signed cs) {cs : List Char} : Marked form cs ↔ '+' ∉ cs ∧ Marked signed cs := by
  have digits : ∀ {digits}, Numeral.HexMarked digits cs → ('+' ∈ cs ↔ '+' ∈ digits) := by
    rintro digits (_ | _) <;> simp
  constructor
  · rintro (formed | ⟨mark, formed⟩)
    · exact ⟨((forms cs).1 formed).1, .bare ((forms cs).1 formed).2⟩
    · rw [digits mark]
      exact ⟨((forms _).1 formed).1, .marked mark ((forms _).1 formed).2⟩
  · rintro ⟨unsigned, formed | ⟨mark, formed⟩⟩
    · exact .bare ((forms cs).2 ⟨unsigned, formed⟩)
    · rw [digits mark] at unsigned
      exact .marked mark ((forms _).2 ⟨unsigned, formed⟩)

theorem spells_iff_unsigned {allowSpaced : Bool} {cs : List Char} {octets : List UInt8} :
    Spells IsGroup allowSpaced octets cs ↔ '+' ∉ cs ∧ Spells IsSignedGroup allowSpaced octets cs := by
  have token : ∀ octet cs, Marked (IsGroup · octet) cs ↔ '+' ∉ cs ∧ Marked (IsSignedGroup · octet) cs :=
    fun octet cs => marked_iff_unsigned fun _ => isGroup_iff_unsigned
  constructor
  · rintro (compact | ⟨allowed, notEmpty, spread, each⟩)
    · obtain ⟨unsigned, signed⟩ := (marked_iff_unsigned fun _ => spellsCompact_iff_unsigned).1 compact
      exact ⟨unsigned, .compact signed⟩
    · obtain ⟨unsigned, signed⟩ := (List.forall₂_and_left _ _).1 (each.imp fun cs octet => (token octet cs).1)
      refine ⟨?_, .spaced allowed notEmpty spread signed⟩
      rw [spread.mem_iff (by decide)]
      rintro ⟨word, member, inside⟩
      exact unsigned word member inside
  · rintro ⟨unsigned, compact | ⟨allowed, notEmpty, spread, each⟩⟩
    · exact .compact ((marked_iff_unsigned fun _ => spellsCompact_iff_unsigned).2 ⟨unsigned, compact⟩)
    · have clean := fun word member plus => unsigned ((spread.mem_iff (by decide)).2 ⟨word, member, plus⟩)
      have plain := (List.forall₂_and_left _ _).2 ⟨clean, each⟩
      exact .spaced allowed notEmpty spread (plain.imp fun cs octet => (token octet cs).2)

/-- A string of octets is read exactly if it is digits in pairs or groups between colons, with the mark of
hexadecimal digits or without, or where this is allowed groups between blanks; a blank text stands for no
string. Only one thing is read beside plain groups of one or two digits, a plus sign in front of a single
digit, so the documented grammar is what is read of the texts without a plus sign. -/
theorem parse_iff_spells (allowSpaced : Bool) (text : String) :
    (parse allowSpaced text = .ok none ↔ Text.trim text = "") ∧
      ∀ octets,
        (parse allowSpaced text = .ok (some octets) ↔
          Spells IsSignedGroup allowSpaced octets (Text.trim text).toList) ∧
        (Spells IsGroup allowSpaced octets (Text.trim text).toList ↔
          parse allowSpaced text = .ok (some octets) ∧ '+' ∉ text.toList) := by
  refine ⟨parse_eq_none_iff, fun octets => ⟨parse_eq_some_iff, ?_⟩⟩
  have trimmed : '+' ∈ (Text.trim text).toList ↔ '+' ∈ text.toList := by
    rw [Text.toList_trim]
    exact ⟨Text.mem_of_mem_trimChars, fun plus => Text.mem_trimChars_of_mem plus (by decide)⟩
  rw [spells_iff_unsigned, parse_eq_some_iff, trimmed, and_comm]

/-- A plus sign is taken for part of a group, between colons and between blanks. -/
theorem plus_sign_accepted :
    (parse false "+1:02" = .ok (some [1, 2]) ∧ ∀ octets, ¬Spells IsGroup false octets "+1:02".toList) ∧
      parse true "0x+a ff" = .ok (some [10, 255]) ∧
        ∀ octets, ¬Spells IsGroup true octets "0x+a ff".toList := by
  refine ⟨⟨by decide, fun octets spelled => ?_⟩, by decide, fun octets spelled => ?_⟩
  · exact (spells_iff_unsigned.1 spelled).1 (by decide)
  · exact (spells_iff_unsigned.1 spelled).1 (by decide)

end Octets

end NetProfile
