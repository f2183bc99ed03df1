import NetProfile.Net.Uuid
import NetProfile.Proofs.Numeral
import NetProfile.Proofs.Text.Fields

/-!
Identifiers are read back from the form in which they are written.
-/

namespace NetProfile.Uuid

theorem valueFrom_zeros (count : Nat) (digits : List Char) :
    Numeral.valueFrom 16 0 (List.replicate count '0' ++ digits) = Numeral.valueFrom 16 0 digits := by
  induction count with
  | zero => rfl
  | succ count ih =>
    rw [List.replicate_succ, List.cons_append]
    exact ih

def digits (uuid : Uuid) : List Char := (Numeral.hexPadded 32 uuid.number.toNat).toList

theorem digits_eq (uuid : Uuid) : ∃ count,
    uuid.digits = List.replicate count '0' ++ Nat.toDigits 16 uuid.number.toNat ∧
      uuid.digits.length = 32 := by
  have bound : uuid.number.toNat < 16 ^ 32 := uuid.number.isLt
  have size : (Nat.toDigits 16 uuid.number.toNat).length ≤ 32 :=
    (Nat.length_toDigits_le_iff (by decide) (by decide)).2 bound
  have shape : uuid.digits
      = List.replicate (32 - (Nat.toDigits 16 uuid.number.toNat).length) '0'
        ++ Nat.toDigits 16 uuid.number.toNat := by
    rw [digits, Numeral.hexPadded, String.toList_ofList]
  refine ⟨_, shape, ?_⟩
  rw [shape, List.length_append, List.length_replicate]
  omega

theorem length_digits (uuid : Uuid) : uuid.digits.length = 32 := (digits_eq uuid).choose_spec.2

theorem value?_digits (uuid : Uuid) : Numeral.value? 16 uuid.digits = some uuid.number.toNat := by
  obtain ⟨count, shape, size⟩ := digits_eq uuid
  have notEmpty : uuid.digits ≠ [] := by
    intro empty
    rw [empty] at size
    cases size
  rw [Numeral.value?, if_neg notEmpty, shape, valueFrom_zeros,
    Numeral.valueFrom_toDigits (by decide) (by decide)]

/-- The digits are small letters already, and no sign of another form is among them. -/
theorem digit_plain {uuid : Uuid} {c : Char} (here : c ∈ uuid.digits) :
    Char.toLower c = c ∧ Text.isBlank c = false ∧ c ≠ '-' ∧ c ≠ '{' ∧ c ≠ 'u' := by
  have all : ∀ d : Fin 16, Char.toLower (Nat.digitChar d) = Nat.digitChar d ∧
      Text.isBlank (Nat.digitChar d) = false ∧
      Nat.digitChar d ≠ '-' ∧ Nat.digitChar d ≠ '{' ∧ Nat.digitChar d ≠ 'u' := by decide
  obtain ⟨count, shape, -⟩ := digits_eq uuid
  rw [shape] at here
  rcases List.mem_append.1 here with zero | digit
  · rw [List.eq_of_mem_replicate zero]
    decide
  · obtain ⟨d, below, rfl⟩ := Numeral.mem_toDigits (by decide) digit
    exact all ⟨d, below⟩

def groups (uuid : Uuid) : List (List Char) :=
  [uuid.digits.take 8, (uuid.digits.drop 8).take 4, (uuid.digits.drop 12).take 4,
    (uuid.digits.drop 16).take 4, (uuid.digits.drop 20).take 12]

theorem length_groups (uuid : Uuid) : uuid.groups.map List.length = [8, 4, 4, 4, 12] := by
  have size := uuid.length_digits
  simp only [groups, List.map_cons, List.map_nil, List.length_take, List.length_drop, size]
  rfl

theorem flatten_groups (uuid : Uuid) : uuid.groups.flatten = uuid.digits := by
  have size := uuid.length_digits
  have short : (uuid.digits.drop 20).length ≤ 12 := by
    rw [List.length_drop]
    omega
  have last : (uuid.digits.drop 20).take 12 = uuid.digits.drop 20 := List.take_of_length_le short
  have cut : ∀ start count, (uuid.digits.drop start).take count ++ uuid.digits.drop (start + count)
      = uuid.digits.drop start := by
    intro start count
    rw [← List.drop_drop, List.take_append_drop]
  simp only [groups, List.flatten_cons, List.flatten_nil, List.append_nil]
  rw [last, cut 16 4, cut 12 4, cut 8 4, List.take_append_drop]

theorem mem_groups {uuid : Uuid} {group : List Char} (here : group ∈ uuid.groups) {c : Char}
    (inside : c ∈ group) : c ∈ uuid.digits := by
  rw [← flatten_groups]
  exact List.mem_flatten.2 ⟨group, here, inside⟩

theorem toList_toText (uuid : Uuid) : uuid.toText.toList = ['-'].intercalate uuid.groups := by
  simp only [toText, String.toList_intercalate, List.map_cons, List.map_nil, String.toList_ofList]
  rfl

theorem piecesOf_toText (uuid : Uuid) : Text.piecesOf (· == '-') uuid.toText.toList = uuid.groups := by
  rw [toList_toText]
  apply Text.piecesOf_intercalate (by simp [groups]) ?_ rfl
  intro group here c inside
  exact beq_eq_false_iff_ne.2 (digit_plain (mem_groups here inside)).2.2.1

theorem toText_plain {uuid : Uuid} {c : Char} (here : c ∈ uuid.toText.toList) :
    Char.toLower c = c ∧ Text.isBlank c = false ∧ c ≠ '{' ∧ c ≠ 'u' := by
  rcases Text.mem_piecesOf_of_mem (· == '-') here with hyphen | ⟨group, member, inside⟩
  · rw [beq_iff_eq] at hyphen
    subst hyphen
    decide
  · rw [piecesOf_toText] at member
    obtain ⟨small, inked, -, noBrace, noMark⟩ := digit_plain (mem_groups member inside)
    exact ⟨small, inked, noBrace, noMark⟩

theorem lower_toText (uuid : Uuid) : uuid.toText.toList.map Char.toLower = uuid.toText.toList := by
  have small : ∀ c ∈ uuid.toText.toList, Char.toLower c = id c := fun c here => (toText_plain here).1
  rw [List.map_congr_left small, List.map_id]

theorem length_toText (uuid : Uuid) : uuid.toText.toList.length = 36 := by
  have size := uuid.length_digits
  rw [toList_toText]
  simp [groups, List.intercalate, size]

theorem digits?_toText (uuid : Uuid) : digits? uuid.toText.toList = some uuid.digits := by
  have unbraced : unbraced? uuid.toText.toList = none := by
    unfold unbraced?
    split
    · next shape =>
      have here : '{' ∈ uuid.toText.toList := by
        rw [shape]
        exact List.mem_cons_self
      exact absurd rfl (toText_plain here).2.2.1
    · rfl
  have unmarked : Text.dropHead? "urn:uuid:".toList uuid.toText.toList = none := by
    rw [Option.eq_none_iff_forall_ne_some]
    intro rest found
    have here : 'u' ∈ uuid.toText.toList := by
      rw [Text.dropHead?_eq_some_iff.1 found]
      exact List.mem_append_left _ (by decide)
    exact absurd rfl (toText_plain here).2.2.2
  have grouped : grouped? uuid.toText.toList = some uuid.digits := by
    unfold grouped?
    simp only [piecesOf_toText, length_groups, if_true, flatten_groups]
  unfold digits?
  rw [if_neg (by rw [length_toText]; decide), unbraced, unmarked]
  exact grouped

theorem parse?_toText (uuid : Uuid) : parse? uuid.toText = some uuid := by
  unfold parse?
  rw [lower_toText, digits?_toText, Option.bind_some, value?_digits, Option.map_some,
    BitVec.ofNat_toNat, BitVec.setWidth_eq]

theorem trim_toText (uuid : Uuid) : Text.trim uuid.toText = uuid.toText := by
  apply Text.trim_of_isTight
  apply Text.IsTight.of_forall
  intro c here
  exact (toText_plain here).2.1

theorem toText_ne_empty (uuid : Uuid) : uuid.toText ≠ "" := by
  intro empty
  have size := uuid.length_toText
  rw [empty] at size
  cases size

theorem isUuid_toText (uuid : Uuid) : isUuid uuid.toText = true := by
  rw [isUuid, parse?_toText]
  rfl

end NetProfile.Uuid
