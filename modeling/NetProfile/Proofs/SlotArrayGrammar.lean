import NetProfile.Proofs.Reading.Blame
import NetProfile.Proofs.Scalar.IntegerGrammar

/-!
The grammar of arrays of slots: eight decimal numbers between commas, each within the bounds of the rule.
Percentages have to add up to a hundred. They are added in a word of 32 bits, so where the bounds are wide
enough for a greater sum, the run breaks off at it and nothing is said of the text.
-/

namespace NetProfile.SlotRule

structure Takes (rule : SlotRule) (field : String) (slot : UInt32) : Prop where
  number : ∃ parts, Numeral.Written (.fixed 10) field parts ∧ parts.Denotes slot.toNat
  allowed : slot ≤ rule.largest ∨ rule.other = some slot

inductive Spells (rule : SlotRule) : String → Slots → Prop
  | fields {fields : List String} {slots : Slots} (clean : ∀ field ∈ fields, ',' ∉ field.toList)
      (each : List.Forall₂ rule.Takes fields slots.toList) :
      Spells rule (String.intercalate "," fields) slots

variable {rule : SlotRule} {field text : String} {slot : UInt32} {slots : Slots}

theorem takes_iff : rule.Takes field slot ↔ rule.readSlot field = .ok slot := by
  rw [readSlot_eq_ok_iff, Numeral.readSigned_eq_some_iff (.inl (.inr rfl))]
  exact ⟨fun takes => ⟨takes.number, takes.allowed⟩, fun ⟨number, allowed⟩ => ⟨number, allowed⟩⟩

theorem spells_iff :
    rule.Spells text slots ↔ (Text.pieces (· == ',') text).mapM rule.readSlot = .ok slots.toList := by
  have single : ",".toList = [','] := rfl
  obtain ⟨fields, cut⟩ : ∃ fields, Text.pieces (· == ',') text = fields := ⟨_, rfl⟩
  simp only [Reading.mapM_eq_ok_iff, ← takes_iff, cut]
  constructor
  · rintro ⟨clean, each⟩
    have notEmpty : _ ≠ [] := List.ne_nil_of_length_pos (by rw [each.length_eq, slots.length_toList]; decide)
    rwa [← cut, (Text.pieces_eq_iff ',' single).2 ⟨notEmpty, rfl, clean⟩]
  · intro each
    obtain ⟨-, rfl, clean⟩ := (Text.pieces_eq_iff ',' single).1 cut
    exact .fields clean each

theorem parse_eq_overflow_iff : rule.parse text = .error .overflow ↔
    rule.percent = true ∧ ∃ slots, rule.readSlots text = .ok slots ∧ 4294967296 ≤ sum slots.toList := by
  unfold parse
  cases read : rule.readSlots text with
  | error error =>
    -- what a slot or their count is refused for lies in the text
    have ofText := (rule.blamesText_readSlots text).ofText _ read
    have other : error ≠ .overflow := by
      rintro rfl
      cases ofText
    simpa [bind, Except.bind] using other
  | ok slots =>
    simp only [Except.ok.injEq, exists_eq_left', ← checkTotal_eq_overflow_iff text, bind, Except.bind]
    cases rule.checkTotal text slots <;> simp [pure, Except.pure]

/-- An array is read of eight allowed numbers, which for percentages add up to a hundred. The run breaks off
exactly at allowed percentages whose sum is no word, for which no rule has room that is sound. -/
theorem parse_iff_sum (rule : SlotRule) (text : String) :
    (∀ slots, rule.parse text = .ok slots ↔
      rule.Spells text slots ∧ (rule.percent = true → sum slots.toList = 100)) ∧
    (rule.parse text = .error .overflow ↔
      rule.percent = true ∧ ∃ slots, rule.Spells text slots ∧ 4294967296 ≤ sum slots.toList) ∧
    (rule.Sound → rule.parse text ≠ .error .overflow) := by
  simp only [spells_iff, ← readSlots_eq_ok_iff]
  refine ⟨fun slots => parse_eq_ok_iff, parse_eq_overflow_iff, fun sound overflowed => ?_⟩
  obtain ⟨percent, slots, read, great⟩ := parse_eq_overflow_iff.1 overflowed
  exact absurd (sound.sum_lt percent read) (Nat.not_lt.2 great)

def shares : SlotRule where
  largest := 100
  percent := true

theorem parse_iff_sum_shares :
    let text := "10,+10 ,10,10,10,10,\t010,30"
    let slots : Slots := #v[10, 10, 10, 10, 10, 10, 10, 30]
    shares.Sound ∧ shares.parse text = .ok slots ∧ shares.Spells text slots ∧ sum slots.toList = 100 ∧
      shares.parse text ≠ .error .overflow := by
  intro text slots
  have sound : shares.Sound := by decide
  have read : shares.parse text = .ok slots := by decide
  obtain ⟨accepted, -, steady⟩ := parse_iff_sum shares text
  obtain ⟨spelled, hundred⟩ := (accepted slots).1 read
  exact ⟨sound, read, spelled, hundred rfl, steady sound⟩

def wideShares : SlotRule where
  largest := 4294967295
  percent := true

theorem sum_overflows :
    let text := "4294967295,101,0,0,0,0,0,0"
    let slots : Slots := #v[4294967295, 101, 0, 0, 0, 0, 0, 0]
    wideShares.percent = true ∧ wideShares.Spells text slots ∧ sum slots.toList ≠ 100 ∧
      wideShares.parse text = .error .overflow ∧
      wideShares.parse text ≠ .error (.invalid text .percentTotal) := by
  intro text slots
  have spelled : wideShares.Spells text slots := by
    rw [spells_iff]
    decide
  have overflowed : wideShares.parse text = .error .overflow := by decide
  exact ⟨rfl, spelled, by decide, overflowed, by simp [overflowed, Error.overflow, Error.invalid]⟩

end NetProfile.SlotRule
