import NetProfile.Proofs.Scalar.Enumeration
import NetProfile.Proofs.SlotArray
import NetProfile.Proofs.TextRule

/-!
Single values are read back from the form in which programs see them. A value may have been read
from one of many texts; its form is the one text that all of them lead to.
-/

namespace NetProfile

theorem Ternary.parse_format {style : Ternary} {value : Int64} (inside : Within (-1, 1) value) :
    style.parse (style.format value) = .ok value := by
  have three : value = unset ∨ value = no ∨ value = yes := by
    have low : (-1 : Int) ≤ value.toInt := Int64.le_iff_toInt_le.1 inside.1
    have high : value.toInt ≤ 1 := Int64.le_iff_toInt_le.1 inside.2
    have number : value.toInt = -1 ∨ value.toInt = 0 ∨ value.toInt = 1 := by omega
    exact number.imp Int64.toInt_inj.1 (.imp Int64.toInt_inj.1 Int64.toInt_inj.1)
  rcases three with rfl | rfl | rfl <;> cases style <;> decide

namespace Scalar

def Faithful : Scalar → Prop
  | .text none words => ∀ word ∈ words, Text.IsInked word ∧ choose words word = .ok word
  | .integer rule => rule.Faithful
  | .enumeration spec none | .wepKeyType spec => spec.Faithful
  | .enumeration spec (some _) =>
    spec.Faithful ∧ Within (0, 4294967295) spec.bounds.1 ∧ Within (0, 4294967295) spec.bounds.2
  | .slots rule _ => rule.Faithful
  | _ => True

instance : (scalar : Scalar) → Decidable scalar.Faithful
  | .text none words =>
    inferInstanceAs (Decidable (∀ word ∈ words, Text.IsInked word ∧ choose words word = .ok word))
  | .integer rule => inferInstanceAs (Decidable rule.Faithful)
  | .enumeration spec none | .wepKeyType spec => inferInstanceAs (Decidable spec.Faithful)
  | .enumeration spec (some _) => inferInstanceAs (Decidable (spec.Faithful ∧
      Within (0, 4294967295) spec.bounds.1 ∧ Within (0, 4294967295) spec.bounds.2))
  | .slots rule _ => inferInstanceAs (Decidable rule.Faithful)
  | .text (some _) _ | .bool | .mtu | .hardwareAddress _ | .octets _ | .ternary _ | .features =>
    inferInstanceAs (Decidable True)

theorem parseText_getD {rule : Option TextRule} {words : List String}
    (faithful : (text rule words).Faithful) {input : String} {held : Option String}
    (read : parseText rule words input = .ok held) : parseText rule words (held.getD "") = .ok held := by
  by_cases blank : Text.trim input = ""
  · simp only [parseText, if_pos blank] at read
    cases read
    rfl
  · have inked : Text.IsInked (Text.trim input) := ⟨Text.trim_trim input, blank⟩
    cases rule with
    | some rule =>
      simp only [parseText, if_neg blank] at read
      obtain ⟨kept, checked, rfl⟩ := Reading.map_eq_ok read
      obtain ⟨keptInked, same⟩ := TextRule.keeps_of_check inked checked
      simp only [Option.getD_some, parseText, keptInked.trimmed, if_neg keptInked.notEmpty, same, Except.map]
    | none =>
      by_cases free : words = []
      · -- a free text is kept with its blanks, so it is read once more
        have whole := read
        simp only [parseText, if_neg blank, if_pos free] at read
        cases read
        exact whole
      · simp only [parseText, if_neg blank, if_neg free] at read
        obtain ⟨word, chosen, rfl⟩ := Reading.map_eq_ok read
        obtain ⟨wordInked, same⟩ := faithful word (choose_mem chosen)
        simp only [Option.getD_some, parseText, wordInked.trimmed, if_neg wordInked.notEmpty, if_neg free,
          same, Except.map]

theorem parseHardwareAddress_getD {form : HardwareAddress} {input : String} {held : Option String}
    (read : parseHardwareAddress form input = .ok held) :
    parseHardwareAddress form (held.getD "") = .ok held := by
  unfold parseHardwareAddress at read
  split at read
  · cases read
    rfl
  · obtain ⟨kept, parsed, rfl⟩ := Reading.map_eq_ok read
    obtain ⟨inked, again⟩ := HardwareAddress.parse_of_parse parsed
    rw [Option.getD_some, parseHardwareAddress, inked.trimmed, if_neg inked.notEmpty, again]
    rfl

theorem parseOctets_format {allowSpaced : Bool} {input : String} {held : Option (List UInt8)}
    (read : Octets.parse allowSpaced input = .ok held) :
    Octets.parse allowSpaced ((held.map Octets.format).getD "") = .ok held := by
  cases held with
  | none => rfl
  | some octets => exact Octets.parse_format allowSpaced (Octets.ne_nil_of_parse read)

theorem flagBits_toInt64 (flags : UInt32) : flagBits flags.toUInt64.toInt64 = flags := by
  simp [flagBits]

/-- The form that programs see of a value that was read gives the value again. -/
theorem parse_format {scalar : Scalar} (faithful : scalar.Faithful) {input : String} {value : Value}
    (read : scalar.parse input = .ok value) :
    scalar.parse (scalar.format .parsable value) = .ok value := by
  cases scalar <;> simp only [parse] at read ⊢ <;> obtain ⟨inner, given, rfl⟩ := Reading.map_eq_ok read
  case text rule words => simp only [format, parseText_getD faithful given, Except.map]
  case bool => simp only [format, Truth.parse_format, Except.map]
  case integer rule =>
    have inside := IntegerRule.within_of_parse faithful.sound given
    simp only [format, IntegerRule.parse_format faithful inside, Except.map]
  case mtu => simp only [format, parseMtu_format (within_of_parseMtu given), Except.map]
  case hardwareAddress form => simp only [format, parseHardwareAddress_getD given, Except.map]
  case octets allowSpaced => simp only [format, parseOctets_format given, Except.map]
  case enumeration spec table =>
    have inside := Enumeration.within_of_parse given
    cases table with
    | none => simp only [format, Enumeration.parse_format faithful inside, Except.map]
    | some table =>
      obtain ⟨faithful, low, high⟩ := faithful
      have word : Within (0, 4294967295) inner :=
        ⟨Int64.le_trans low.1 inside.1, Int64.le_trans inside.2 high.2⟩
      simp only [format, FlagTable.format_parsable table word, Enumeration.parse_decimal faithful inside,
        Except.map]
  case wepKeyType spec =>
    simp only [format, Enumeration.parse_format faithful (Enumeration.within_of_parse given), Except.map]
  case ternary style =>
    simp only [format, Ternary.parse_format (Ternary.within_of_parse given), Except.map]
  case slots rule switch =>
    have admits := SlotRule.admits_of_parse given
    simp only [format, SlotRule.parse_format faithful admits, Except.map]
  case features =>
    simp only [format, flagBits_toInt64, FeatureFlags.parse_format (FeatureFlags.le_of_parse given),
      Except.map]

end Scalar

end NetProfile
