import NetProfile.Proofs.Contract.Admits
import NetProfile.Proofs.Numeral

/-!
Arrays of slots are read back from their eight numbers, switches among them.
-/

namespace NetProfile.SlotRule

/-- An array of switches has no further number, which would be shown as a switch that is on. -/
def Faithful (rule : SlotRule) : Prop := rule.isSwitch = true → rule.other = none

instance (rule : SlotRule) : Decidable rule.Faithful := inferInstanceAs (Decidable (_ → _))

variable {rule : SlotRule} {slot : UInt32}

theorem formatSlot_eq (faithful : rule.Faithful) (allowed : slot ≤ rule.largest ∨ rule.other = some slot) :
    rule.formatSlot slot = Numeral.decimalDigits slot.toNat := by
  unfold formatSlot
  split
  · next switch =>
    have one : rule.largest = 1 := by simpa [isSwitch] using switch
    have small : slot.toNat ≤ 1 := by
      rcases allowed with below | other
      · rw [one] at below
        exact UInt32.le_iff_toNat_le.1 below
      · rw [faithful switch] at other
        cases other
    have two : ∀ n : Fin 2, (if UInt32.ofNat n = 0 then "0" else "1") = Numeral.decimalDigits n := by decide
    have shown := two ⟨slot.toNat, by omega⟩
    rwa [UInt32.ofNat_toNat] at shown
  · rfl

theorem readSlot_decimalDigits (allowed : slot ≤ rule.largest ∨ rule.other = some slot) :
    rule.readSlot (Numeral.decimalDigits slot.toNat) = .ok slot :=
  readSlot_eq_ok_iff.2 ⟨Numeral.readSigned_decimalDigits (.inr rfl) _, allowed⟩

theorem parse_format (faithful : rule.Faithful) {slots : Slots} (admits : rule.Admits slots) :
    rule.parse (rule.format slots) = .ok slots := by
  have shown : slots.toList.map rule.formatSlot
      = slots.toList.map fun slot => Numeral.decimalDigits slot.toNat :=
    List.map_congr_left fun slot here => formatSlot_eq faithful (admits.each slot here)
  have eight : slots.toList.length = 8 := slots.length_toList
  have fields : Text.pieces (· == ',') (rule.format slots)
      = slots.toList.map fun slot => Numeral.decimalDigits slot.toNat := by
    rw [format, shown]
    refine Text.pieces_glued ',' rfl ?_ ?_ rfl
    · rw [Ne, List.map_eq_nil_iff]
      exact List.ne_nil_of_length_pos (by omega)
    · intro field here c inside
      obtain ⟨slot, -, rfl⟩ := List.mem_map.1 here
      rw [Numeral.decimalDigits, String.toList_ofList] at inside
      exact Numeral.ne_of_mem_toDigits (by decide) (by decide) (by decide) inside
  refine parse_eq_ok_iff.2 ⟨readSlots_eq_ok_iff.2 ?_, admits.percent⟩
  rw [fields]
  exact Reading.mapM_map_eq_ok fun slot here => readSlot_decimalDigits (admits.each slot here)

end NetProfile.SlotRule
