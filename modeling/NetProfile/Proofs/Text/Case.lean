import NetProfile.Text.Case
import NetProfile.Text.Utf8

/-!
Small letters. Only the capital ASCII letters have one, so what holds of these and their small letters
alike is not changed by the case of a text.
-/

namespace NetProfile.Text

/-- Only the capital letters have a small one. -/
theorem toLower_cases (c : Char) : c.toLower = c ∨ ∃ n : Fin 26, c = Char.ofNat (65 + n) := by
  by_cases capital : c.val ≥ 'A'.val ∧ c.val ≤ 'Z'.val
  · right
    have bounds : 65 ≤ c.toNat ∧ c.toNat ≤ 90 :=
      ⟨UInt32.le_iff_toNat_le.1 capital.1, UInt32.le_iff_toNat_le.1 capital.2⟩
    refine ⟨⟨c.toNat - 65, by omega⟩, ?_⟩
    have number : 65 + (c.toNat - 65) = c.toNat := by omega
    simp only [number, Char.ofNat_toNat]
  · exact .inl (dif_neg capital)

/-- What is the same for every capital letter and its small one is the same for all characters. -/
theorem toLower_congr {α : Type} (look : Char → α)
    (letters : ∀ n : Fin 26, look (Char.ofNat (65 + n)).toLower = look (Char.ofNat (65 + n))) (c : Char) :
    look c.toLower = look c := by
  rcases toLower_cases c with same | ⟨n, rfl⟩
  · rw [same]
  · exact letters n

theorem lower_lower (text : String) : lower (lower text) = lower text := by
  unfold lower
  rw [String.toList_ofList, List.map_map]
  exact congrArg String.ofList (List.map_congr_left fun c _ => toLower_congr Char.toLower (by decide) c)

theorem byteLength_lower (text : String) : byteLength (lower text) = byteLength text := by
  have each := toLower_congr (fun c => (String.utf8EncodeChar c).length) (by decide)
  unfold byteLength utf8Bytes lower
  rw [String.toList_ofList, List.length_flatMap, List.length_flatMap, List.map_map]
  congr 1
  exact List.map_congr_left fun c _ => each c

end NetProfile.Text
