import NetProfile.Proofs.Numeral
import NetProfile.Proofs.Reading
import NetProfile.Proofs.Text.Fields
import NetProfile.Scalar.HardwareAddress
import NetProfile.Scalar.Octets

/-!
Strings of octets and hardware addresses are kept as octets, two digits each. The digits give the
same octets again, with colons between them and without.
-/

namespace NetProfile

namespace Numeral

theorem mem_hexByte {b : UInt8} {c : Char} (here : c ∈ hexByte b) : isDigitOf 16 c = true := by
  have nibble : ∀ d : Fin 16, isDigitOf 16 (upperHexDigit d) = true := by decide
  have small : b.toNat < 256 := b.toNat_lt
  simp only [hexByte, List.mem_cons, List.not_mem_nil, or_false] at here
  rcases here with rfl | rfl
  · exact nibble ⟨b.toNat / 16, by omega⟩
  · exact nibble ⟨b.toNat % 16, by omega⟩

theorem value?_hexByte (b : UInt8) : value? 16 (hexByte b) = some b.toNat := by
  have nibble : ∀ d : Fin 16, digitValue (upperHexDigit d) = some d.val := by decide
  have small : b.toNat < 256 := b.toNat_lt
  have high := nibble ⟨b.toNat / 16, by omega⟩
  have low := nibble ⟨b.toNat % 16, by omega⟩
  have digits : ∀ c ∈ hexByte b, isDigitOf 16 c = true := fun c => mem_hexByte
  simp only [hexByte, List.forall_mem_cons, List.not_mem_nil, false_implies, implies_true, and_true]
    at digits
  simp only [value?, hexByte, valueFrom, digits.1, digits.2, high, low]
  simp
  omega

end Numeral

namespace Octets

theorem mem_format {octets : List UInt8} {c : Char} (here : c ∈ octets.flatMap Numeral.hexByte) :
    Numeral.isDigitOf 16 c = true := by
  obtain ⟨b, -, inside⟩ := List.mem_flatMap.1 here
  exact Numeral.mem_hexByte inside

theorem stripMark_of_digits {cs : List Char} (digits : ∀ c ∈ cs, Numeral.isDigitOf 16 c = true) :
    stripMark cs = cs := by
  have unmarked : Numeral.stripHexMark? cs = none := by
    unfold Numeral.stripHexMark?
    split
    · exact absurd (digits 'x' (by simp)) (by decide)
    · exact absurd (digits 'X' (by simp)) (by decide)
    · rfl
  rw [stripMark, unmarked]
  rfl

theorem pairs?_flatMap (octets : List UInt8) : pairs? (octets.flatMap Numeral.hexByte) = some octets := by
  induction octets with
  | nil => rfl
  | cons b rest ih =>
    have first := Numeral.value?_hexByte b
    rw [Numeral.hexByte] at first
    rw [List.flatMap_cons, Numeral.hexByte, List.cons_append, List.cons_append, List.nil_append]
    simp only [pairs?, first, ih, UInt8.ofNat_toNat]

theorem parse_format (allowSpaced : Bool) {octets : List UInt8} (notEmpty : octets ≠ []) :
    parse allowSpaced (format octets) = .ok (some octets) := by
  have digits : ∀ c ∈ octets.flatMap Numeral.hexByte, Numeral.isDigitOf 16 c = true := fun c => mem_format
  have written : octets.flatMap Numeral.hexByte ≠ [] := by
    obtain ⟨b, rest, rfl⟩ := List.exists_cons_of_ne_nil notEmpty
    simp [Numeral.hexByte]
  have trimmed : Text.trim (format octets) = format octets := by
    apply Text.trim_of_isTight
    rw [format, String.toList_ofList]
    exact .of_forall fun c here => Numeral.not_isBlank_of_isDigitOf (digits c here)
  have someText : format octets ≠ "" := by
    rw [Ne, ← String.toList_eq_nil_iff, format, String.toList_ofList]
    exact written
  have noColon : ':' ∉ octets.flatMap Numeral.hexByte := fun colon => absurd (digits ':' colon) (by decide)
  have compact : compact? (format octets).toList = some octets := by
    rw [format, String.toList_ofList, compact?, stripMark_of_digits digits]
    simp only [if_neg written, if_neg noColon, pairs?_flatMap]
  unfold parse
  simp only [trimmed, if_neg someText, compact]

theorem ne_nil_of_compact? {text : List Char} {octets : List UInt8} (read : compact? text = some octets) :
    octets ≠ [] := by
  unfold compact? at read
  simp only at read
  split at read
  · cases read
  · next body =>
    split at read
    · have size := Reading.length_of_mapM_eq_some read
      have pieces := List.length_pos_iff.2 (Text.piecesOf_ne_nil (· == ':') (stripMark text))
      exact List.ne_nil_of_length_pos (by omega)
    · unfold pairs? at read
      split at read
      · next empty => exact absurd empty body
      · cases read
      · split at read <;> cases read
        exact List.cons_ne_nil _ _

theorem ne_nil_of_spaced {text : List Char} {octets : List UInt8} (read : spaced text = .ok octets)
    (inked : ∃ c ∈ text, Text.isBlank c = false) : octets ≠ [] := by
  obtain ⟨c, here, notBlank⟩ := inked
  rcases Text.mem_piecesOf_of_mem Text.isBlank here with blank | ⟨piece, member, inside⟩
  · rw [notBlank] at blank
    cases blank
  · have size := Reading.length_of_mapM_eq_ok read
    have kept : piece ∈ (Text.piecesOf Text.isBlank text).filter (· ≠ []) :=
      List.mem_filter.2 ⟨member, by simpa using List.ne_nil_of_mem inside⟩
    have pieces := List.length_pos_of_mem kept
    exact List.ne_nil_of_length_pos (by omega)

/-- There is always an octet in what is read from a text that is not blank. -/
theorem ne_nil_of_parse {allowSpaced : Bool} {text : String} {octets : List UInt8}
    (read : parse allowSpaced text = .ok (some octets)) : octets ≠ [] := by
  unfold parse at read
  simp only at read
  split at read
  · cases read
  · next someText =>
    split at read
    · next found =>
      cases read
      exact ne_nil_of_compact? found
    · split at read
      · obtain ⟨inner, spacedRead, same⟩ := Reading.map_eq_ok read
        cases same
        refine ne_nil_of_spaced spacedRead ?_
        have written : (Text.trim text).toList ≠ [] := fun empty =>
          someText (String.toList_eq_nil_iff.1 empty)
        obtain ⟨c, rest, shape⟩ := List.exists_cons_of_ne_nil written
        have tight : Text.IsTight (Text.trim text).toList := Text.trim_eq_self_iff.1 (Text.trim_trim text)
        refine ⟨c, shape ▸ List.mem_cons_self, tight.front c ?_⟩
        rw [shape]
        rfl
      · cases read

end Octets

namespace HardwareAddress

theorem octet?_hexByte (b : UInt8) : octet? (Numeral.hexByte b) = some b := by
  have size : (Numeral.hexByte b).length ≤ 2 := Nat.le_refl 2
  rw [octet?, if_pos size, Numeral.value?_hexByte, Option.map_some, UInt8.ofNat_toNat]

theorem toList_formatOctets (octets : List UInt8) :
    (formatOctets octets).toList = [':'].intercalate (octets.map Numeral.hexByte) := by
  rw [formatOctets, String.toList_intercalate, List.map_map]
  congr 1
  exact List.map_congr_left fun b _ => String.toList_ofList

theorem piecesOf_formatOctets {octets : List UInt8} (notEmpty : octets ≠ []) :
    Text.piecesOf isSeparator (formatOctets octets).toList = octets.map Numeral.hexByte := by
  rw [toList_formatOctets]
  refine Text.piecesOf_intercalate (fun empty => notEmpty (List.map_eq_nil_iff.1 empty)) ?_ rfl
  intro piece here c inside
  obtain ⟨b, -, rfl⟩ := List.mem_map.1 here
  have digit := Numeral.mem_hexByte inside
  simp only [isSeparator, Bool.or_eq_false_iff, beq_eq_false_iff_ne]
  constructor <;>
    · rintro rfl
      exact absurd digit (by decide)

theorem octets?_formatOctets {octets : List UInt8} (notEmpty : octets ≠ []) :
    octets? octets.length (formatOctets octets) = some octets := by
  unfold octets?
  simp only [piecesOf_formatOctets notEmpty, List.length_map, if_true]
  exact Reading.mapM_map_eq_some fun b _ => octet?_hexByte b

theorem length_of_octets? {count : Nat} {text : String} {octets : List UInt8}
    (read : octets? count text = some octets) : octets.length = count := by
  unfold octets? at read
  simp only at read
  split at read
  · next size => rw [Reading.length_of_mapM_eq_some read, size]
  · cases read

theorem mem_formatOctets {octets : List UInt8} (notEmpty : octets ≠ []) {c : Char}
    (here : c ∈ (formatOctets octets).toList) : isSeparator c = true ∨ Numeral.isDigitOf 16 c = true := by
  refine (Text.mem_piecesOf_of_mem isSeparator here).imp_right ?_
  rintro ⟨piece, member, inside⟩
  rw [piecesOf_formatOctets notEmpty] at member
  obtain ⟨b, -, rfl⟩ := List.mem_map.1 member
  exact Numeral.mem_hexByte inside

theorem isInked_formatOctets {octets : List UInt8} (notEmpty : octets ≠ []) :
    Text.IsInked (formatOctets octets) := by
  apply Text.IsInked.of_forall
  · intro empty
    have pieces := piecesOf_formatOctets notEmpty
    rw [empty] at pieces
    obtain ⟨b, rest, rfl⟩ := List.exists_cons_of_ne_nil notEmpty
    cases pieces
  · intro c here
    rcases mem_formatOctets notEmpty here with separator | digit
    · simp only [isSeparator, Bool.or_eq_true, beq_iff_eq] at separator
      rcases separator with rfl | rfl <;> decide
    · exact Numeral.not_isBlank_of_isDigitOf digit

/-- The kept form of an address stays as it is, and so does a word for one. -/
theorem parse_of_parse {form : HardwareAddress} {text kept : String} (read : form.parse text = .ok kept) :
    Text.IsInked kept ∧ form.parse kept = .ok kept := by
  unfold parse at read
  simp only at read
  split at read
  · next word =>
    cases read
    have words : ∀ word ∈ form.words, Text.IsInked word := by cases form <;> decide
    refine ⟨words _ word, ?_⟩
    simp only [parse, Text.trim_trim, if_pos word]
  · split at read
    · next octets found =>
      cases read
      have size := length_of_octets? found
      have positive : 0 < form.octetCount := by cases form <;> decide
      have notEmpty : octets ≠ [] := List.ne_nil_of_length_pos (by omega)
      have inked := isInked_formatOctets notEmpty
      refine ⟨inked, ?_⟩
      simp only [parse, inked.trimmed, ← size, octets?_formatOctets notEmpty, ite_self]
    · cases read

end HardwareAddress

end NetProfile
