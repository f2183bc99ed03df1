import NetProfile.Proofs.Scalar.Integer

/-!
Enumerations and flag sets are read back from the number or the name that stands for a value. A
table of labels has no part in that, as it shows programs nothing but the number.
-/

namespace NetProfile

namespace Enumeration

@[mk_iff]
structure Faithful (spec : Enumeration) : Prop where
  names : ∀ named ∈ spec.names ++ spec.aliases, Numeral.readSigned .automatic named.1 = none
  trimmed : ∀ named ∈ spec.names, Text.trim named.1 = named.1
  distinct : ∀ named ∈ spec.names, spec.lookup named.1 = some named.2
  shown : spec.parsable = .numericOnly ∨ spec.parsable = .textOnly ∧ spec.isFlags = false

instance (spec : Enumeration) : Decidable spec.Faithful :=
  decidable_of_iff _ spec.faithful_iff.symm

theorem items_decimal (i : Int) : Text.items isFlagSeparator (Numeral.decimal i) = [Numeral.decimal i] := by
  refine Text.items_of_clean (Numeral.decimal_ne_nil i) fun c here => ?_
  rcases Numeral.mem_decimal here with rfl | digit
  · decide
  · simp only [isFlagSeparator, Bool.or_eq_false_iff, beq_eq_false_iff_ne]
    refine ⟨⟨⟨?_, ?_⟩, ?_⟩, ?_⟩ <;>
      · rintro rfl
        exact absurd digit (by decide)

theorem parseToken_of_number {spec : Enumeration}
    (names : ∀ named ∈ spec.names ++ spec.aliases, Numeral.readSigned .automatic named.1 = none)
    {token : String} {value : Int64} (number : Numeral.readSigned .automatic token = some value.toInt)
    (inside : Within spec.bounds value) : spec.parseToken token = some value := by
  have unnamed : spec.lookup token = none := by
    unfold lookup
    rw [Option.map_eq_none_iff, List.find?_eq_none]
    intro named here same
    have noNumber := names named here
    rw [of_decide_eq_true same, number] at noNumber
    cases noNumber
  unfold parseToken
  rw [unnamed, readWithin_of_readSigned spec.bounds number inside]
  rfl

theorem parseToken_decimal {spec : Enumeration} (faithful : spec.Faithful) {value : Int64}
    (inside : Within spec.bounds value) : spec.parseToken (Numeral.decimal value.toInt) = some value :=
  parseToken_of_number faithful.names (Numeral.readSigned_decimal (.inl rfl) _) inside

theorem parse_of_parseBits {spec : Enumeration} {text : String} {value : Int64}
    (trimmed : Text.trim text = text) (bits : spec.parseBits text = some value)
    (inside : Within spec.bounds value) : spec.parse text = .ok value := by
  unfold parse
  simp only [trimmed, bits]
  exact if_pos inside

theorem parse_decimal {spec : Enumeration} (faithful : spec.Faithful) {value : Int64}
    (inside : Within spec.bounds value) : spec.parse (Numeral.decimal value.toInt) = .ok value := by
  refine parse_of_parseBits (Numeral.trim_decimal value.toInt) ?_ inside
  unfold parseBits
  split
  · rw [items_decimal]
    simp only [joinTokens, parseToken_decimal faithful inside, Int64.zero_or]
  · exact parseToken_decimal faithful inside

theorem parse_name {spec : Enumeration} (faithful : spec.Faithful) (single : spec.isFlags = false)
    {named : String × Int64} (here : named ∈ spec.names) (inside : Within spec.bounds named.2) :
    spec.parse named.1 = .ok named.2 := by
  refine parse_of_parseBits (faithful.trimmed named here) ?_ inside
  unfold parseBits parseToken
  rw [single, faithful.distinct named here]
  rfl

theorem parse_format {spec : Enumeration} (faithful : spec.Faithful) {value : Int64}
    (inside : Within spec.bounds value) : spec.parse (spec.format .parsable value) = .ok value := by
  rcases faithful.shown with numeric | ⟨text, single⟩
  · have shown : spec.format .parsable value = Numeral.decimal value.toInt := by
      simp [format, showing, numeric, Showing.numericOnly]
    rw [shown, parse_decimal faithful inside]
  · have shown : spec.format .parsable value = spec.toText value := by
      simp [format, showing, text, Showing.textOnly]
    rw [shown, toText, single]
    cases found : spec.names.find? (·.2 = value) with
    | none => exact parse_decimal faithful inside
    | some named =>
      have same : named.2 = value := by simpa using List.find?_some found
      subst same
      exact parse_name faithful single (List.mem_of_find?_eq_some found) inside

end Enumeration

namespace FlagTable

theorem toNat_flagBits {value : Int64} (inside : Within (0, 4294967295) value) :
    ((Scalar.flagBits value).toNat : Int) = value.toInt := by
  have whole := Numeral.toNat_toUInt64_of_nonneg inside.1
  have high : value.toInt ≤ 4294967295 := Int64.le_iff_toInt_le.1 inside.2
  rw [Scalar.flagBits, UInt64.toNat_toUInt32]
  omega

theorem format_parsable (table : FlagTable) {value : Int64} (inside : Within (0, 4294967295) value) :
    table.format .parsable (Scalar.flagBits value) = Numeral.decimal value.toInt := by
  rw [← toNat_flagBits inside]
  rfl

end FlagTable

/-- The number of all flags is read as such and not as the number of a single one. -/
theorem FeatureFlags.parse_format {flags : UInt32} (small : flags.toNat ≤ 7) :
    parse (table.format .parsable flags) = .ok flags := by
  have number : wholeNumber? (Text.trim (Numeral.decimal flags.toNat)) = some flags := by
    rw [wholeNumber?, Numeral.trim_decimal]
    have read : Numeral.natural? .automatic 7 (Numeral.decimal flags.toNat) = some flags.toNat :=
      Numeral.natural?_decimal (.inl rfl) small
    rw [read, Option.map_some, UInt32.ofNat_toNat]
  show parse (Numeral.decimal flags.toNat) = .ok flags
  unfold parse
  simp only [number]

end NetProfile
