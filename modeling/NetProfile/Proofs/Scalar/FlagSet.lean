import NetProfile.Proofs.Scalar.Bits
import NetProfile.Proofs.Scalar.Enumeration
import NetProfile.Proofs.Text.Words

/-!
Flag sets as sets of bits. The words and the number that a set is written as join to the same bits, even
where names share some; and a set that is read has a bit without a name only if a number brings it.
-/

namespace NetProfile

def IsFlagWord (word : String) : Prop := Text.IsWord word ∧ '|' ∉ word.toList

instance (word : String) : Decidable (IsFlagWord word) := inferInstanceAs (Decidable (_ ∧ _))

theorem IsFlagWord.whole {word : String} (isWord : IsFlagWord word) :
    word.toList ≠ [] ∧ ∀ c ∈ word.toList, isFlagSeparator c = false := by
  refine ⟨isWord.1.notEmpty, fun c here => ?_⟩
  obtain ⟨inked, noComma⟩ := isWord.1.clean c here
  have noSpace := Text.isSpaceOrTab_of_not_isBlank inked
  have other : c ≠ '|' := fun same => isWord.2 (same ▸ here)
  simp_all [isFlagSeparator, Text.isSpaceOrTab]

theorem isFlagWord_hexWord (word : Int64) : IsFlagWord (Numeral.hexWord word) := by
  have digit : ∀ c, Numeral.isDigitOf 16 c = false → c ≠ 'x' → c ∉ (Numeral.hexWord word).toList := by
    intro c other noMark here
    rcases Numeral.mem_hexWord here with mark | digit
    · exact noMark mark
    · rw [digit] at other
      cases other
  refine ⟨⟨by simp [Numeral.toList_hexWord], fun c here => ⟨Numeral.not_isBlank_of_mem_hexWord here, ?_⟩⟩,
    digit '|' (by decide) (by decide)⟩
  rintro rfl
  exact digit ',' (by decide) (by decide) here

namespace Enumeration

variable {spec : Enumeration}

/-- Names that stand for themselves in a text of several: single words, each of one value, and no
numbers. -/
@[mk_iff]
structure Legible (spec : Enumeration) : Prop where
  words : ∀ named ∈ spec.names, IsFlagWord named.1
  distinct : (spec.names.map (·.1)).Nodup
  numbers : ∀ named ∈ spec.names ++ spec.aliases, Numeral.readSigned .automatic named.1 = none

instance (spec : Enumeration) : Decidable spec.Legible := decidable_of_iff _ spec.legible_iff.symm

theorem joinTokens_append (bits : Int64) (front back : List String) :
    spec.joinTokens bits (front ++ back) = (spec.joinTokens bits front).bind (spec.joinTokens · back) := by
  induction front generalizing bits with
  | nil => rfl
  | cons token tokens ih =>
    rw [List.cons_append, joinTokens, joinTokens]
    cases spec.parseToken token with
    | none => rfl
    | some value => exact ih _

theorem Legible.parseToken_name (legible : spec.Legible) {named : String × Int64} (here : named ∈ spec.names) :
    spec.parseToken named.1 = some named.2 := by
  have found : spec.names.find? (·.1 = named.1) = some named := by
    obtain ⟨first, located⟩ : ∃ first, spec.names.find? (·.1 = named.1) = some first :=
      Option.isSome_iff_exists.1 (List.find?_isSome.2 ⟨named, here, by simp⟩)
    have same : first.1 = named.1 := by simpa using List.find?_some located
    rw [located, List.inj_on_of_nodup_map legible.distinct (List.mem_of_find?_eq_some located) here same]
  rw [parseToken, lookup, List.find?_append, found]
  rfl

/-- The names that are taken off a set and the rest of it join to all its bits. -/
theorem joinTokens_peel (value : Int64) {names : List (String × Int64)}
    (known : ∀ named ∈ names, spec.parseToken named.1 = some named.2) (rest bits : Int64) :
    ∃ joined, spec.joinTokens bits (peel value rest names).1 = some (bits ||| joined) ∧
      IsPart joined value ∧ IsPart (peel value rest names).2 rest ∧
      joined ||| (peel value rest names).2 = joined ||| rest := by
  induction names generalizing rest bits with
  | nil => exact ⟨0, by simp [peel, joinTokens], .zero _, .refl _, rfl⟩
  | cons named names ih =>
    obtain ⟨name, own⟩ := named
    obtain ⟨first, later⟩ := List.forall_mem_cons.1 known
    rw [peel]
    split
    · next taken =>
      obtain ⟨joined, tokens, part, left, same⟩ := ih later (rest &&& ~~~own) (bits ||| own)
      refine ⟨own ||| joined, ?_, isPart_or.2 ⟨isPart_iff.2 taken.2.1, part⟩, left.trans isPart_clear, ?_⟩
      · simp only [joinTokens, first]
        rw [tokens, Int64.or_assoc]
      · simp only
        rw [Int64.or_assoc, same, Int64.or_comm joined, ← Int64.or_assoc, or_clear, Int64.or_assoc, Int64.or_assoc,
          Int64.or_comm joined]
    · exact ih later rest bits

theorem mem_peel {value rest : Int64} {names : List (String × Int64)} {word : String}
    (here : word ∈ (peel value rest names).1) : ∃ named ∈ names, named.1 = word := by
  induction names generalizing rest with
  | nil => cases here
  | cons named names ih =>
    obtain ⟨name, own⟩ := named
    rw [peel] at here
    split at here
    · rcases List.mem_cons.1 here with rfl | later
      · exact ⟨_, List.mem_cons_self, rfl⟩
      · obtain ⟨other, member, same⟩ := ih later
        exact ⟨other, List.mem_cons_of_mem _ member, same⟩
    · obtain ⟨other, member, same⟩ := ih here
      exact ⟨other, List.mem_cons_of_mem _ member, same⟩

/-- A text of words that together give the bits of a set is read as this set. -/
theorem parse_intercalate (flags : spec.isFlags = true) {words : List String} {value : Int64}
    (clean : ∀ word ∈ words, IsFlagWord word) (joined : spec.joinTokens 0 words = some value)
    (inside : Within spec.bounds value) : spec.parse (String.intercalate ", " words) = .ok value := by
  have tight : Text.IsTight (String.intercalate ", " words).toList :=
    (Text.isTight_intercalate fun word here => (clean word here).1).1
  refine parse_of_parseBits (Text.trim_of_isTight tight) ?_ inside
  rw [parseBits, if_pos flags, Text.items_intercalate_of_clean (by decide) (by decide)
    fun word here => (clean word here).whole, joined]

def WordsFor (spec : Enumeration) (value : Int64) (words : List String) : Prop :=
  spec.flagsText value = String.intercalate ", " words ∧ (∀ word ∈ words, IsFlagWord word) ∧
    spec.joinTokens 0 words = some value

theorem exists_wordsFor_zero (legible : spec.Legible) (zero : ∃ named ∈ spec.names, named.2 = 0) :
    ∃ words, spec.WordsFor 0 words := by
  obtain ⟨first, located⟩ : ∃ first, spec.names.find? (·.2 = 0) = some first := by
    obtain ⟨named, here, empty⟩ := zero
    exact Option.isSome_iff_exists.1 (List.find?_isSome.2 ⟨named, here, by simp [empty]⟩)
  have here := List.mem_of_find?_eq_some located
  have empty : first.2 = 0 := by simpa using List.find?_some located
  refine ⟨[first.1], ?_, List.forall_mem_singleton.2 (legible.words first here), ?_⟩
  · rw [String.intercalate_singleton, flagsText, if_pos rfl, located]
  · simp only [joinTokens, legible.parseToken_name here, empty, Int64.or_self]

theorem exists_wordsFor (legible : spec.Legible) {greatest value : Int64} (bounds : spec.bounds = (0, greatest))
    (inside : Within (0, greatest) value) (raised : value ≠ 0) : ∃ words, spec.WordsFor value words := by
  obtain ⟨joined, tokens, part, leftPart, same⟩ :=
    joinTokens_peel value (fun _ => legible.parseToken_name) value 0
  have named : ∀ word ∈ (peel value value spec.names).1, IsFlagWord word := by
    intro word here
    obtain ⟨own, member, rfl⟩ := mem_peel here
    exact legible.words own member
  unfold WordsFor flagsText
  generalize peel value value spec.names = peeled at tokens leftPart same named ⊢
  obtain ⟨words, left⟩ := peeled
  simp only at tokens leftPart same named ⊢
  rw [part.or_eq] at same
  rw [Int64.zero_or] at tokens
  simp only [if_neg raised]
  split
  · next nothing =>
    rw [nothing, Int64.or_zero] at same
    exact ⟨words, rfl, named, same ▸ tokens⟩
  · next something =>
    have less := leftPart.le inside.1
    have number : spec.parseToken (Numeral.hexWord left) = some left :=
      parseToken_of_number legible.numbers (Numeral.readSigned_hexWord_of_nonneg (.inl rfl) less.1)
        (bounds ▸ ⟨less.1, Int64.le_trans less.2 inside.2⟩)
    refine ⟨words ++ [Numeral.hexWord left], rfl, ?_, ?_⟩
    · exact List.forall_mem_append.2 ⟨named, List.forall_mem_singleton.2 (isFlagWord_hexWord left)⟩
    · rw [joinTokens_append, tokens, Option.bind_some, joinTokens, number]
      exact congrArg some same

/-- A set is read back from its words: the names that are taken off it, though they may share bits, and the
number of the bits that are left join to all of it. -/
theorem parse_format_flags (flags : spec.isFlags = true) {greatest : Int64} (bounds : spec.bounds = (0, greatest))
    (shown : spec.parsable = .textOnly) (legible : spec.Legible) {value : Int64}
    (inside : Within (0, greatest) value) (zero : value = 0 → ∃ named ∈ spec.names, named.2 = 0) :
    spec.parse (spec.format .parsable value) = .ok value := by
  have shownText : spec.format .parsable value = spec.flagsText value := by
    simp [format, showing, shown, Showing.textOnly, toText, flags]
  obtain ⟨words, text, clean, joined⟩ : ∃ words, spec.WordsFor value words := by
    by_cases unset : value = 0
    · subst unset
      exact exists_wordsFor_zero legible (zero rfl)
    · exact exists_wordsFor legible bounds inside unset
  rw [shownText, text]
  exact parse_intercalate flags clean joined (bounds ▸ inside)

end Enumeration

def overlapping : Enumeration where
  isFlags := true
  names := [("none", 0), ("rw", 3), ("wx", 6), ("top", 64)]
  least := some 0
  greatest := some 255
  pretty := .textOnly
  parsable := .textOnly

namespace Enumeration

/-- The second name shares a bit with the first, and the last bit has no name. -/
theorem parse_format_flags_overlapping :
    overlapping.isFlags = true ∧ overlapping.bounds = (0, 255) ∧ overlapping.parsable = .textOnly ∧
      overlapping.Legible ∧ Within (0, 255) 15 ∧
      overlapping.format .parsable 15 = "rw, wx, 0x8" ∧ overlapping.parse "rw, wx, 0x8" = .ok 15 := by
  have bounds : overlapping.bounds = (0, 255) := rfl
  have legible : overlapping.Legible := by decide +kernel
  have inside : Within (0, 255) 15 := by decide
  have text : overlapping.format .parsable 15 = "rw, wx, 0x8" := by decide +kernel
  have back := parse_format_flags rfl bounds rfl legible inside fun zero => by cases zero
  rw [text] at back
  exact ⟨rfl, bounds, rfl, legible, inside, text, back⟩

variable {spec : Enumeration}

def union (spec : Enumeration) : Int64 := spec.names.foldr (·.2 ||| ·) 0

def OnlyNamed (spec : Enumeration) (value : Int64) : Prop :=
  ∀ place, hasBit value place = true → ∃ named ∈ spec.names, hasBit named.2 place = true

theorem onlyNamed_iff {value : Int64} : spec.OnlyNamed value ↔ IsPart value spec.union := by
  have hasBit_union (place : Nat) :
      hasBit spec.union place = true ↔ ∃ named ∈ spec.names, hasBit named.2 place = true := by
    unfold union
    induction spec.names with
    | nil => simp
    | cons named names ih => rw [List.foldr_cons, hasBit_or, Bool.or_eq_true, ih, List.exists_mem_cons_iff]
  simp only [OnlyNamed, IsPart, hasBit_union]

instance (spec : Enumeration) (value : Int64) : Decidable (spec.OnlyNamed value) :=
  decidable_of_iff _ onlyNamed_iff.symm

theorem onlyNamed_or {a b : Int64} : spec.OnlyNamed (a ||| b) ↔ spec.OnlyNamed a ∧ spec.OnlyNamed b := by
  simp only [onlyNamed_iff, isPart_or]

theorem onlyNamed_name {named : String × Int64} (here : named ∈ spec.names) : spec.OnlyNamed named.2 :=
  fun _ bit => ⟨named, here, bit⟩

/-- A number that is read brings its own bits; any other token is a name. -/
theorem onlyNamed_parseToken (faithful : spec.Faithful) (aliases : spec.aliases = []) {token : String} {own : Int64}
    (read : spec.parseToken token = some own) : spec.OnlyNamed own ↔
      ∀ number : Int64, Numeral.readSigned .automatic token = some number.toInt → spec.OnlyNamed number := by
  unfold parseToken at read
  split at read
  · next value found =>
    cases read
    rw [lookup, Option.map_eq_some_iff] at found
    obtain ⟨named, located, rfl⟩ := found
    have here := List.mem_of_find?_eq_some located
    have same : named.1 = token := by simpa using List.find?_some located
    have noNumber : Numeral.readSigned .automatic token = none := same ▸ faithful.names named here
    rw [aliases, List.append_nil] at here
    simp [noNumber, onlyNamed_name here]
  · cases number : readWithin .automatic spec.bounds.1 spec.bounds.2 token with
    | error error =>
      rw [number] at read
      cases read
    | ok value =>
      rw [number] at read
      cases read
      simp only [(readWithin_eq_ok_iff.1 number).1, Option.some.injEq, Int64.toInt_inj, forall_eq']

theorem onlyNamed_joinTokens (faithful : spec.Faithful) (aliases : spec.aliases = []) {tokens : List String}
    {bits value : Int64} (joined : spec.joinTokens bits tokens = some value) :
    spec.OnlyNamed value ↔ spec.OnlyNamed bits ∧ ∀ token ∈ tokens, ∀ number : Int64,
      Numeral.readSigned .automatic token = some number.toInt → spec.OnlyNamed number := by
  induction tokens generalizing bits with
  | nil =>
    cases joined
    simp
  | cons token tokens ih =>
    rw [joinTokens] at joined
    cases read : spec.parseToken token with
    | none =>
      rw [read] at joined
      cases joined
    | some own =>
      rw [read] at joined
      rw [ih joined, onlyNamed_or, List.forall_mem_cons, onlyNamed_parseToken faithful aliases read, and_assoc]

/-- A set that is read has only bits with a name if and only if the numbers in its text have. -/
theorem onlyNamed_of_parse (faithful : spec.Faithful) (aliases : spec.aliases = []) (flags : spec.isFlags = true)
    {text : String} {value : Int64} (read : spec.parse text = .ok value) :
    spec.OnlyNamed value ↔ ∀ token ∈ Text.items isFlagSeparator (Text.trim text), ∀ number : Int64,
      Numeral.readSigned .automatic token = some number.toInt → spec.OnlyNamed number := by
  have joined : spec.joinTokens 0 (Text.items isFlagSeparator (Text.trim text)) = some value := by
    unfold parse at read
    simp only [parseBits, if_pos flags] at read
    split at read
    · next bits tokens =>
      split at read
      · cases read
        exact tokens
      · cases read
    · cases read
  have zeroNamed : spec.OnlyNamed 0 := fun place bit => by simp at bit
  rw [onlyNamed_joinTokens faithful aliases joined, and_iff_right zeroNamed]

def Gapless (spec : Enumeration) : Prop :=
  ∀ place < 63, hasBit spec.union (place + 1) = true → hasBit spec.union place = true

instance (spec : Enumeration) : Decidable spec.Gapless := inferInstanceAs (Decidable (∀ place < 63, _))

theorem Gapless.hasBit_of_le (gapless : spec.Gapless) (natural : 0 ≤ spec.union) {low high : Nat}
    (below : low ≤ high) (bit : hasBit spec.union high = true) : hasBit spec.union low = true := by
  induction below with
  | refl => exact bit
  | step _ ih => exact ih (gapless _ (Nat.lt_of_succ_lt (lt_of_hasBit natural bit)) bit)

/-- Where the names leave no gap, and only there, the numbers up to that of all their bits have no other bits. -/
theorem gapless_iff (natural : 0 ≤ spec.union) :
    spec.Gapless ↔ ∀ value, Within (0, spec.union) value → spec.OnlyNamed value := by
  constructor
  · intro gapless value inside
    refine onlyNamed_iff.2 fun place bit => ?_
    obtain ⟨high, above, top⟩ := exists_hasBit_of_le inside.1 inside.2 bit
    exact gapless.hasBit_of_le natural above top
  · intro named place _ next
    obtain ⟨single, above, less, bit⟩ := exists_single natural (Nat.le_succ place) next
    exact onlyNamed_iff.1 (named single ⟨above, less⟩) place bit

end Enumeration

end NetProfile
