import NetProfile.Contract.List
import NetProfile.Proofs.Numeral
import NetProfile.Proofs.Reading
import NetProfile.Proofs.Text.Fields
import NetProfile.Proofs.Text.Trim

/-!
Records are written as words with a space between them, and lists of records with a comma and a
space. Both are cut into the same parts again when no part holds a character that cuts it.
-/

namespace NetProfile.Text

structure IsWord (text : String) : Prop where
  notEmpty : text.toList ≠ []
  clean : ∀ c ∈ text.toList, isBlank c = false ∧ c ≠ ','

instance (text : String) : Decidable (IsWord text) :=
  decidable_of_iff
    (text.toList ≠ [] ∧ (text.toList.all fun c => isBlank c == false && c != ',') = true) <| by
    rw [List.all_eq_true]
    simp only [Bool.and_eq_true, beq_iff_eq, bne_iff_ne]
    exact ⟨fun legal => ⟨legal.1, legal.2⟩, fun word => ⟨word.notEmpty, word.clean⟩⟩

theorem IsWord.isTight {word : String} (whole : IsWord word) : IsTight word.toList :=
  .of_forall fun c here => (whole.clean c here).1

theorem IsWord.append {front back : String} (first : IsWord front)
    (rest : ∀ c ∈ back.toList, isBlank c = false ∧ c ≠ ',') : IsWord (front ++ back) where
  notEmpty := by
    intro empty
    rw [String.toList_append, List.append_eq_nil_iff] at empty
    exact first.notEmpty empty.1
  clean c here := by
    rw [String.toList_append, List.mem_append] at here
    rcases here with before | after
    · exact first.clean c before
    · exact rest c after

theorem isSpaceOrTab_of_not_isBlank {c : Char} (inked : isBlank c = false) : isSpaceOrTab c = false := by
  simp only [isSpaceOrTab, Bool.or_eq_false_iff, beq_eq_false_iff_ne]
  constructor <;>
    · rintro rfl
      exact absurd inked (by decide)

/-- A text without spaces, tabs and commas. Unlike a word it may hold blanks of other kinds. -/
structure IsToken (text : String) : Prop where
  notEmpty : text.toList ≠ []
  clean : ∀ c ∈ text.toList, isSpaceOrTab c = false ∧ c ≠ ','

theorem IsWord.isToken {word : String} (whole : IsWord word) : IsToken word where
  notEmpty := whole.notEmpty
  clean c here := (whole.clean c here).imp_left isSpaceOrTab_of_not_isBlank

theorem IsToken.append {front back : String} (first : IsToken front)
    (rest : ∀ c ∈ back.toList, isSpaceOrTab c = false ∧ c ≠ ',') : IsToken (front ++ back) where
  notEmpty := by simp [first.notEmpty]
  clean c here := by
    rw [String.toList_append, List.mem_append] at here
    exact here.elim (first.clean c) (rest c)

theorem isToken_of_mem_tokens {text part token : String} (cut : part ∈ items isComma text)
    (here : token ∈ tokens part) : IsToken token where
  notEmpty := (mem_items here).1
  clean c inside := by
    obtain ⟨between, noSpace⟩ := (mem_items here).2 c inside
    have noComma := ((mem_items cut).2 c (mem_of_mem_trim between)).2
    exact ⟨noSpace, by simpa [isComma] using noComma⟩

theorem trimEnd_of_getLast?_tokens {text token : String}
    (last : (tokens text).getLast? = some token) : trimEnd token = token := by
  have tight := trim_eq_self_iff.1 (trim_trim text)
  obtain ⟨c, final⟩ : ∃ c, (trim text).toList.getLast? = some c := by
    obtain ⟨written, inside⟩ := mem_items (List.mem_of_getLast? last)
    obtain ⟨d, here⟩ := List.exists_mem_of_ne_nil _ written
    exact ⟨_, List.getLast?_eq_some_getLast (List.ne_nil_of_mem (inside d here).1)⟩
  have inked := tight.back c final
  obtain ⟨item, found, ends⟩ := getLast?_items final (isSpaceOrTab_of_not_isBlank inked)
  obtain rfl : item = token := Option.some.inj (found.symm.trans last)
  rw [trimEnd_eq_self_iff]
  intro d here
  rw [ends, Option.some.injEq] at here
  exact here ▸ inked

theorem isTight_intercalate {glue : String} {words : List String} (all : ∀ word ∈ words, IsWord word) :
    IsTight (String.intercalate glue words).toList ∧
      (words ≠ [] → (String.intercalate glue words).toList ≠ []) := by
  induction words with
  | nil => exact ⟨.nil, fun notEmpty => absurd rfl notEmpty⟩
  | cons word others ih =>
    have first := all word List.mem_cons_self
    cases others with
    | nil => exact ⟨by simpa using first.isTight, fun _ => by simpa using first.notEmpty⟩
    | cons next rest =>
      obtain ⟨tight, notEmpty⟩ := ih fun other here => all other (List.mem_cons_of_mem _ here)
      rw [String.intercalate_cons_cons, String.toList_append, String.toList_append]
      constructor
      · exact first.isTight.append tight first.notEmpty (notEmpty (by simp)) _
      · intro _ empty
        exact first.notEmpty (List.append_eq_nil_iff.1 (List.append_eq_nil_iff.1 empty).1).1

theorem mem_intercalate {glue : String} {words : List String} {c : Char}
    (here : c ∈ (String.intercalate glue words).toList) :
    c ∈ glue.toList ∨ ∃ word ∈ words, c ∈ word.toList := by
  induction words with
  | nil =>
    rw [String.intercalate_nil] at here
    cases here
  | cons word others ih =>
    cases others with
    | nil => exact .inr ⟨word, List.mem_cons_self, by simpa using here⟩
    | cons next rest =>
      rw [String.intercalate_cons_cons, String.toList_append, String.toList_append, List.mem_append,
        List.mem_append] at here
      rcases here with (first | between) | later
      · exact .inr ⟨word, List.mem_cons_self, first⟩
      · exact .inl between
      · refine (ih later).imp_right ?_
        rintro ⟨other, member, inside⟩
        exact ⟨other, List.mem_cons_of_mem _ member, inside⟩

theorem mem_intercalate_of_mem {glue word : String} {words : List String} (here : word ∈ words) {c : Char}
    (inside : c ∈ word.toList) : c ∈ (String.intercalate glue words).toList := by
  induction words with
  | nil => cases here
  | cons first others ih =>
    cases others with
    | nil =>
      rw [List.mem_singleton.1 here] at inside
      simpa using inside
    | cons next rest =>
      rw [String.intercalate_cons_cons, String.toList_append, List.mem_append]
      rcases List.mem_cons.1 here with rfl | later
      · left
        simp [inside]
      · exact .inr (ih later)

theorem mem_line {words : List String} {c : Char} (here : c ∈ (String.intercalate " " words).toList) :
    c = ' ' ∨ ∃ word ∈ words, c ∈ word.toList :=
  (mem_intercalate here).imp_left List.mem_singleton.1

theorem tokens_trim (text : String) : tokens (trim text) = tokens text := by
  rw [tokens, tokens, trim_trim]

theorem tokens_space_append (text : String) : tokens (" " ++ text) = tokens text := by
  rw [tokens, tokens, trim_space_append]

theorem tokens_line {words : List String} (all : ∀ word ∈ words, IsWord word) :
    tokens (String.intercalate " " words) = words := by
  rw [tokens, trim_of_isTight (isTight_intercalate all).1]
  refine items_glued ' ' rfl ?_ (by decide)
  intro word here
  refine ⟨(all word here).notEmpty, fun c inside => ?_⟩
  exact isSpaceOrTab_of_not_isBlank ((all word here).clean c inside).1

/-- Whatever the last word of a line is, the same text stands before it. -/
theorem exists_lead (before : List String) :
    ∃ lead, ∀ last, String.intercalate " " (before ++ [last]) = lead ++ last := by
  induction before with
  | nil => exact ⟨"", fun last => by simp⟩
  | cons word others ih =>
    obtain ⟨lead, whole⟩ := ih
    refine ⟨word ++ " " ++ lead, fun last => ?_⟩
    obtain ⟨next, rest, shape⟩ := List.exists_cons_of_ne_nil
      (List.append_ne_nil_of_right_ne_nil others (List.cons_ne_nil last []))
    rw [List.cons_append, shape, String.intercalate_cons_cons, ← shape, whole]
    simp only [String.append_assoc]

/-- Blanks at the end of a line are lost, and with them those of its last word. -/
theorem tokens_line_concat {first last : String} {middle : List String} (start : IsWord first)
    (inner : ∀ word ∈ middle, IsToken word) (ending : IsToken (trimEnd last)) :
    tokens (String.intercalate " " (first :: (middle ++ [last])))
      = first :: (middle ++ [trimEnd last]) := by
  obtain ⟨lead, whole⟩ := exists_lead (first :: middle)
  simp only [List.cons_append] at whole
  have front : ∀ c, (String.intercalate " " (first :: (middle ++ [last]))).toList.head? = some c →
      isBlank c = false := by
    intro c head
    obtain ⟨d, ds, shape⟩ := List.exists_cons_of_ne_nil start.notEmpty
    obtain ⟨next, rest, more⟩ := List.exists_cons_of_ne_nil
      (List.append_ne_nil_of_right_ne_nil middle (List.cons_ne_nil last []))
    rw [more, String.intercalate_cons_cons] at head
    simp only [String.toList_append, shape, List.cons_append, List.head?_cons, Option.some.injEq] at head
    exact head ▸ (start.clean d (shape ▸ List.mem_cons_self)).1
  have inked : trimEnd last ≠ "" := fun empty => ending.notEmpty (String.toList_eq_nil_iff.2 empty)
  rw [tokens, trim_eq_trimEnd front, whole, trimEnd_append inked, ← whole]
  refine items_glued ' ' rfl ?_ (by decide)
  have each : ∀ word ∈ first :: (middle ++ [trimEnd last]), IsToken word := by
    intro word here
    rcases List.mem_cons.1 here with rfl | later
    · exact start.isToken
    · rcases List.mem_append.1 later with inside | final
      · exact inner word inside
      · rw [List.mem_singleton.1 final]
        exact ending
  exact fun word here => ⟨(each word here).notEmpty, fun c inside => ((each word here).clean c inside).1⟩

theorem line_clean {words : List String} (notEmpty : words ≠ []) (all : ∀ word ∈ words, IsToken word) :
    (String.intercalate " " words).toList ≠ [] ∧ ',' ∉ (String.intercalate " " words).toList := by
  constructor
  · obtain ⟨word, here⟩ := List.exists_mem_of_ne_nil words notEmpty
    obtain ⟨c, inside⟩ := List.exists_mem_of_ne_nil _ (all word here).notEmpty
    exact List.ne_nil_of_mem (mem_intercalate_of_mem here inside)
  · intro comma
    rcases mem_line comma with space | ⟨word, here, inside⟩
    · exact absurd space (by decide)
    · exact ((all word here).clean ',' inside).2 rfl

theorem commaOnly_elem : (commaOnly.elem ·) = isComma := by
  funext c
  simp only [commaOnly, List.elem, isComma]
  split <;> simp_all

theorem intercalate_comma_space (first : String) (others : List String) :
    String.intercalate ", " (first :: others)
      = String.intercalate "," (first :: others.map (" " ++ ·)) := by
  induction others generalizing first with
  | nil => simp
  | cons next rest ih =>
    have sign : ", " = "," ++ " " := rfl
    calc
      String.intercalate ", " (first :: next :: rest)
          = first ++ ", " ++ String.intercalate ", " (next :: rest) := String.intercalate_cons_cons
      _ = first ++ "," ++ (" " ++ String.intercalate "," (next :: rest.map (" " ++ ·))) := by
        rw [ih next, sign]
        simp only [String.append_assoc]
      _ = String.intercalate "," (first :: (next :: rest).map (" " ++ ·)) := by
        rw [List.map_cons, String.intercalate_cons_cons, String.intercalate_cons_append]

/-- The items of a list of records are the records, all but the first with a space in front. -/
theorem items_intercalate_comma_space {first : String} {others : List String}
    (clean : ∀ text ∈ first :: others, text.toList ≠ [] ∧ ',' ∉ text.toList) :
    items isComma (String.intercalate ", " (first :: others)) = first :: others.map (" " ++ ·) := by
  rw [intercalate_comma_space]
  refine items_glued ',' rfl ?_ (by decide)
  intro text here
  rcases List.mem_cons.1 here with rfl | later
  · obtain ⟨notEmpty, absent⟩ := clean text List.mem_cons_self
    exact ⟨notEmpty, isComma_of_not_mem absent⟩
  · obtain ⟨other, member, rfl⟩ := List.mem_map.1 later
    obtain ⟨-, absent⟩ := clean other (List.mem_cons_of_mem _ member)
    refine ⟨by simp, isComma_of_not_mem ?_⟩
    rw [String.toList_append, List.mem_append]
    rintro (space | comma)
    · exact absurd space (by decide)
    · exact absent comma

theorem readItems_of_clean {α : Type} {isSeparator : Char → Bool} {text : String}
    (notEmpty : text.toList ≠ []) (clean : ∀ c ∈ text.toList, isSeparator c = false)
    (read : String → Except Error α) :
    readItems isSeparator read text = (read text).map fun item => [item] := by
  rw [readItems, items_of_clean notEmpty clean, List.mapM_cons]
  cases read text <;> rfl

/-- A list of records is read record by record, if the space in front of one does not matter. -/
theorem readItems_lines {α : Type} {read : String → Except Error α} {lines : List String}
    (clean : ∀ line ∈ lines, line.toList ≠ [] ∧ ',' ∉ line.toList)
    (padded : ∀ line ∈ lines, read (" " ++ line) = read line) :
    readItems isComma read (String.intercalate ", " lines) = lines.mapM read := by
  cases lines with
  | nil => rfl
  | cons first others =>
    have rest : (others.map (" " ++ ·)).mapM read = others.mapM read := by
      rw [List.mapM_map]
      exact Reading.mapM_congr fun line here => padded line (List.mem_cons_of_mem _ here)
    rw [readItems, items_intercalate_comma_space clean, List.mapM_cons, List.mapM_cons, rest]

/-- A list is read back if each of its records is, with and without a space in front. -/
theorem readItems_intercalate {α : Type} {read : String → Except Error α} {write : α → String}
    {values : List α} (clean : ∀ value ∈ values, (write value).toList ≠ [] ∧ ',' ∉ (write value).toList)
    (back : ∀ value ∈ values, read (write value) = .ok value)
    (padded : ∀ value ∈ values, read (" " ++ write value) = .ok value) :
    readItems (commaOnly.elem ·) read (String.intercalate ", " (values.map write)) = .ok values := by
  have same : ∀ line ∈ values.map write, read (" " ++ line) = read line := by
    intro line here
    obtain ⟨value, member, rfl⟩ := List.mem_map.1 here
    rw [padded value member, back value member]
  rw [commaOnly_elem, readItems_lines (List.forall_mem_map.2 clean) same]
  exact Reading.mapM_map_eq_ok back

end NetProfile.Text

namespace NetProfile.Numeral

theorem clean_of_isDigitOf {radix : Nat} {c : Char} (digit : isDigitOf radix c = true) :
    Text.isBlank c = false ∧ c ≠ ',' := by
  refine ⟨not_isBlank_of_isDigitOf digit, ?_⟩
  rintro rfl
  cases digit

theorem isWord_toDigits {radix : Nat} (two : 1 < radix) (small : radix ≤ 16) (n : Nat) :
    Text.IsWord (String.ofList (Nat.toDigits radix n)) where
  notEmpty := by
    rw [String.toList_ofList]
    exact Nat.toDigits_ne_nil
  clean c here := by
    rw [String.toList_ofList] at here
    exact clean_of_isDigitOf (isDigitOf_of_mem_toDigits two small here)

theorem isWord_decimalDigits (n : Nat) : Text.IsWord (decimalDigits n) :=
  isWord_toDigits (by decide) (by decide) n

theorem isWord_hexDigits (n : Nat) : Text.IsWord (hexDigits n) :=
  isWord_toDigits (by decide) (by decide) n

end NetProfile.Numeral
