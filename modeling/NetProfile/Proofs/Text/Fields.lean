import NetProfile.Text.Fields

/-!
Texts that are glued together from parts are cut into these parts again, as long as no part has a
separator in it.
-/

namespace NetProfile.Text

variable {isSeparator : Char → Bool} {separator : Char}

theorem piecesOf_of_clean {piece : List Char} (clean : ∀ c ∈ piece, isSeparator c = false) :
    piecesOf isSeparator piece = [piece] := by
  induction piece with
  | nil => rfl
  | cons c cs ih =>
    have head := clean c List.mem_cons_self
    have tail := ih fun d here => clean d (List.mem_cons_of_mem _ here)
    simp [piecesOf, head, tail]

/-- What stands before a separator is cut by itself, and so is what stands after it. -/
theorem piecesOf_append (splits : isSeparator separator = true) (front rest : List Char) :
    piecesOf isSeparator (front ++ separator :: rest) =
      piecesOf isSeparator front ++ piecesOf isSeparator rest := by
  induction front with
  | nil => simp [piecesOf, splits]
  | cons c cs ih =>
    obtain ⟨piece, others, shape⟩ := List.exists_cons_of_ne_nil (piecesOf_ne_nil isSeparator cs)
    simp only [List.cons_append, piecesOf, ih, shape]
    split <;> rfl

theorem piecesOf_append_cons {piece rest : List Char} (clean : ∀ c ∈ piece, isSeparator c = false)
    (splits : isSeparator separator = true) :
    piecesOf isSeparator (piece ++ separator :: rest) = piece :: piecesOf isSeparator rest := by
  rw [piecesOf_append splits, piecesOf_of_clean clean]
  rfl

theorem piecesOf_map {change : Char → Char} (same : ∀ c, isSeparator (change c) = isSeparator c)
    (cs : List Char) :
    piecesOf isSeparator (cs.map change) = (piecesOf isSeparator cs).map (List.map change) := by
  induction cs with
  | nil => rfl
  | cons c cs ih =>
    obtain ⟨piece, others, shape⟩ := List.exists_cons_of_ne_nil (piecesOf_ne_nil isSeparator cs)
    simp only [List.map_cons, piecesOf, same, ih, shape]
    split <;> rfl

theorem piecesOf_intercalate {pieces : List (List Char)} (notEmpty : pieces ≠ [])
    (clean : ∀ piece ∈ pieces, ∀ c ∈ piece, isSeparator c = false)
    (splits : isSeparator separator = true) :
    piecesOf isSeparator ([separator].intercalate pieces) = pieces := by
  induction pieces with
  | nil => exact absurd rfl notEmpty
  | cons piece others ih =>
    have first := clean piece List.mem_cons_self
    cases others with
    | nil => simpa [List.intercalate] using piecesOf_of_clean first
    | cons next rest =>
      have later := ih (by simp) fun other here => clean other (List.mem_cons_of_mem _ here)
      have glued : [separator].intercalate (piece :: next :: rest)
          = piece ++ separator :: [separator].intercalate (next :: rest) := by
        simp [List.intercalate, List.intersperse]
      rw [glued, piecesOf_append_cons first splits, later]

theorem piecesOf_concat {c : Char} (inside : isSeparator c = false) (front : List Char) :
    ∃ others piece, piecesOf isSeparator (front ++ [c]) = others ++ [piece ++ [c]] := by
  induction front with
  | nil => exact ⟨[], [], by simp [piecesOf, inside]⟩
  | cons d rest ih =>
    obtain ⟨others, piece, pieces⟩ := ih
    rw [List.cons_append, piecesOf, pieces]
    split
    · exact ⟨[] :: others, piece, rfl⟩
    · cases others with
      | nil => exact ⟨[], d :: piece, rfl⟩
      | cons first later => exact ⟨(d :: first) :: later, piece, rfl⟩

theorem mem_of_mem_piecesOf {cs piece : List Char} (here : piece ∈ piecesOf isSeparator cs) {c : Char}
    (inside : c ∈ piece) : c ∈ cs ∧ isSeparator c = false := by
  induction cs generalizing piece with
  | nil =>
    simp only [piecesOf, List.mem_singleton] at here
    subst here
    cases inside
  | cons d rest ih =>
    simp only [piecesOf] at here
    split at here
    · rcases List.mem_cons.1 here with same | later
      · subst same
        cases inside
      · exact ⟨List.mem_cons_of_mem _ (ih later inside).1, (ih later inside).2⟩
    · next notSeparator =>
      split at here
      · next empty => exact absurd empty (piecesOf_ne_nil _ _)
      · next first others found =>
        rcases List.mem_cons.1 here with same | later
        · subst same
          rcases List.mem_cons.1 inside with rfl | deeper
          · exact ⟨List.mem_cons_self, by simpa using notSeparator⟩
          · have known := ih (found ▸ List.mem_cons_self) deeper
            exact ⟨List.mem_cons_of_mem _ known.1, known.2⟩
        · have known := ih (found ▸ List.mem_cons_of_mem _ later) inside
          exact ⟨List.mem_cons_of_mem _ known.1, known.2⟩

theorem mem_piecesOf_of_mem (isSeparator : Char → Bool) {cs : List Char} {c : Char} (here : c ∈ cs) :
    isSeparator c = true ∨ ∃ piece ∈ piecesOf isSeparator cs, c ∈ piece := by
  induction cs with
  | nil => cases here
  | cons d rest ih =>
    simp only [piecesOf]
    split
    · next splits =>
      rcases List.mem_cons.1 here with rfl | later
      · exact .inl splits
      · refine (ih later).imp_right ?_
        rintro ⟨piece, member, inside⟩
        exact ⟨piece, List.mem_cons_of_mem _ member, inside⟩
    · split
      · next empty => exact absurd empty (piecesOf_ne_nil _ _)
      · next first others found =>
        rcases List.mem_cons.1 here with rfl | later
        · exact .inr ⟨c :: first, List.mem_cons_self, List.mem_cons_self⟩
        · refine (ih later).imp_right ?_
          rintro ⟨piece, member, inside⟩
          rw [found] at member
          rcases List.mem_cons.1 member with rfl | other
          · exact ⟨d :: piece, List.mem_cons_self, List.mem_cons_of_mem _ inside⟩
          · exact ⟨piece, List.mem_cons_of_mem _ other, inside⟩

/-- Items are texts of some characters, none of which is a separator. -/
theorem mem_items {text item : String} (here : item ∈ items isSeparator text) :
    item.toList ≠ [] ∧ ∀ c ∈ item.toList, c ∈ text.toList ∧ isSeparator c = false := by
  obtain ⟨piece, member, rfl⟩ := List.mem_map.1 here
  obtain ⟨found, notEmpty⟩ := List.mem_filter.1 member
  rw [String.toList_ofList]
  exact ⟨by simpa using notEmpty, fun c inside => mem_of_mem_piecesOf found inside⟩

theorem getLast?_items {text : String} {c : Char} (last : text.toList.getLast? = some c)
    (inside : isSeparator c = false) :
    ∃ item, (items isSeparator text).getLast? = some item ∧ item.toList.getLast? = some c := by
  obtain ⟨front, whole⟩ := List.getLast?_eq_some_iff.1 last
  obtain ⟨others, piece, pieces⟩ := piecesOf_concat inside front
  refine ⟨String.ofList (piece ++ [c]), ?_, by simp⟩
  rw [items, whole, pieces, List.filter_append, List.map_append]
  simp

theorem isComma_of_not_mem {cs : List Char} (absent : ',' ∉ cs) : ∀ c ∈ cs, isComma c = false := by
  intro c here
  simp only [isComma, beq_eq_false_iff_ne]
  rintro rfl
  exact absent here

theorem items_of_clean {text : String} (notEmpty : text.toList ≠ [])
    (clean : ∀ c ∈ text.toList, isSeparator c = false) : items isSeparator text = [text] := by
  unfold items
  rw [piecesOf_of_clean clean]
  simp [notEmpty]

theorem items_append (separator : Char) {glue : String} (single : glue.toList = [separator])
    (splits : isSeparator separator = true) (first second : String) :
    items isSeparator (first ++ glue ++ second) = items isSeparator first ++ items isSeparator second := by
  have whole : (first ++ glue ++ second).toList = first.toList ++ separator :: second.toList := by
    simp [single]
  rw [items, whole, piecesOf_append splits, List.filter_append, List.map_append]
  rfl

/-- The items of words with a comma and a space between them, if both are separators. -/
theorem items_intercalate_of_clean {words : List String} (comma : isSeparator ',' = true)
    (space : isSeparator ' ' = true)
    (clean : ∀ word ∈ words, word.toList ≠ [] ∧ ∀ c ∈ word.toList, isSeparator c = false) :
    items isSeparator (String.intercalate ", " words) = words := by
  have single : ∀ word ∈ words, items isSeparator word = [word] := fun word here =>
    items_of_clean (clean word here).1 (clean word here).2
  clear clean
  induction words with
  | nil => rfl
  | cons word others ih =>
    obtain ⟨first, later⟩ := List.forall_mem_cons.1 single
    cases others with
    | nil => rwa [String.intercalate_singleton]
    | cons next rest =>
      have glued : String.intercalate ", " (word :: next :: rest)
          = word ++ "," ++ ("" ++ " " ++ String.intercalate ", " (next :: rest)) := by
        rw [String.intercalate_cons_cons, String.empty_append]
        have sign : ", " = "," ++ " " := rfl
        rw [sign]
        simp only [String.append_assoc]
      rw [glued, items_append ',' rfl comma, items_append ' ' rfl space, first, ih later]
      rfl

/-- Texts that are glued by one separator are the pieces of the whole. They may be empty. -/
theorem pieces_glued (separator : Char) {glue : String} (single : glue.toList = [separator])
    {fields : List String} (notEmpty : fields ≠ [])
    (clean : ∀ field ∈ fields, ∀ c ∈ field.toList, isSeparator c = false)
    (splits : isSeparator separator = true) :
    pieces isSeparator (String.intercalate glue fields) = fields := by
  have cut : piecesOf isSeparator (String.intercalate glue fields).toList = fields.map String.toList := by
    rw [String.toList_intercalate, single]
    refine piecesOf_intercalate (fun empty => notEmpty (List.map_eq_nil_iff.1 empty)) ?_ splits
    intro piece here
    obtain ⟨field, member, rfl⟩ := List.mem_map.1 here
    exact clean field member
  rw [pieces, cut, List.map_map]
  simp [Function.comp_def]

theorem items_eq_filter (text : String) : items isSeparator text = (pieces isSeparator text).filter (· ≠ "") := by
  have empty : ∀ cs, (String.ofList cs ≠ "") ↔ cs ≠ [] := fun cs => by
    rw [Ne, Ne, ← String.toList_eq_nil_iff, String.toList_ofList]
  rw [items, pieces, List.filter_map]
  refine congrArg (List.map _) (List.filter_congr fun cs _ => ?_)
  simp only [Function.comp_apply, empty]

/-- Of the texts that are glued by one separator, the empty ones are no items of the whole. -/
theorem items_glued_eq_filter (separator : Char) {glue : String} (single : glue.toList = [separator])
    {fields : List String} (clean : ∀ field ∈ fields, ∀ c ∈ field.toList, isSeparator c = false)
    (splits : isSeparator separator = true) :
    items isSeparator (String.intercalate glue fields) = fields.filter (· ≠ "") := by
  cases fields with
  | nil => rfl
  | cons first others => rw [items_eq_filter, pieces_glued separator single (by simp) clean splits]

theorem items_glued (separator : Char) {glue : String} (single : glue.toList = [separator])
    {words : List String}
    (clean : ∀ word ∈ words, word.toList ≠ [] ∧ ∀ c ∈ word.toList, isSeparator c = false)
    (splits : isSeparator separator = true) :
    items isSeparator (String.intercalate glue words) = words := by
  rw [items_glued_eq_filter separator single (fun word here => (clean word here).2) splits]
  apply List.filter_eq_self.2
  intro word here
  simpa [String.toList_eq_nil_iff] using (clean word here).1

theorem mem_glued {pieces : List (List Char)} {c : Char}
    (here : c ∈ [separator].intercalate pieces) : c = separator ∨ ∃ piece ∈ pieces, c ∈ piece := by
  induction pieces with
  | nil => cases here
  | cons piece others ih =>
    cases others with
    | nil => exact .inr ⟨piece, List.mem_cons_self, by simpa [List.intercalate] using here⟩
    | cons next rest =>
      rw [List.intercalate_cons_cons] at here
      rcases List.mem_append.1 here with front | later
      · rcases List.mem_append.1 front with inside | between
        · exact .inr ⟨piece, List.mem_cons_self, inside⟩
        · exact .inl (List.mem_singleton.1 between)
      · refine (ih later).imp_right ?_
        rintro ⟨other, member, inside⟩
        exact ⟨other, List.mem_cons_of_mem _ member, inside⟩

theorem mem_glued_of_mem {pieces : List (List Char)} {piece : List Char}
    (here : piece ∈ pieces) {c : Char} (inside : c ∈ piece) : c ∈ [separator].intercalate pieces := by
  induction pieces with
  | nil => cases here
  | cons first others ih =>
    cases others with
    | nil =>
      rw [List.mem_singleton.1 here] at inside
      simpa [List.intercalate] using inside
    | cons next rest =>
      rw [List.intercalate_cons_cons, List.mem_append, List.mem_append]
      rcases List.mem_cons.1 here with rfl | later
      · exact .inl (.inl inside)
      · exact .inr (ih later)

theorem separator_mem_glued {pieces : List (List Char)} (two : 2 ≤ pieces.length) :
    separator ∈ [separator].intercalate pieces := by
  match pieces, two with
  | first :: next :: rest, _ =>
    rw [List.intercalate_cons_cons]
    simp

theorem intercalate_piecesOf (separator : Char) (cs : List Char) :
    [separator].intercalate (piecesOf (· == separator) cs) = cs := by
  induction cs with
  | nil => rfl
  | cons c cs ih =>
    obtain ⟨piece, others, shape⟩ := List.exists_cons_of_ne_nil (piecesOf_ne_nil (· == separator) cs)
    rw [shape] at ih
    rw [piecesOf, shape]
    split
    · next splits =>
      rw [List.intercalate_cons_cons, ih, beq_iff_eq.1 splits]
      rfl
    · rw [← ih]
      cases others with
      | nil => simp
      | cons next rest => simp only [List.intercalate_cons_cons, List.cons_append]

theorem glued_pieces (separator : Char) {glue : String} (single : glue.toList = [separator])
    (text : String) : String.intercalate glue (pieces (· == separator) text) = text := by
  rw [← String.toList_inj, String.toList_intercalate, single, pieces, List.map_map]
  have same : String.toList ∘ String.ofList = id := funext fun cs => String.toList_ofList
  rw [same, List.map_id, intercalate_piecesOf]

theorem mem_pieces {text piece : String} (here : piece ∈ pieces isSeparator text) {c : Char}
    (inside : c ∈ piece.toList) : c ∈ text.toList ∧ isSeparator c = false := by
  obtain ⟨cs, member, rfl⟩ := List.mem_map.1 here
  rw [String.toList_ofList] at inside
  exact mem_of_mem_piecesOf member inside

/-- The pieces of a text are the parts without a separator that it is glued together from. -/
theorem pieces_eq_iff (separator : Char) {glue : String} (single : glue.toList = [separator])
    {text : String} {parts : List String} :
    pieces (· == separator) text = parts ↔
      parts ≠ [] ∧ text = String.intercalate glue parts ∧ ∀ part ∈ parts, separator ∉ part.toList := by
  constructor
  · rintro rfl
    refine ⟨?_, (glued_pieces separator single text).symm, fun part here inside => ?_⟩
    · rw [pieces, Ne, List.map_eq_nil_iff]
      exact piecesOf_ne_nil _ _
    · simpa using (mem_pieces here inside).2
  · rintro ⟨notEmpty, rfl, clean⟩
    refine pieces_glued separator single notEmpty (fun part here c inside => ?_) (beq_self_eq_true separator)
    rw [beq_eq_false_iff_ne]
    rintro rfl
    exact clean part here inside

theorem pieces_eq_pair_iff (separator : Char) {glue : String} (single : glue.toList = [separator])
    {text before after : String} :
    pieces (· == separator) text = [before, after] ↔
      text = before ++ glue ++ after ∧ separator ∉ before.toList ∧ separator ∉ after.toList := by
  rw [pieces_eq_iff separator single]
  simp

inductive Spread (isSeparator : Char → Bool) : List Char → List (List Char) → Prop
  | nil : Spread isSeparator [] []
  | separator {c : Char} {cs : List Char} {words : List (List Char)} (splits : isSeparator c = true)
      (rest : Spread isSeparator cs words) : Spread isSeparator (c :: cs) words
  | word {word cs : List Char} {words : List (List Char)} (notEmpty : word ≠ [])
      (clean : ∀ c ∈ word, isSeparator c = false) (stop : ∀ c, cs.head? = some c → isSeparator c = true)
      (rest : Spread isSeparator cs words) : Spread isSeparator (word ++ cs) (word :: words)

theorem Spread.filter_piecesOf {cs : List Char} {words : List (List Char)} (spread : Spread isSeparator cs words) :
    (piecesOf isSeparator cs).filter (· ≠ []) = words := by
  induction spread with
  | nil => rfl
  | separator splits rest ih => simpa [piecesOf, splits] using ih
  | @word word cs words notEmpty clean stop rest ih =>
    cases cs with
    | nil =>
      rw [List.append_nil, piecesOf_of_clean clean]
      simpa [notEmpty, piecesOf] using ih
    | cons c cs =>
      have splits := stop c rfl
      rw [piecesOf_append_cons clean splits, List.filter_cons_of_pos (by simpa using notEmpty)]
      simpa [piecesOf, splits] using ih

theorem exists_spread (isSeparator : Char → Bool) (cs : List Char) : ∃ words, Spread isSeparator cs words := by
  induction cs with
  | nil => exact ⟨[], .nil⟩
  | cons c cs ih =>
    obtain ⟨words, spread⟩ := ih
    cases splits : isSeparator c with
    | true => exact ⟨words, .separator splits spread⟩
    | false =>
      cases spread with
      | nil => exact ⟨_, .word (List.cons_ne_nil c []) (by simpa using splits) (by simp) .nil⟩
      | @separator d ds _ next rest =>
        exact ⟨_, .word (List.cons_ne_nil c []) (by simpa using splits) (by simpa using next) (.separator next rest)⟩
      | @word word cs words notEmpty clean stop rest =>
        -- the word starts one character earlier
        exact ⟨_, .word (List.cons_ne_nil c word) (List.forall_mem_cons.2 ⟨splits, clean⟩) stop rest⟩

theorem spread_iff {cs : List Char} {words : List (List Char)} :
    Spread isSeparator cs words ↔ (piecesOf isSeparator cs).filter (· ≠ []) = words := by
  refine ⟨Spread.filter_piecesOf, ?_⟩
  rintro rfl
  obtain ⟨words, spread⟩ := exists_spread isSeparator cs
  rwa [spread.filter_piecesOf]

theorem Spread.mem_iff {cs : List Char} {words : List (List Char)}
    (spread : Spread isSeparator cs words) {c : Char} (inside : isSeparator c = false) :
    c ∈ cs ↔ ∃ word ∈ words, c ∈ word := by
  induction spread with
  | nil => simp
  | @separator d ds words splits rest ih =>
    have different : c ≠ d := by
      rintro rfl
      rw [splits] at inside
      cases inside
    rw [List.mem_cons, ih, or_iff_right different]
  | word notEmpty clean stop rest ih => simp [List.mem_append, ih]

theorem cutOnceOf_append {before after : List Char} (absent : separator ∉ before) :
    cutOnceOf separator (before ++ separator :: after) = some (before, after) := by
  induction before with
  | nil => simp [cutOnceOf]
  | cons c cs ih =>
    have different : c ≠ separator := fun same => absent (same ▸ List.mem_cons_self)
    have tail := ih fun here => absent (List.mem_cons_of_mem _ here)
    simp [cutOnceOf, different, tail]

theorem cutOnceOf_eq_some {cs before after : List Char}
    (cut : cutOnceOf separator cs = some (before, after)) :
    cs = before ++ separator :: after ∧ separator ∉ before := by
  induction cs generalizing before with
  | nil => cases cut
  | cons c cs ih =>
    simp only [cutOnceOf] at cut
    split at cut
    · next same =>
      cases cut
      exact ⟨by rw [same]; rfl, List.not_mem_nil⟩
    · next different =>
      obtain ⟨⟨front, back⟩, found, same⟩ := Option.map_eq_some_iff.1 cut
      cases same
      obtain ⟨glued, absent⟩ := ih found
      refine ⟨by rw [glued]; rfl, fun here => ?_⟩
      rcases List.mem_cons.1 here with equal | later
      · exact different equal.symm
      · exact absent later

theorem cutOnce_eq_some_iff {text before after : String} :
    cutOnce separator text = some (before, after) ↔
      text.toList = before.toList ++ separator :: after.toList ∧ separator ∉ before.toList := by
  unfold cutOnce
  constructor
  · intro cut
    obtain ⟨⟨front, back⟩, found, same⟩ := Option.map_eq_some_iff.1 cut
    cases same
    simpa using cutOnceOf_eq_some found
  · rintro ⟨glued, absent⟩
    rw [glued, cutOnceOf_append absent]
    simp

theorem stripStart?_eq_some_iff {head text rest : String} :
    stripStart? head text = some rest ↔ text = head ++ rest := by
  unfold stripStart?
  rw [Option.map_eq_some_iff]
  constructor
  · rintro ⟨tail, found, rfl⟩
    have ending : (String.ofList tail).toList = tail := String.toList_ofList
    rw [← String.toList_inj, String.toList_append, ending, dropHead?_eq_some_iff.1 found]
  · rintro rfl
    exact ⟨rest.toList, dropHead?_eq_some_iff.2 String.toList_append, String.ofList_toList⟩

end NetProfile.Text
