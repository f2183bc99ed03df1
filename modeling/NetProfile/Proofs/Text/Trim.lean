import Mathlib.Data.List.DropRight
import NetProfile.Text.Blank

/-!
Trimmed texts. Trimming leaves no blank at either end, leaves a text without such blanks as it is,
and therefore does nothing the second time. A text that starts with no blank is trimmed at its end
only.
-/

namespace NetProfile.Text

structure IsTight (cs : List Char) : Prop where
  front : ∀ c, cs.head? = some c → isBlank c = false
  back : ∀ c, cs.getLast? = some c → isBlank c = false

theorem IsTight.nil : IsTight [] where
  front _ first := by cases first
  back _ last := by cases last

theorem IsTight.of_forall {cs : List Char} (clean : ∀ c ∈ cs, isBlank c = false) : IsTight cs where
  front c first := clean c (List.mem_of_head? first)
  back c last := clean c (List.mem_of_getLast? last)

theorem IsTight.append {before after : List Char} (first : IsTight before) (second : IsTight after)
    (start : before ≠ []) (rest : after ≠ []) (between : List Char) :
    IsTight (before ++ between ++ after) where
  front c found := by
    rw [List.append_assoc] at found
    cases before with
    | nil => exact absurd rfl start
    | cons d ds => exact first.front c found
  back c found := by
    rw [List.getLast?_append, List.getLast?_eq_some_getLast rest] at found
    exact second.back c ((List.getLast?_eq_some_getLast rest).trans found)

theorem not_isBlank_head?_dropWhile (cs : List Char) (c : Char)
    (first : (cs.dropWhile isBlank).head? = some c) : isBlank c = false := by
  have clean := List.head?_dropWhile_not isBlank cs
  rw [first] at clean
  exact clean

theorem trimChars_of_isTight {cs : List Char} (tight : IsTight cs) : trimChars cs = cs := by
  have kept : ∀ list : List Char, (∀ c, list.head? = some c → isBlank c = false) →
      list.dropWhile isBlank = list := by
    intro list clean
    cases list with
    | nil => rfl
    | cons c rest => exact List.dropWhile_cons_of_neg (by simp [clean c rfl])
  unfold trimChars
  rw [kept cs tight.front, kept cs.reverse (fun c last => tight.back c (by simpa using last)),
    List.reverse_reverse]

theorem isTight_trimChars (cs : List Char) : IsTight (trimChars cs) where
  front c first := by
    unfold trimChars at first
    generalize inner : cs.dropWhile isBlank = list at first
    -- what is left of the list is a beginning of it, so its first character is that of the list
    have start : (list.reverse.dropWhile isBlank).reverse <+: list := by
      have ending := List.dropWhile_suffix isBlank (l := list.reverse)
      simpa using List.reverse_prefix.2 ending
    obtain ⟨rest, whole⟩ := start
    apply not_isBlank_head?_dropWhile cs c
    rw [inner, ← whole, List.head?_append, first]
    rfl
  back c last := by
    unfold trimChars at last
    rw [List.getLast?_reverse] at last
    exact not_isBlank_head?_dropWhile _ c last

theorem trimChars_trimChars (cs : List Char) : trimChars (trimChars cs) = trimChars cs :=
  trimChars_of_isTight (isTight_trimChars cs)

theorem trim_of_isTight {text : String} (tight : IsTight text.toList) : trim text = text := by
  rw [trim, trimChars_of_isTight tight, String.ofList_toList]

theorem trim_trim (text : String) : trim (trim text) = trim text := by
  unfold trim
  rw [String.toList_ofList, trimChars_trimChars]

theorem toList_ne_nil_of_trim {text : String} (inked : trim text ≠ "") : text.toList ≠ [] := by
  intro empty
  apply inked
  rw [trim, empty]
  rfl

theorem mem_of_mem_trimChars {cs : List Char} {c : Char} (here : c ∈ trimChars cs) : c ∈ cs := by
  unfold trimChars at here
  have inner := (List.dropWhile_suffix isBlank).subset (List.mem_reverse.1 here)
  exact (List.dropWhile_suffix isBlank).subset (List.mem_reverse.1 inner)

theorem mem_trimChars_of_mem {cs : List Char} {c : Char} (here : c ∈ cs) (inked : isBlank c = false) :
    c ∈ trimChars cs := by
  have kept : ∀ list : List Char, c ∈ list → c ∈ list.dropWhile isBlank := by
    intro list member
    rw [← List.takeWhile_append_dropWhile (p := isBlank) (l := list)] at member
    rcases List.mem_append.1 member with blanks | rest
    · rw [List.all_eq_true.1 List.all_takeWhile c blanks] at inked
      cases inked
    · exact rest
  unfold trimChars
  rw [List.mem_reverse]
  exact kept _ (List.mem_reverse.2 (kept cs here))

theorem mem_of_mem_trim {text : String} {c : Char} (here : c ∈ (trim text).toList) : c ∈ text.toList := by
  rw [toList_trim] at here
  exact mem_of_mem_trimChars here

theorem trimChars_append_of_blank {blanks cs : List Char} (blank : ∀ c ∈ blanks, isBlank c = true) :
    trimChars (blanks ++ cs) = trimChars cs := by
  unfold trimChars
  rw [List.dropWhile_append_of_pos blank]

theorem blank_empty : ∀ c ∈ ("" : String).toList, isBlank c = true := fun _ here => nomatch here

theorem blank_space : ∀ c ∈ (" " : String).toList, isBlank c = true :=
  List.forall_mem_singleton.2 (by decide)

theorem trim_space_append (text : String) : trim (" " ++ text) = trim text := by
  rw [trim, String.toList_append]
  exact congrArg String.ofList (trimChars_append_of_blank blank_space)

theorem trimChars_between {front cs back : List Char} (tight : IsTight cs)
    (before : ∀ c ∈ front, isBlank c = true) (after : ∀ c ∈ back, isBlank c = true) :
    trimChars (front ++ cs ++ back) = cs := by
  rw [List.append_assoc, trimChars_append_of_blank before]
  cases cs with
  | nil =>
    have blank : trimChars (back ++ []) = trimChars [] := trimChars_append_of_blank after
    rwa [List.append_nil] at blank
  | cons c rest =>
    have first : isBlank c = false := tight.front c rfl
    have kept : ∀ tail : List Char, (c :: tail).dropWhile isBlank = c :: tail := fun tail =>
      List.dropWhile_cons_of_neg (by simp [first])
    have whole := trimChars_of_isTight tight
    rw [trimChars, kept] at whole
    rw [trimChars, List.cons_append, kept, ← List.cons_append, List.reverse_append,
      List.dropWhile_append_of_pos fun d here => after d (List.mem_reverse.1 here)]
    exact whole

theorem trim_eq_self_iff {text : String} : trim text = text ↔ IsTight text.toList := by
  constructor
  · intro trimmed
    rw [← trimmed, toList_trim]
    exact isTight_trimChars text.toList
  · exact trim_of_isTight

def trimEnd (text : String) : String := String.ofList (text.toList.rdropWhile isBlank)

theorem toList_trimEnd (text : String) : (trimEnd text).toList = text.toList.rdropWhile isBlank :=
  String.toList_ofList

theorem mem_of_mem_trimEnd {text : String} {c : Char} (here : c ∈ (trimEnd text).toList) :
    c ∈ text.toList := by
  rw [toList_trimEnd] at here
  exact (List.rdropWhile_prefix isBlank _).subset here

theorem trimEnd_eq_self_iff {text : String} :
    trimEnd text = text ↔ ∀ c, text.toList.getLast? = some c → isBlank c = false := by
  rw [← String.toList_inj, toList_trimEnd, List.rdropWhile_eq_self_iff]
  constructor
  · intro inked c last
    obtain ⟨front, whole⟩ := List.getLast?_eq_some_iff.1 last
    simpa [whole] using inked (by simp [whole])
  · intro inked notEmpty
    simpa using inked _ (List.getLast?_eq_some_getLast notEmpty)

theorem trimEnd_trimEnd (text : String) : trimEnd (trimEnd text) = trimEnd text := by
  rw [← String.toList_inj, toList_trimEnd, toList_trimEnd, List.rdropWhile_idempotent]

theorem trimEnd_of_isTight {text : String} (tight : IsTight text.toList) : trimEnd text = text :=
  trimEnd_eq_self_iff.2 tight.back

/-- Blanks are dropped from the second text only, unless it is all blank. -/
theorem trimEnd_append {back : String} (inked : trimEnd back ≠ "") (front : String) :
    trimEnd (front ++ back) = front ++ trimEnd back := by
  have left : back.toList.reverse.dropWhile isBlank ≠ [] := by
    intro empty
    apply inked
    rw [trimEnd, List.rdropWhile, empty]
    rfl
  rw [← String.toList_inj, String.toList_append, toList_trimEnd, toList_trimEnd, String.toList_append,
    List.rdropWhile, List.reverse_append, List.dropWhile_append, if_neg (by simpa using left)]
  simp [List.rdropWhile]

theorem trimEnd_append_of_isTight {front : String} (tight : IsTight front.toList) (back : String) :
    trimEnd (front ++ back) = front ++ trimEnd back := by
  by_cases blank : trimEnd back = ""
  · have blanks : ∀ c ∈ back.toList.reverse, isBlank c = true := by
      rw [← String.toList_eq_nil_iff, toList_trimEnd, List.rdropWhile_eq_nil_iff] at blank
      simpa using blank
    have front_kept := trimEnd_of_isTight tight
    rw [← String.toList_inj, toList_trimEnd] at front_kept
    rw [blank, String.append_empty, ← String.toList_inj, toList_trimEnd, String.toList_append,
      List.rdropWhile, List.reverse_append, List.dropWhile_append_of_pos blanks]
    exact front_kept
  · exact trimEnd_append blank front

theorem trim_eq_trimEnd {text : String}
    (front : ∀ c, text.toList.head? = some c → isBlank c = false) : trim text = trimEnd text := by
  have kept : text.toList.dropWhile isBlank = text.toList := by
    cases shape : text.toList with
    | nil => rfl
    | cons c rest =>
      rw [shape] at front
      exact List.dropWhile_cons_of_neg (by simp [front c rfl])
  rw [trim, trimChars, kept]
  rfl

structure IsInked (text : String) : Prop where
  trimmed : trim text = text
  notEmpty : text ≠ ""

instance (text : String) : Decidable (IsInked text) :=
  decidable_of_iff (trim text = text ∧ text ≠ "")
    ⟨fun parts => ⟨parts.1, parts.2⟩, fun inked => ⟨inked.trimmed, inked.notEmpty⟩⟩

theorem IsInked.of_forall {text : String} (notEmpty : text ≠ "")
    (clean : ∀ c ∈ text.toList, isBlank c = false) : IsInked text where
  trimmed := trim_of_isTight (.of_forall clean)
  notEmpty := notEmpty

theorem IsInked.append {front back : String} (first : IsInked front) (second : IsInked back) :
    IsInked (front ++ back) where
  trimmed := by
    have written : ∀ {text : String}, IsInked text → text.toList ≠ [] := fun inked empty =>
      inked.notEmpty (String.toList_eq_nil_iff.1 empty)
    have tight := (trim_eq_self_iff.1 first.trimmed).append (trim_eq_self_iff.1 second.trimmed)
      (written first) (written second) []
    rw [List.append_nil, ← String.toList_append] at tight
    exact trim_of_isTight tight
  notEmpty empty := first.notEmpty (String.append_eq_empty_iff.1 empty).1

end NetProfile.Text
