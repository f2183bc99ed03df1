import NetProfile.Choice
import NetProfile.Proofs.Text.Case
import NetProfile.Proofs.Text.Trim

/-!
The choice among allowed words, stated without the search. A word that is written out is chosen
wherever it stands; otherwise the only word with the given beginning; otherwise the first two such
words are named. A beginning that is enough stays enough when it grows.
-/

namespace NetProfile

def Alike (first second : String) : Prop := Text.lower first = Text.lower second

instance (first second : String) : Decidable (Alike first second) := inferInstanceAs (Decidable (_ = _))

def Begins (input word : String) : Prop := (Text.lower input).toList <+: (Text.lower word).toList

inductive Alone (input : String) : List String → String → Prop
  | entry {before after : List String} {word : String} (begins : Begins input word)
      (others : ∀ other ∈ before ++ after, ¬Begins input other) : Alone input (before ++ word :: after) word

inductive Chosen (allowed : List String) (text : String) : Except Error String → Prop
  | blank (nothing : Text.trim text = "") :
      Chosen allowed text (.error (.invalid text (.notAmong "" allowed)))
  | name {before after : List String} {word : String} (written : Text.trim text ≠ "")
      (place : allowed = before ++ word :: after) (same : Alike word (Text.trim text))
      (first : ∀ other ∈ before, ¬Alike other (Text.trim text)) : Chosen allowed text (.ok word)
  | beginning {word : String} (written : Text.trim text ≠ "")
      (unnamed : ∀ other ∈ allowed, ¬Alike other (Text.trim text))
      (alone : Alone (Text.trim text) allowed word) : Chosen allowed text (.ok word)
  | several {before between after : List String} {first second : String} (written : Text.trim text ≠ "")
      (unnamed : ∀ other ∈ allowed, ¬Alike other (Text.trim text))
      (place : allowed = before ++ first :: (between ++ second :: after))
      (firstBegins : Begins (Text.trim text) first) (secondBegins : Begins (Text.trim text) second)
      (others : ∀ other ∈ before ++ between, ¬Begins (Text.trim text) other) :
      Chosen allowed text
        (.error (.ambiguous (Text.trim text) (.manyAmong (Text.trim text) first second)))
  | nobody (written : Text.trim text ≠ "") (others : ∀ other ∈ allowed, ¬Begins (Text.trim text) other) :
      Chosen allowed text (.error (.invalid (Text.trim text) (.notAmong (Text.trim text) allowed)))

variable {input word : String}

theorem startedBy_iff : startedBy input word = true ↔ Begins input word := by
  rw [startedBy, Text.startsWith, Option.isSome_iff_exists]
  constructor
  · rintro ⟨rest, left⟩
    exact ⟨rest, (Text.dropHead?_eq_some_iff.1 left).symm⟩
  · rintro ⟨rest, whole⟩
    exact ⟨rest, Text.dropHead?_eq_some_iff.2 whole.symm⟩

instance (input word : String) : Decidable (Begins input word) := decidable_of_iff _ startedBy_iff

theorem Alike.begins (same : Alike word input) : Begins input word :=
  ⟨[], by rw [List.append_nil, same]⟩

theorem Begins.ne_empty (begins : Begins input word) (written : input ≠ "") : word ≠ "" := by
  rintro rfl
  have empty := List.prefix_nil.1 begins
  rw [Text.lower, String.toList_ofList, List.map_eq_nil_iff, String.toList_eq_nil_iff] at empty
  exact written empty

/-- A word with a given beginning is this beginning if it is as long. -/
theorem alike_iff_byteLength (begins : Begins input word) :
    Alike word input ↔ Text.byteLength word = Text.byteLength input := by
  constructor
  · intro same
    rw [← Text.byteLength_lower word, same, Text.byteLength_lower]
  · intro length
    obtain ⟨rest, whole⟩ := begins
    rw [← Text.byteLength_lower word, ← Text.byteLength_lower input, Text.byteLength, Text.byteLength,
      Text.utf8Bytes, Text.utf8Bytes, ← whole, List.flatMap_append, List.length_append] at length
    have noBytes : rest.flatMap String.utf8EncodeChar = [] := List.eq_nil_of_length_eq_zero (by omega)
    have empty : rest = [] := by
      cases rest with
      | nil => rfl
      | cons c cs => simp at noBytes
    rw [empty, List.append_nil, String.toList_inj] at whole
    exact whole.symm

section Search

open Candidates

/-- The first word that is written out is found, whatever was found before it. -/
theorem search_name {before after : List String} (same : Alike word input)
    (first : ∀ other ∈ before, ¬Alike other input) (found : Candidates) :
    search input found (before ++ word :: after) = full word := by
  induction before generalizing found with
  | nil =>
    have begins := same.begins
    rw [List.nil_append, search, if_pos (startedBy_iff.2 begins),
      if_pos ((alike_iff_byteLength begins).1 same)]
  | cons next before ih =>
    obtain ⟨other, later⟩ := List.forall_mem_cons.1 first
    rw [List.cons_append, search]
    split
    · next begins =>
      rw [if_neg fun length => other ((alike_iff_byteLength (startedBy_iff.1 begins)).2 length)]
      exact ih later _
    · exact ih later _

/-- Where no word is written out, all words with the beginning are gathered. -/
theorem search_unnamed {allowed : List String} (unnamed : ∀ other ∈ allowed, ¬Alike other input)
    (found : Candidates) : search input found allowed = (allowed.filter (startedBy input)).foldl add found := by
  induction allowed generalizing found with
  | nil => rfl
  | cons next rest ih =>
    obtain ⟨other, later⟩ := List.forall_mem_cons.1 unnamed
    rw [search, List.filter_cons]
    split
    · next begins =>
      rw [if_neg fun length => other ((alike_iff_byteLength (startedBy_iff.1 begins)).2 length)]
      exact ih later _
    · exact ih later _

theorem foldl_add_several (first second : String) (words : List String) :
    words.foldl add (several first second) = several first second := by
  induction words with
  | nil => rfl
  | cons next rest ih => exact ih

end Search

theorem filter_startedBy_eq_nil {words : List String} :
    words.filter (startedBy input) = [] ↔ ∀ other ∈ words, ¬Begins input other := by
  simp only [List.filter_eq_nil_iff, startedBy_iff]

theorem filter_startedBy_cons {words : List String} (begins : Begins input word) :
    (word :: words).filter (startedBy input) = word :: words.filter (startedBy input) :=
  List.filter_cons_of_pos (startedBy_iff.2 begins)

theorem alone_iff {allowed : List String} :
    Alone input allowed word ↔ allowed.filter (startedBy input) = [word] := by
  constructor
  · rintro ⟨begins, others⟩
    have before := filter_startedBy_eq_nil.2 fun other here => others other (List.mem_append_left _ here)
    have after := filter_startedBy_eq_nil.2 fun other here => others other (List.mem_append_right _ here)
    rw [List.filter_append, filter_startedBy_cons begins, before, after, List.nil_append]
  · intro only
    obtain ⟨before, after, rfl, absent, begins, rest⟩ := List.filter_eq_cons_iff.1 only
    refine .entry (startedBy_iff.1 begins) fun other here => ?_
    rcases List.mem_append.1 here with inBefore | inAfter
    · exact fun starts => absent other inBefore (startedBy_iff.2 starts)
    · exact filter_startedBy_eq_nil.1 rest other inAfter

instance (input : String) (allowed : List String) (word : String) : Decidable (Alone input allowed word) :=
  decidable_of_iff _ alone_iff.symm

open Candidates in
theorem choose_of_chosen {allowed : List String} {text : String} {outcome : Except Error String}
    (chosen : Chosen allowed text outcome) : choose allowed text = outcome := by
  unfold choose
  cases chosen with
  | blank nothing => simp only [if_pos nothing]
  | name written place same first => simp only [if_neg written, place, search_name same first]
  | beginning written unnamed alone =>
    simp only [if_neg written, search_unnamed unnamed, alone_iff.1 alone]
    rfl
  | several written unnamed place firstBegins secondBegins others =>
    have front := filter_startedBy_eq_nil.2 fun other here => others other (List.mem_append_left _ here)
    have middle := filter_startedBy_eq_nil.2 fun other here => others other (List.mem_append_right _ here)
    simp only [if_neg written, search_unnamed unnamed]
    rw [place, List.filter_append, filter_startedBy_cons firstBegins, List.filter_append,
      filter_startedBy_cons secondBegins, front, middle]
    simp only [List.nil_append, List.foldl_cons, add, foldl_add_several]
  | nobody written others =>
    have unnamed : ∀ other ∈ allowed, ¬Alike other (Text.trim text) :=
      fun other here same => others other here same.begins
    simp only [if_neg written, search_unnamed unnamed, filter_startedBy_eq_nil.2 others]
    rfl

theorem exists_chosen (allowed : List String) (text : String) : ∃ outcome, Chosen allowed text outcome := by
  rcases Decidable.em (Text.trim text = "") with nothing | written
  · exact ⟨_, .blank nothing⟩
  cases named : allowed.find? (fun word => decide (Alike word (Text.trim text))) with
  | some word =>
    obtain ⟨same, before, after, place, first⟩ := List.find?_eq_some_iff_append.1 named
    refine ⟨_, .name written place (of_decide_eq_true same) fun other here alike => ?_⟩
    simpa [alike] using first other here
  | none =>
    have unnamed : ∀ other ∈ allowed, ¬Alike other (Text.trim text) := by
      simpa using List.find?_eq_none.1 named
    cases begun : allowed.filter (startedBy (Text.trim text)) with
    | nil => exact ⟨_, .nobody written (filter_startedBy_eq_nil.1 begun)⟩
    | cons first rest =>
      cases rest with
      | nil => exact ⟨_, .beginning written unnamed (alone_iff.2 begun)⟩
      | cons second others =>
        obtain ⟨before, tail, rfl, front, firstBegins, more⟩ := List.filter_eq_cons_iff.1 begun
        obtain ⟨between, after, rfl, middle, secondBegins, -⟩ := List.filter_eq_cons_iff.1 more
        refine ⟨_, .several written unnamed rfl (startedBy_iff.1 firstBegins) (startedBy_iff.1 secondBegins)
          fun other here begins => ?_⟩
        rcases List.mem_append.1 here with inFront | inMiddle
        · exact front other inFront (startedBy_iff.2 begins)
        · exact middle other inMiddle (startedBy_iff.2 begins)

theorem isTight_map_toLower (cs : List Char) : Text.IsTight (cs.map Char.toLower) ↔ Text.IsTight cs := by
  have blank : ∀ c : Char, Text.isBlank c.toLower = Text.isBlank c := Text.toLower_congr Text.isBlank (by decide)
  have ends : ∀ found : Option Char, (∀ c, found.map Char.toLower = some c → Text.isBlank c = false) ↔
      ∀ c, found = some c → Text.isBlank c = false := by
    intro found
    cases found <;> simp [blank]
  constructor
  · intro tight
    exact ⟨(ends _).1 (List.head?_map ▸ tight.front), (ends _).1 (List.getLast?_map ▸ tight.back)⟩
  · intro tight
    exact ⟨List.head?_map ▸ (ends _).2 tight.front, List.getLast?_map ▸ (ends _).2 tight.back⟩

/-- A text that goes on from a trimmed one keeps it when it is trimmed itself. -/
theorem begins_trim {longer : String} (trimmed : Text.trim input = input) (written : input ≠ "")
    (begins : Begins input longer) : Begins input (Text.trim longer) ∧ Begins (Text.trim longer) longer := by
  obtain ⟨tail, whole⟩ := begins
  simp only [Text.lower, String.toList_ofList] at whole
  obtain ⟨front, back, parts, frontLower, -⟩ := List.map_eq_append_iff.1 whole.symm
  have tight : Text.IsTight front := by
    rw [← isTight_map_toLower, frontLower, isTight_map_toLower]
    exact Text.trim_eq_self_iff.1 trimmed
  have written : front ≠ [] := by
    rintro rfl
    rw [List.map_nil, eq_comm, List.map_eq_nil_iff, String.toList_eq_nil_iff] at frontLower
    exact written frontLower
  have head : ∀ c, longer.toList.head? = some c → Text.isBlank c = false := by
    intro c first
    rw [parts, List.head?_append_of_ne_nil _ written] at first
    exact tight.front c first
  have kept : (Text.trim longer).toList = front ++ back.rdropWhile Text.isBlank := by
    have cut : longer = String.ofList front ++ String.ofList back := by
      rw [← String.ofList_append, ← parts, String.ofList_toList]
    rw [Text.trim_eq_trimEnd head, cut, Text.trimEnd_append_of_isTight (by rwa [String.toList_ofList]),
      String.toList_append, Text.toList_trimEnd, String.toList_ofList, String.toList_ofList]
  constructor
  · rw [Begins, Text.lower, Text.lower, kept, String.toList_ofList, String.toList_ofList, List.map_append,
      frontLower]
    exact List.prefix_append _ _
  · rw [Begins, Text.lower, Text.lower, kept, parts, String.toList_ofList, String.toList_ofList]
    exact (List.prefix_append_right_inj front).2 (List.rdropWhile_prefix Text.isBlank back) |>.map Char.toLower

theorem choose_of_alone {allowed : List String} {text : String} (written : Text.trim text ≠ "")
    (alone : Alone (Text.trim text) allowed word) : choose allowed text = .ok word := by
  apply choose_of_chosen
  by_cases unnamed : ∀ other ∈ allowed, ¬Alike other (Text.trim text)
  · exact .beginning written unnamed alone
  obtain @⟨before, after, _, begins, others⟩ := alone
  have absent : ∀ other ∈ before, ¬Alike other (Text.trim text) :=
    fun other here same => others other (List.mem_append_left _ here) same.begins
  refine .name written rfl ?_ absent
  simp only [not_forall, not_not] at unnamed
  obtain ⟨named, here, same⟩ := unnamed
  rcases List.mem_append.1 here with front | rest
  · exact absurd same (absent named front)
  · rcases List.mem_cons.1 rest with rfl | back
    · exact same
    · exact absurd same.begins (others named (List.mem_append_right _ back))

/-- A word that is alone with a beginning is alone with every longer one. -/
theorem Alone.longer {allowed : List String} {longer : String} (alone : Alone input allowed word)
    (more : Begins input longer) (begins : Begins longer word) : Alone longer allowed word := by
  obtain ⟨-, others⟩ := alone
  exact .entry begins fun other here starts => others other here (more.trans starts)

/-- What is chosen for a text is what the rules say, and for each text they say just one thing. A text
that begins only one word gives it, and so does every longer text that begins this word. -/
theorem choose_iff_chosen (allowed : List String) (text : String) :
    (∀ outcome, choose allowed text = outcome ↔ Chosen allowed text outcome) ∧
    ∀ word, Text.trim text ≠ "" → Alone (Text.trim text) allowed word →
      choose allowed text = .ok word ∧
      ∀ longer, Begins longer word → (Text.trim text).toList.length ≤ longer.toList.length →
        choose allowed longer = .ok word := by
  refine ⟨fun outcome => ⟨?_, choose_of_chosen⟩, fun word written alone => ⟨choose_of_alone written alone, ?_⟩⟩
  · rintro rfl
    obtain ⟨outcome, chosen⟩ := exists_chosen allowed text
    rwa [choose_of_chosen chosen]
  · intro longer begins length
    have start : Begins (Text.trim text) word := by
      obtain ⟨begins, -⟩ := alone
      exact begins
    have more : Begins (Text.trim text) longer :=
      List.prefix_of_prefix_length_le start begins (by simpa [Text.lower] using length)
    obtain ⟨inner, outer⟩ := begins_trim (Text.trim_trim text) written more
    exact choose_of_alone (inner.ne_empty written) (alone.longer inner (outer.trans begins))

/-- A name is chosen though it begins other words, and three letters or more do for another word. -/
theorem choose_iff_chosen_master :
    let allowed := ["ipv4", "IPv6", "ip", "mac", "master"]
    Chosen allowed " IP " (.ok "ip") ∧ Text.trim "mas " ≠ "" ∧ Alone (Text.trim "mas ") allowed "master" ∧
      choose allowed "mas " = .ok "master" ∧ Begins "MASTe" "master" ∧ choose allowed "MASTe" = .ok "master" := by
  intro allowed
  have named : choose allowed " IP " = .ok "ip" := by decide
  have written : Text.trim "mas " ≠ "" := by decide
  have alone : Alone (Text.trim "mas ") allowed "master" := by decide
  have begins : Begins "MASTe" "master" := by decide
  obtain ⟨found, longer⟩ := (choose_iff_chosen allowed "mas ").2 "master" written alone
  exact ⟨((choose_iff_chosen allowed " IP ").1 _).1 named, written, alone, found, begins,
    longer "MASTe" begins (by decide)⟩

end NetProfile
