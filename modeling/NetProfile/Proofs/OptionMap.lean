import Mathlib.Data.List.Nodup
import NetProfile.OptionMap
import NetProfile.Proofs.Dict
import NetProfile.Proofs.MergePolicy
import NetProfile.Proofs.Net.Address
import NetProfile.Proofs.Text.Words

/-!
Maps of options are read back from their texts. A pair gets into a map only as a text between two
commas, trimmed on both sides of the first sign of equality. Its key and the form in which its value
is shown therefore never hold what would cut the text of the map elsewhere.
-/

namespace NetProfile

structure Text.IsField (text : String) : Prop where
  trimmed : Text.trim text = text
  noComma : ',' ∉ text.toList

instance (text : String) : Decidable (Text.IsField text) :=
  decidable_of_iff (Text.trim text = text ∧ ',' ∉ text.toList)
    ⟨fun parts => ⟨parts.1, parts.2⟩, fun field => ⟨field.trimmed, field.noComma⟩⟩

theorem Text.isField_trim {text : String} (noComma : ',' ∉ text.toList) :
    Text.IsField (Text.trim text) where
  trimmed := Text.trim_trim text
  noComma comma := noComma (Text.mem_of_mem_trim comma)

namespace OptionRule

def isTargetSeparator (c : Char) : Bool := c == ' ' || c == ','

theorem isWord_of_readTarget {part target : String} (read : readTarget part = .ok target)
    (notEmpty : part.toList ≠ []) : Text.IsWord target ∧ readTarget target = .ok target := by
  obtain ⟨address, found, same⟩ := Reading.map_eq_ok read
  subst same
  refine ⟨⟨notEmpty, fun c here => ?_⟩, read⟩
  unfold Address.read at found
  split at found
  · next inner parsed =>
    have stands := Address.isAddressChar_of_ofFamily? parsed here
    refine ⟨not_isBlank_of_isAddressChar stands, ?_⟩
    rintro rfl
    exact absurd stands (by decide)
  · cases found

theorem shown_targets {targets : List String} (words : ∀ target ∈ targets, Text.IsWord target) :
    bond.shown "arp_ip_target" (String.intercalate "," targets) = String.intercalate " " targets := by
  have spaced : ∀ target : String, Text.IsWord target →
      target.toList.map (fun c => if c = ',' then ' ' else c) = target.toList := by
    intro target word
    have same : ∀ c ∈ target.toList, (if c = ',' then ' ' else c) = id c := fun c here =>
      if_neg (word.clean c here).2
    rw [List.map_congr_left same, List.map_id]
  rw [shown, if_pos ⟨rfl, rfl⟩, ← String.toList_inj, String.toList_ofList]
  induction targets with
  | nil => rfl
  | cons target others ih =>
    have first := spaced target (words target List.mem_cons_self)
    have later := ih fun other here => words other (List.mem_cons_of_mem _ here)
    cases others with
    | nil => simpa using first
    | cons next rest =>
      rw [String.intercalate_cons_cons, String.intercalate_cons_cons]
      simp only [String.toList_append, List.map_append, first, later]
      rfl

theorem check_shown_targets {text value : String} (checked : bondValue "arp_ip_target" text = .ok value) :
    Text.IsField (bond.shown "arp_ip_target" value) ∧
      bondValue "arp_ip_target" (bond.shown "arp_ip_target" value) = .ok value := by
  obtain ⟨targets, read, checked⟩ := Reading.bind_eq_ok checked
  cases checked
  have each : ∀ target ∈ targets, Text.IsWord target ∧ readTarget target = .ok target := by
    intro target here
    obtain ⟨part, member, found⟩ := Reading.mem_of_mapM_eq_ok read here
    exact isWord_of_readTarget found (Text.mem_items member).1
  have words : ∀ target ∈ targets, Text.IsWord target := fun target here => (each target here).1
  rw [shown_targets words]
  have cut : Text.items isTargetSeparator (String.intercalate " " targets) = targets := by
    refine Text.items_glued ' ' rfl ?_ rfl
    intro target here
    refine ⟨(words target here).notEmpty, fun c inside => ?_⟩
    obtain ⟨inked, noComma⟩ := (words target here).clean c inside
    have noSpace : c ≠ ' ' := by
      rintro rfl
      exact absurd inked (by decide)
    simp [isTargetSeparator, noSpace, noComma]
  have again : readItems isTargetSeparator readTarget (String.intercalate " " targets) = .ok targets := by
    have all : (targets.map id).mapM readTarget = .ok targets :=
      Reading.mapM_map_eq_ok fun target here => (each target here).2
    rw [List.map_id] at all
    rw [readItems, cut, all]
  constructor
  · refine ⟨Text.trim_of_isTight (Text.isTight_intercalate words).1, fun comma => ?_⟩
    rcases Text.mem_line comma with space | ⟨target, here, inside⟩
    · exact absurd space (by decide)
    · exact absurd rfl ((words target here).clean ',' inside).2
  · show (do
      let targets ← readItems isTargetSeparator readTarget (String.intercalate " " targets)
      .ok (String.intercalate "," targets)) = _
    rw [again]
    rfl

theorem isField_of_bondModes : ∀ mode ∈ bondModes, Text.IsField mode := by decide

theorem bondValue_mode {mode : String} (known : mode ∈ bondModes) : bondValue "mode" mode = .ok mode := by
  simp only [bondValue, if_true, if_pos known]

theorem mem_of_bondValue_mode {text value : String} (checked : bondValue "mode" text = .ok value) :
    value ∈ bondModes := by
  unfold bondValue at checked
  rw [if_pos rfl] at checked
  split at checked
  · next known =>
    cases checked
    exact known
  · split at checked
    · next mode found =>
      cases checked
      obtain ⟨index, -, located⟩ := Option.bind_eq_some_iff.1 found
      exact List.mem_of_getElem? located
    · cases checked

/-- What a rule keeps is shown as a text between commas, and accepted again in that form. -/
theorem check_shown {rule : OptionRule} {key text value : String} (field : Text.IsField text)
    (checked : rule.check key text = .ok value) :
    Text.IsField (rule.shown key value) ∧ rule.check key (rule.shown key value) = .ok value := by
  -- but for the targets and the mode of bonds, a value is kept and shown as it was read
  have asRead : value = text → rule.shown key value = value →
      Text.IsField (rule.shown key value) ∧ rule.check key (rule.shown key value) = .ok value := by
    rintro rfl shown
    rw [shown]
    exact ⟨field, checked⟩
  cases rule with
  | free =>
    cases checked
    exact asRead rfl (if_neg (by simp))
  | nonEmpty =>
    refine asRead ?_ (if_neg (by simp))
    simp only [check] at checked
    split at checked <;> cases checked
    rfl
  | short =>
    refine asRead ?_ (if_neg (by simp))
    simp only [check] at checked
    split at checked <;> cases checked
    rfl
  | bond =>
    by_cases targets : key = "arp_ip_target"
    · subst targets
      exact check_shown_targets checked
    · have shown : bond.shown key value = value := if_neg fun both => targets both.2
      by_cases mode : key = "mode"
      · subst mode
        have known := mem_of_bondValue_mode checked
        rw [shown]
        exact ⟨isField_of_bondModes value known, bondValue_mode known⟩
      · refine asRead ?_ shown
        simp only [check, bondValue, if_neg mode, if_neg targets] at checked
        split at checked <;> cases checked
        rfl

end OptionRule

namespace OptionMap

def pairText (spec : OptionMap) (pair : String × String) : String :=
  pair.1 ++ (if spec.spaced then " = " else "=") ++ spec.rule.shown pair.1 pair.2

theorem format_eq (spec : OptionMap) (map : Dict String) :
    spec.format map
      = String.intercalate (if spec.spaced then ", " else ",") (map.entries.map spec.pairText) := rfl

/-- Keys that stand in front of a sign of equality and are not taken for another key. -/
structure IsKey (spec : OptionMap) (key : String) : Prop where
  field : Text.IsField key
  noSign : '=' ∉ key.toList
  resolves : spec.resolve key = .ok key

instance (spec : OptionMap) (key : String) : Decidable (spec.IsKey key) :=
  decidable_of_iff (Text.IsField key ∧ '=' ∉ key.toList ∧ spec.resolve key = .ok key)
    ⟨fun parts => ⟨parts.1, parts.2.1, parts.2.2⟩,
      fun isKey => ⟨isKey.field, isKey.noSign, isKey.resolves⟩⟩

def Sound (spec : OptionMap) : Prop := ∀ key ∈ spec.keys.getD [], spec.IsKey key

instance (spec : OptionMap) : Decidable spec.Sound :=
  inferInstanceAs (Decidable (∀ key ∈ spec.keys.getD [], _))

structure Keeps (spec : OptionMap) (pair : String × String) : Prop where
  key : spec.IsKey pair.1
  shown : Text.IsField (spec.rule.shown pair.1 pair.2)
  checks : spec.rule.check pair.1 (spec.rule.shown pair.1 pair.2) = .ok pair.2

theorem isKey_of_resolve {spec : OptionMap} (sound : spec.Sound) {text key : String}
    (field : Text.IsField text) (noSign : '=' ∉ text.toList) (resolved : spec.resolve text = .ok key) :
    spec.IsKey key := by
  unfold resolve at resolved
  split at resolved
  · next keys given =>
    apply sound
    rw [given]
    exact choose_mem resolved
  · next free =>
    cases resolved
    exact ⟨field, noSign, by simp only [resolve, free]⟩

theorem keeps_of_readPair {spec : OptionMap} (sound : spec.Sound) {item : String}
    {pair : String × String} (noComma : ',' ∉ item.toList) (read : spec.readPair item = .ok pair) :
    spec.Keeps pair := by
  unfold readPair at read
  split at read
  · cases read
  · next before after cut =>
    obtain ⟨key, resolved, read⟩ := Reading.bind_eq_ok read
    obtain ⟨value, checked, read⟩ := Reading.bind_eq_ok read
    cases read
    obtain ⟨whole, noSign⟩ := Text.cutOnce_eq_some_iff.1 cut
    rw [whole, List.mem_append, List.mem_cons] at noComma
    have left : Text.IsField (Text.trim before) := Text.isField_trim fun comma => noComma (.inl comma)
    have right : Text.IsField (Text.trim after) :=
      Text.isField_trim fun comma => noComma (.inr (.inr comma))
    obtain ⟨shown, checks⟩ := OptionRule.check_shown right checked
    refine ⟨isKey_of_resolve sound left (fun sign => ?_) resolved, shown, checks⟩
    exact noSign (Text.mem_of_mem_trim sign)

theorem readPair_of_cut {spec : OptionMap} {pair : String × String} (keeps : spec.Keeps pair)
    {item : String} (before after : String) (cut : Text.cutOnce '=' item = some (before, after))
    (key : Text.trim before = pair.1) (value : Text.trim after = spec.rule.shown pair.1 pair.2) :
    spec.readPair item = .ok pair := by
  unfold readPair
  simp only [cut, key, value, keeps.key.resolves, bind, Except.bind, keeps.checks]

theorem isTight_of_isField {text : String} (field : Text.IsField text) : Text.IsTight text.toList :=
  Text.trim_eq_self_iff.1 field.trimmed

theorem readPair_pairText {spec : OptionMap} {pair : String × String} (keeps : spec.Keeps pair)
    {front : String} (blank : ∀ c ∈ front.toList, Text.isBlank c = true) :
    spec.readPair (front ++ spec.pairText pair) = .ok pair := by
  -- blanks around the key and in front of the value are trimmed off again
  have padded : ∀ {text before after : String}, Text.IsField text →
      (∀ c ∈ before.toList, Text.isBlank c = true) → (∀ c ∈ after.toList, Text.isBlank c = true) →
      Text.trim (before ++ text ++ after) = text := by
    intro text before after field first last
    rw [Text.trim, String.toList_append, String.toList_append,
      Text.trimChars_between (isTight_of_isField field) first last, String.ofList_toList]
  have noSign : '=' ∉ front.toList := fun sign => absurd (blank '=' sign) (by decide)
  by_cases spaced : spec.spaced = true
  · refine readPair_of_cut keeps (front ++ pair.1 ++ " ")
      (" " ++ spec.rule.shown pair.1 pair.2 ++ "") (Text.cutOnce_eq_some_iff.2 ⟨?_, ?_⟩)
      (padded keeps.key.field blank Text.blank_space)
      (padded keeps.shown Text.blank_space Text.blank_empty)
    · simp [pairText, spaced]
    · simpa [noSign] using keeps.key.noSign
  · refine readPair_of_cut keeps (front ++ pair.1 ++ "")
      ("" ++ spec.rule.shown pair.1 pair.2 ++ "") (Text.cutOnce_eq_some_iff.2 ⟨?_, ?_⟩)
      (padded keeps.key.field blank Text.blank_empty)
      (padded keeps.shown Text.blank_empty Text.blank_empty)
    · simp [pairText, spaced]
    · simpa [noSign] using keeps.key.noSign

theorem pairText_clean {spec : OptionMap} {pair : String × String} (keeps : spec.Keeps pair) :
    (spec.pairText pair).toList ≠ [] ∧ ',' ∉ (spec.pairText pair).toList := by
  have key := keeps.key.field.noComma
  have value := keeps.shown.noComma
  unfold pairText
  constructor
  · split <;> simp
  · split <;> simp [key, value]

theorem parse_format {spec : OptionMap} {map : Dict String} (keeps : ∀ pair ∈ map.entries, spec.Keeps pair) :
    spec.parse (spec.format map) = .ok map.entries := by
  have back : ∀ pair ∈ map.entries, spec.readPair (spec.pairText pair) = .ok pair := by
    intro pair here
    have whole := readPair_pairText (keeps pair here) Text.blank_empty
    rwa [String.empty_append] at whole
  have clean := fun pair here => pairText_clean (keeps pair here)
  rw [parse, format_eq]
  by_cases spaced : spec.spaced = true
  · rw [if_pos spaced, ← Text.commaOnly_elem]
    exact Text.readItems_intercalate clean back fun pair here =>
      readPair_pairText (keeps pair here) Text.blank_space
  · have cut : Text.items Text.isComma (String.intercalate "," (map.entries.map spec.pairText))
        = map.entries.map spec.pairText := by
      refine Text.items_glued ',' rfl ?_ (by decide)
      intro text here
      obtain ⟨pair, member, rfl⟩ := List.mem_map.1 here
      exact ⟨(clean pair member).1, Text.isComma_of_not_mem (clean pair member).2⟩
    rw [if_neg spaced, readItems, cut]
    exact Reading.mapM_map_eq_ok back

theorem add_format {spec : OptionMap} {map : Dict String} (keeps : ∀ pair ∈ map.entries, spec.Keeps pair) :
    spec.add .empty (spec.format map) = .ok map := by
  unfold add
  rw [parse_format keeps]
  exact congrArg Except.ok (Dict.foldl_insert_empty map)

/-- What a map holds after an addition was there before or was read from a part of the text. -/
theorem mem_of_add {spec : OptionMap} {held after : Dict String} {text : String}
    (added : spec.add held text = .ok after) {pair : String × String} (here : pair ∈ after.entries) :
    pair ∈ held.entries ∨ ∃ item ∈ Text.items Text.isComma text, spec.readPair item = .ok pair := by
  obtain ⟨pairs, read, added⟩ := Reading.bind_eq_ok added
  cases added
  refine (inside_of_foldl (fun pair (dict : Dict String) => pair ∈ dict.entries)
    (fun _ _ _ => Dict.mem_insert) here).imp_right fun new => ?_
  exact Reading.mem_of_mapM_eq_ok read new

theorem mem_of_remove {spec : OptionMap} {held left : Dict String} {text : String}
    (removed : spec.remove held text = .ok left) {pair : String × String} (here : pair ∈ left.entries) :
    pair ∈ held.entries := by
  obtain ⟨keys, -, removed⟩ := Reading.bind_eq_ok removed
  cases removed
  exact Dict.mem_of_mem_foldl_erase here

inductive Call where
  | add (text : String)
  | remove (text : String)

def call (spec : OptionMap) (map : Dict String) : Call → Dict String
  | .add text => (spec.add map text).toOption.getD map
  | .remove text => (spec.remove map text).toOption.getD map

def built (spec : OptionMap) (calls : List Call) : Dict String := calls.foldl spec.call .empty

theorem keeps_call {spec : OptionMap} (sound : spec.Sound) {map : Dict String}
    (keeps : ∀ pair ∈ map.entries, spec.Keeps pair) (request : Call) :
    ∀ pair ∈ (spec.call map request).entries, spec.Keeps pair := by
  intro pair here
  cases request with
  | add text =>
    cases added : spec.add map text with
    | error error =>
      rw [call, added] at here
      exact keeps pair here
    | ok after =>
      rw [call, added] at here
      rcases mem_of_add added here with earlier | ⟨item, member, read⟩
      · exact keeps pair earlier
      · refine keeps_of_readPair sound (fun comma => ?_) read
        exact absurd ((Text.mem_items member).2 ',' comma).2 (by decide)
  | remove text =>
    cases removed : spec.remove map text with
    | error error =>
      rw [call, removed] at here
      exact keeps pair here
    | ok left =>
      rw [call, removed] at here
      exact keeps pair (mem_of_remove removed here)

theorem keeps_built {spec : OptionMap} (sound : spec.Sound) (calls : List Call) :
    ∀ pair ∈ (spec.built calls).entries, spec.Keeps pair := by
  have run : ∀ (rest : List Call) (map : Dict String), (∀ pair ∈ map.entries, spec.Keeps pair) →
      ∀ pair ∈ (rest.foldl spec.call map).entries, spec.Keeps pair := by
    intro rest
    induction rest with
    | nil => exact fun map keeps => keeps
    | cons request later ih => exact fun map keeps => ih _ (keeps_call sound keeps request)
  exact run calls .empty fun pair here => nomatch here

end OptionMap

end NetProfile
