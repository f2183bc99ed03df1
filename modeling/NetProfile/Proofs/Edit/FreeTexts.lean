import NetProfile.Proofs.Edit.Holding
import NetProfile.Proofs.Settings.Lists

/-!
Lists of any texts. Parts of a text that are empty are passed over when it is cut, but a part of other
blanks is trimmed after that, and an empty text is stored for it. Such a text is lost when the list is
shown and set again; all others come back as they are.
-/

namespace NetProfile

namespace ListContract

variable {list : ListContract}

theorem form_of_isFree (free : list.isFree = true) : list.form = .text none ∧ list.words = [] := by
  unfold isFree at free
  split at free
  · next form => exact ⟨form, by simpa using free⟩
  · cases free

theorem holdsTexts_of_isFree (free : list.isFree = true) : list.form.holdsTexts = true := by
  rw [(form_of_isFree free).1]
  rfl

theorem parseItem_of_isFree (free : list.isFree = true) (text : String) :
    list.parseItem text = .ok (.text (Text.trim text)) := by
  obtain ⟨form, words⟩ := form_of_isFree free
  simp only [parseItem, form, parseText, if_pos words]
  rfl

end ListContract

theorem Property.text_render_list {property : Property} (registered : property ∈ Catalogue.standard.properties)
    {list : ListContract} (isList : property.contract = .list list) {profile : Profile} (legal : profile.Legal)
    (mode : Mode) (reveal : Bool) :
    (property.render profile mode reveal).text
      = list.format mode (profile.list property.setting property.name) := by
  have shown : property.isSecret = false := Catalogue.not_isSecret registered (by rw [isList]; rfl)
  have usual : property.usual = none := (Catalogue.regularList_of_mem registered isList).usual
  simp only [render, shown, Bool.false_and, Bool.false_eq_true, if_false, isList, value, Profile.list]
  cases stored : profile.get? property.setting property.name with
  | none => simp [default, usual, isList, Contract.default, Contract.format]
  | some held =>
    have reads := (legal _ _ held stored).reads registered
    rw [isList] at reads
    cases held with
    | list items => rfl
    | bool | int | text | octets | dnsOptions | map | slots => exact reads.elim

namespace ListContract

variable {list : ListContract}

theorem KeepsText.trimmed {kept : String} (keeps : list.KeepsText kept) (free : list.isFree = true) :
    Text.trim kept = kept := by
  have back := keeps.back
  rw [parseItem_of_isFree free] at back
  exact Item.text.inj (Except.ok.inj back)

theorem KeepsText.not_mem_separators {kept : String} (keeps : list.KeepsText kept) {c : Char}
    (here : c ∈ kept.toList) : c ∉ plainSeparators := by
  intro separator
  have clean := elem_plainSeparators.2 (keeps.clean c here)
  rw [List.elem_eq_true_of_mem separator] at clean
  cases clean

/-- What is shown of kept texts is read as these texts again, without the empty ones. -/
theorem add_format_texts (faithful : list.Faithful) (free : list.isFree = true) (appends : list.policy = .append)
    {held : List Item} (keeps : ∀ item ∈ held, ∃ kept, item = .text kept ∧ list.KeepsText kept) (mode : Mode) :
    list.add [] (list.format mode held) = .ok (held.filter (· ≠ .text "")) := by
  have texts := holdsTexts_of_isFree free
  obtain ⟨kept, rfl, back⟩ := exists_texts keeps
  have merged : ∀ items, list.merge [] items = items := fun items => by
    simp only [merge, (form_of_isFree free).1, appends]
    rfl
  have rest : (kept.map Item.text).filter (· ≠ .text "") = (kept.filter (· ≠ "")).map .text := by
    rw [List.filter_map]
    simp [Function.comp_def]
  rw [add, parseItems_format_texts faithful texts back, rest, Except.map, merged]

end ListContract

/-- After any run the items of a list of any texts are trimmed and have no separators in them. The text
that is shown of the list sets a fresh profile to the same list without empty texts. There are empty
texts only if the run has set the property to a text that has, between two separators, blanks of other
kinds and nothing else. -/
theorem freeTexts_of_run {property : Property} (registered : property ∈ Catalogue.standard.properties)
    {list : ListContract} (isList : property.contract = .list list) (free : list.isFree = true)
    (operations : List Operation) :
    let profile := Profile.empty.after operations
    let held := profile.list property.setting property.name
    (∀ item ∈ held, ∃ text, item = .text text ∧ Text.trim text = text ∧
      ∀ c ∈ text.toList, c ∉ plainSeparators) ∧
    (∀ (context : Context) (reveal : Bool),
      let fresh := property.set context .empty (.text (property.render profile .parsable reveal).text)
      fresh.error = none ∧
        fresh.profile.list property.setting property.name = held.filter (· ≠ .text "")) ∧
    (.text "" ∈ held → ∃ operation ∈ operations, operation.property = property ∧
      ∃ text, operation.action.given? = some text ∧
        ∃ part ∈ Text.items (plainSeparators.elem ·) text, Text.trim part = "") := by
  intro profile held
  have regular := Catalogue.regularList_of_mem registered isList
  have faithful := regular.faithful
  have texts := ListContract.holdsTexts_of_isFree free
  have legal : profile.Legal := (Reachable.empty.after operations).legal
  have gives : ∀ item ∈ held, property.Gives list operations item :=
    property.gives_of_mem registered isList operations
  obtain ⟨writable, appends⟩ := regular.free free
  have keeps : ∀ item ∈ held, ∃ kept, item = .text kept ∧ list.KeepsText kept := by
    intro item here
    obtain ⟨operation, -, -, text, items, -, read, inside⟩ := gives item here
    obtain ⟨part, cut, partRead⟩ := ListContract.exists_part faithful texts read inside
    exact ListContract.keepsText_of_part faithful texts cut partRead
  refine ⟨fun item here => ?_, fun context reveal => ?_, fun here => ?_⟩
  · obtain ⟨kept, rfl, keeps⟩ := keeps item here
    exact ⟨kept, rfl, keeps.trimmed free, fun c inside => keeps.not_mem_separators inside⟩
  · have answers := Holding.answers_set (.list isList) registered Profile.Legal.empty writable context
      (property.render profile .parsable reveal).text
    rw [property.text_render_list registered isList legal] at answers ⊢
    change Outcome.Answers _ _ _ _ (list.add [] (list.format .parsable held)) at answers
    rw [ListContract.add_format_texts faithful free appends keeps] at answers
    exact answers
  · obtain ⟨operation, member, own, text, items, given, read, inside⟩ := gives _ here
    obtain ⟨part, cut, partRead⟩ := ListContract.exists_part faithful texts read inside
    rw [ListContract.parseItem_of_isFree free] at partRead
    exact ⟨operation, member, own, text, given, part, cut, Item.text.inj (Except.ok.inj partRead)⟩

def matchedNames : Property := Settings.matching.properties[0]

theorem matchedNames_mem : matchedNames ∈ Catalogue.standard.properties := by decide +kernel

/-- A line break between two commas leaves an empty text, which is not there any more in the profile that
is set to what is shown. -/
theorem freeTexts_of_run_names :
    let operations := [Operation.assign matchedNames matchedNames_mem "eth0, \n ,wlan*\r\n"]
    let profile := Profile.empty.after operations
    let fresh := matchedNames.set { catalogue := .standard, freshUuid := ⟨0⟩ } .empty
      (.text (matchedNames.render profile .parsable false).text)
    profile.list "match" "interface-name" = [.text "eth0", .text "", .text "wlan*"] ∧
      (matchedNames.render profile .parsable false).text = "eth0,,wlan*" ∧
      fresh.error = none ∧
      fresh.profile.list "match" "interface-name" = [.text "eth0", .text "wlan*"] := by
  intro operations profile fresh
  have isList : matchedNames.contract = .list { form := .text none, separators := plainSeparators } := by
    decide +kernel
  have held : profile.list "match" "interface-name" = [.text "eth0", .text "", .text "wlan*"] := by
    decide +kernel
  obtain ⟨-, again, -⟩ := freeTexts_of_run matchedNames_mem isList rfl operations
  obtain ⟨error, left⟩ := again { catalogue := .standard, freshUuid := ⟨0⟩ } false
  change fresh.profile.list "match" "interface-name" = (profile.list "match" "interface-name").filter _ at left
  rw [held] at left
  exact ⟨held, by decide +kernel, error, left⟩

/-- A list of any texts can hold an empty one, and then it does not come back from what is shown of it. -/
theorem empty_text_stored :
    let profile := Profile.empty.after [.assign matchedNames matchedNames_mem "eth0,\n"]
    let fresh := matchedNames.set { catalogue := .standard, freshUuid := ⟨0⟩ } .empty
      (.text (matchedNames.render profile .parsable false).text)
    matchedNames.fullName = "match.interface-name" ∧
      .text "" ∈ profile.list "match" "interface-name" ∧ fresh.error = none ∧
      fresh.profile.list "match" "interface-name" ≠ profile.list "match" "interface-name" := by
  decide +kernel

end NetProfile
