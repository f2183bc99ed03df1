import NetProfile.Proofs.Edit.Batch
import NetProfile.Proofs.Edit.KeyedLists
import NetProfile.Proofs.Settings.Lists

/-!
Taking an item away by its own text. The text that a list writes for one of its items is read as that
item, so it is this item that goes, unless the text is a position in the list.
-/

namespace NetProfile

/-- Where no two items have the same key, to drop all that a pattern of one key fits is to drop one. -/
theorem filter_eq_erase {α κ : Type} [DecidableEq α] {key : α → κ} {fits : α → Bool} {item : α}
    {list : List α} (distinct : (list.map key).Nodup) (here : item ∈ list) (own : fits item = true)
    (same : ∀ other ∈ list, fits other = true → key other = key item) :
    (list.filter fun other => !fits other) = list.erase item := by
  rw [(List.Nodup.of_map key distinct).erase_eq_filter]
  refine List.filter_congr fun other member => ?_
  by_cases equal : other = item
  · simp [equal, own]
  · have unfit : fits other = false := Bool.eq_false_iff.2 fun fit =>
      equal (List.inj_on_of_nodup_map distinct member here (same other member fit))
    simp [equal, unfit]

namespace Item

theorem key?_eq_of_fits {item pattern : Item} (fit : item.fits pattern = true) : item.key? = pattern.key? := by
  cases item <;> cases pattern <;> simp_all [fits, key?]

theorem fits_self {item : Item} (keyed : item.key?.isSome = true) : item.fits item = true := by
  cases item <;> simp_all [fits, key?]

end Item

namespace ListContract

variable {list : ListContract} {text : String} {items held : List Item} {item : Item}

/-- The text of an item with a key is a pattern that stands for it. -/
theorem patterns_written (keyed : list.isKeyed = true) (reads : list.ReadsItem item) :
    list.patterns (list.written item) = .ok [item] := by
  rw [written_eq_toText (admitsItem_of_reads reads)]
  obtain ⟨text, read⟩ := reads
  cases form : list.form with
  | priority direction =>
    simp only [parseItem, form] at read
    obtain ⟨entry, found, rfl⟩ := Reading.map_eq_ok read
    simp only [Item.toText, patterns, form, PriorityMap.parse_toText (admitted_of_parseEntry found)]
    rfl
  | function =>
    simp only [parseItem, form] at read
    obtain ⟨function, found, rfl⟩ := Reading.map_eq_ok read
    simp only [Item.toText, patterns, form,
      VirtualFunction.parse_toText (VirtualFunction.wellFormed_of_parse found)]
    rfl
  | text | subnet | route | server | watcher | qdisc => simp [isKeyed, form] at keyed

theorem remove_written_of_isKeyed (keyed : list.isKeyed = true) (stored : list.Keyed held) (here : item ∈ held)
    (noPosition : position? held.length (list.written item) = none) :
    list.remove held (list.written item) = .ok (held.erase item) := by
  have reads := stored.reads item here
  rw [remove_eq_filter keyed stored.reads noPosition, patterns_written keyed reads]
  have own := Item.fits_self (isSome_key? keyed reads)
  have one : (held.filter fun other => !other.fits item) = held.erase item :=
    filter_eq_erase stored.distinct here own fun other _ => Item.key?_eq_of_fits
  simp only [Except.map, List.any_cons, List.any_nil, Bool.or_false, one]

/-- A list without keys is searched for the item that the text writes. -/
theorem remove_written_of_parseItem (unkeyed : list.isKeyed = false)
    (back : list.parseItem (list.written item) = .ok item)
    (noPosition : position? held.length (list.written item) = none) :
    list.remove held (list.written item) = .ok (held.erase item) := by
  have searched : list.remove held (list.written item) = removeOne list.parseItem held (list.written item) := by
    unfold remove
    split
    case h_3 => rfl
    all_goals
      next form =>
      simp [isKeyed, form] at unkeyed
  simp only [searched, removeOne, noPosition, parseItem_trim, back]
  rfl

end ListContract

/-- Over any run, what is shown of an item of a list takes that item away: the first one of its kind goes
and all others stay in their order. Link watchers are left out, and texts that are positions in the list
go by these. -/
theorem remove_written_of_run {property : Property} (registered : property ∈ Catalogue.standard.properties)
    {list : ListContract} (isList : property.contract = .list list) (lossless : list.form ≠ .watcher)
    (operations : List Operation) :
    let profile := Profile.empty.after operations
    let held := profile.list property.setting property.name
    ∀ item ∈ held, position? held.length (list.format .parsable [item]) = none →
      let outcome := property.remove profile (list.format .parsable [item])
      outcome.error = none ∧
        outcome.profile.list property.setting property.name = held.erase item := by
  intro profile held item here noPosition outcome
  have legal : profile.Legal := (Reachable.empty.after operations).legal
  have answers := Holding.answers_remove (.list isList) registered legal (list.written item)
  change Outcome.Answers _ _ _ _ (list.remove held (list.written item)) at answers
  have removed : list.remove held (list.written item) = .ok (held.erase item) := by
    cases keyed : list.isKeyed with
    | true =>
      have stored := ListContract.keyed_after registered isList keyed operations
      exact ListContract.remove_written_of_isKeyed keyed stored here noPosition
    | false =>
      obtain ⟨operation, -, -, text, items, -, read, inside⟩ :=
        property.gives_of_mem registered isList operations item here
      have faithful := (Catalogue.regularList_of_mem registered isList).faithful
      have back := ListContract.parseItem_written faithful lossless read inside
      exact ListContract.remove_written_of_parseItem keyed back noPosition
  rw [removed] at answers
  exact answers

/-- The text of the second function is a number, but no position in the list, and so the function goes. -/
theorem remove_written_of_run_function :
    let functions := Settings.sriov.properties[1]
    let profile := Profile.empty.after [.setFunctions "1 trust=YES mac=0-11-22-aa-bb-cc, 7 ,2 vlans=7.0.q"]
    let function (index : UInt32) (attributes : List (String × String)) (vlans : List FunctionVlan) :=
      Item.function { index, attributes := .ofList attributes, vlans }
    let first := function 1 [("mac", "00:11:22:AA:BB:CC"), ("trust", "true")] []
    let last := function 2 [] [⟨7, 0, .q⟩]
    let outcome := functions.remove profile "7"
    profile.list "sriov" "vfs" = [first, function 7 [] [], last] ∧ outcome.error = none ∧
      outcome.profile.list "sriov" "vfs" = [first, last] := by
  intro functions profile function first last outcome
  have registered : functions ∈ Catalogue.standard.properties := by decide +kernel
  have isList : functions.contract = .list { form := .function } := by decide +kernel
  have held : profile.list "sriov" "vfs" = [first, function 7 [] [], last] := by decide +kernel
  have here : function 7 [] [] ∈ profile.list "sriov" "vfs" := by
    rw [held]
    simp
  have text : ListContract.format { form := .function } .parsable [function 7 [] []] = "7" := by decide +kernel
  have removed := remove_written_of_run registered isList (by decide)
    [.setFunctions "1 trust=YES mac=0-11-22-aa-bb-cc, 7 ,2 vlans=7.0.q"] (function 7 [] []) here
  rw [text] at removed
  obtain ⟨error, left⟩ := removed (by decide +kernel)
  change outcome.profile.list "sriov" "vfs" = (profile.list "sriov" "vfs").erase _ at left
  rw [held] at left
  exact ⟨held, error, left.trans (by decide +kernel)⟩

end NetProfile
