import NetProfile.Edit.Plan
import NetProfile.Proofs.MergePolicy
import NetProfile.Proofs.OptionMap
import NetProfile.Proofs.Reading

/-!
Values that can be read from texts. A value of a list or a map may have been built up by many edits,
so what counts is that each of its parts was read from some text.
-/

namespace NetProfile

def ListContract.ReadsItem (list : ListContract) (item : Item) : Prop :=
  ∃ text, list.parseItem text = .ok item

def OptionMap.ReadsPair (spec : OptionMap) (pair : String × String) : Prop :=
  ∃ text, spec.readPair text = .ok pair

def Special.Reads (catalogue : Catalogue) (special : Special) (value : Value) : Prop :=
  match special, value with
  | .connectionType, .text (some name) => ∃ setting ∈ catalogue.types, setting.name = name
  | .wepKey _, .text (some key) => WepKey.fits key .key = true ∨ WepKey.fits key .passphrase = true
  | .dnsOptions, .dnsOptions options => ∀ option ∈ options.items, DnsOptions.isOption option = true
  | .partitionKey, .int number => ∃ text, Plan.readPartitionKey text = .ok number
  | .wifiChannel, .int number => ∃ text, Plan.readChannel text = .ok number
  | .networkName, .octets (some bytes) =>
    ∃ text, (NetworkName.parse text).map Text.utf8Bytes = .ok bytes
  | _, _ => False

def Contract.Reads (catalogue : Catalogue) (contract : Contract) (value : Value) : Prop :=
  match contract, value with
  | .scalar kind, held => ∃ text, kind.parse text = .ok held
  | .list kind, .list items => ∀ item ∈ items, kind.ReadsItem item
  | .options kind, .map held => ∀ pair ∈ held.entries, kind.ReadsPair pair
  | .special kind, held => kind.Reads catalogue held
  | _, _ => False

namespace PriorityMap

variable {direction : Direction} {wildcard : Bool} {text : String}

theorem readEntry_trim_eq_ok_iff {entry : PriorityEntry} :
    readEntry direction wildcard (Text.trim text) = .ok entry ↔ readEntry direction wildcard text = .ok entry := by
  unfold readEntry PriorityEntry.parse?
  rw [Text.trim_trim]
  split <;> simp

/-- A text without commas is read as its only entry, unless it is blank. -/
theorem parse_of_clean (inked : Text.trim text ≠ "") (clean : ∀ c ∈ text.toList, Text.isComma c = false) :
    parse direction wildcard text = (readEntry direction wildcard text).map fun entry => [entry] := by
  rw [parse, Text.items_of_clean (Text.toList_ne_nil_of_trim inked) clean,
    List.filter_cons_of_pos (by simpa using inked), List.filter_nil, List.mapM_cons]
  cases readEntry direction wildcard text <;> rfl

end PriorityMap

namespace ListContract

theorem mem_priorities {items : List Item} {entry : PriorityEntry} :
    entry ∈ priorities items ↔ .priority entry ∈ items := by
  unfold priorities
  rw [List.mem_filterMap]
  constructor
  · rintro ⟨item, here, same⟩
    cases item <;> cases same
    exact here
  · intro here
    exact ⟨_, here, rfl⟩

theorem mem_functions {items : List Item} {function : VirtualFunction} :
    function ∈ functions items ↔ .function function ∈ items := by
  unfold functions
  rw [List.mem_filterMap]
  constructor
  · rintro ⟨item, here, same⟩
    cases item <;> cases same
    exact here
  · intro here
    exact ⟨_, here, rfl⟩

@[simp]
theorem priorities_map (entries : List PriorityEntry) :
    priorities (entries.map .priority) = entries := by
  simp [priorities, List.filterMap_map, Function.comp_def, Item.priority?]

@[simp]
theorem functions_map (entries : List VirtualFunction) :
    functions (entries.map .function) = entries := by
  simp [functions, List.filterMap_map, Function.comp_def, Item.function?]

/-- An entry with blanks at its ends is read as a map of one entry is. -/
theorem parseEntry_trim_eq_ok_iff {direction : Direction} {text : String} {entry : PriorityEntry}
    (inked : Text.trim text ≠ "") (clean : ∀ c ∈ text.toList, Text.isComma c = false) :
    parseEntry direction (Text.trim text) = .ok entry ↔
      PriorityMap.readEntry direction false text = .ok entry := by
  have trimmedClean : ∀ c ∈ (Text.trim text).toList, Text.isComma c = false :=
    fun c here => clean c (Text.mem_of_mem_trim here)
  rw [parseEntry, PriorityMap.parse_of_clean (by rwa [Text.trim_trim]) trimmedClean,
    ← PriorityMap.readEntry_trim_eq_ok_iff]
  cases PriorityMap.readEntry direction false (Text.trim text) <;> simp [Except.map, bind, Except.bind]

theorem function_parse_trim (text : String) :
    VirtualFunction.parse (Text.trim text) = VirtualFunction.parse text := by
  rw [VirtualFunction.parse, VirtualFunction.parse, Text.tokens_trim]

theorem qdisc_parse_trim (text : String) : Qdisc.parse (Text.trim text) = Qdisc.parse text := by
  rw [Qdisc.parse, Qdisc.parse, Text.tokens_trim]

section Reads

variable {list : ListContract} {text : String} {item : Item}

theorem readsItem_of_priorities {direction : Direction} (form : list.form = .priority direction)
    {entries : List PriorityEntry} (read : PriorityMap.parse direction false text = .ok entries)
    {entry : PriorityEntry} (here : entry ∈ entries) : list.ReadsItem (.priority entry) := by
  obtain ⟨part, partOf, entryRead⟩ := Reading.mem_of_mapM_eq_ok read here
  obtain ⟨cut, inked⟩ := List.mem_filter.1 partOf
  have clean : ∀ c ∈ part.toList, Text.isComma c = false := fun c inside => ((Text.mem_items cut).2 c inside).2
  have read := (parseEntry_trim_eq_ok_iff (by simpa using inked) clean).2 entryRead
  refine ⟨part, ?_⟩
  simp only [parseItem, form, read]
  rfl

theorem readsItem_of_functions (form : list.form = .function) {functions : List VirtualFunction}
    (read : VirtualFunction.parseList text = .ok functions) {function : VirtualFunction}
    (here : function ∈ functions) : list.ReadsItem (.function function) := by
  unfold VirtualFunction.parseList at read
  split at read
  · next all =>
    cases read
    obtain ⟨part, -, functionRead⟩ := Reading.mem_of_mapM_eq_ok all here
    refine ⟨part, ?_⟩
    simp only [parseItem, form, function_parse_trim, functionRead]
    rfl
  · cases read

theorem readsItem_of_qdiscs (form : list.form = .qdisc) {qdiscs : List Qdisc}
    (read : Qdisc.parseList text = .ok qdiscs) {qdisc : Qdisc} (here : qdisc ∈ qdiscs) :
    list.ReadsItem (.qdisc qdisc) := by
  unfold Qdisc.parseList at read
  split at read
  · next all =>
    cases read
    obtain ⟨part, -, qdiscRead⟩ := Reading.mem_of_mapM_eq_ok all here
    refine ⟨part, ?_⟩
    simp only [parseItem, form, qdisc_parse_trim, qdiscRead]
    rfl
  · cases read

theorem readsItem_of_parseItems {items : List Item} (read : list.parseItems text = .ok items)
    (here : item ∈ items) : list.ReadsItem item := by
  unfold parseItems at read
  split at read
  · next direction form =>
    obtain ⟨entries, entriesRead, rfl⟩ := Reading.map_eq_ok read
    obtain ⟨entry, member, rfl⟩ := List.mem_map.1 here
    exact readsItem_of_priorities form entriesRead member
  · next form =>
    obtain ⟨functions, functionsRead, rfl⟩ := Reading.map_eq_ok read
    obtain ⟨function, member, rfl⟩ := List.mem_map.1 here
    exact readsItem_of_functions form functionsRead member
  · next form =>
    obtain ⟨qdiscs, qdiscsRead, rfl⟩ := Reading.map_eq_ok read
    obtain ⟨qdisc, member, rfl⟩ := List.mem_map.1 here
    exact readsItem_of_qdiscs form qdiscsRead member
  · obtain ⟨part, -, itemRead⟩ := Reading.mem_of_mapM_eq_ok read here
    exact ⟨part, itemRead⟩

end Reads

theorem mem_merge {list : ListContract} {held added : List Item} {item : Item}
    (here : item ∈ list.merge held added) : item ∈ held ∨ item ∈ added := by
  unfold merge at here
  split at here
  · obtain ⟨entry, member, rfl⟩ := List.mem_map.1 here
    have inside := inside_of_foldl (· ∈ ·) (fun _ _ _ => mem_putKeyed) member
    exact inside.imp mem_priorities.1 mem_priorities.1
  · obtain ⟨function, member, rfl⟩ := List.mem_map.1 here
    have inside := inside_of_foldl (· ∈ ·) (fun _ _ _ => mem_putKeyed) member
    exact inside.imp mem_functions.1 mem_functions.1
  · exact MergePolicy.mem_merge here

theorem mem_of_remove {list : ListContract} {held left : List Item} {text : String}
    (removed : list.remove held text = .ok left) {item : Item} (here : item ∈ left) : item ∈ held := by
  unfold remove at removed
  split at removed
  · obtain ⟨entries, entriesLeft, rfl⟩ := Reading.map_eq_ok removed
    obtain ⟨entry, member, rfl⟩ := List.mem_map.1 here
    apply mem_priorities.1
    unfold PriorityMap.remove at entriesLeft
    split at entriesLeft
    · cases entriesLeft
      exact List.mem_of_mem_eraseIdx member
    · obtain ⟨patterns, -, entriesLeft⟩ := Reading.bind_eq_ok entriesLeft
      cases entriesLeft
      exact (List.mem_filter.1 member).1
  · obtain ⟨functions, functionsLeft, rfl⟩ := Reading.map_eq_ok removed
    obtain ⟨function, member, rfl⟩ := List.mem_map.1 here
    apply mem_functions.1
    unfold VirtualFunction.remove at functionsLeft
    split at functionsLeft
    · cases functionsLeft
      exact List.mem_of_mem_eraseIdx member
    · obtain ⟨written, -, functionsLeft⟩ := Reading.bind_eq_ok functionsLeft
      cases functionsLeft
      exact (List.mem_filter.1 member).1
  · exact mem_of_removeOne removed here

theorem readsItem_of_add {list : ListContract} {held after : List Item} {text : String}
    (before : ∀ item ∈ held, list.ReadsItem item) (added : list.add held text = .ok after) :
    ∀ item ∈ after, list.ReadsItem item := by
  obtain ⟨items, read, rfl⟩ := Reading.map_eq_ok added
  intro item here
  rcases mem_merge here with earlier | new
  · exact before item earlier
  · exact readsItem_of_parseItems read new

theorem readsItem_of_remove {list : ListContract} {held left : List Item} {text : String}
    (before : ∀ item ∈ held, list.ReadsItem item) (removed : list.remove held text = .ok left) :
    ∀ item ∈ left, list.ReadsItem item := by
  intro item here
  exact before item (mem_of_remove removed here)

end ListContract

namespace OptionMap

theorem readsPair_of_add {spec : OptionMap} {held after : Dict String} {text : String}
    (before : ∀ pair ∈ held.entries, spec.ReadsPair pair) (added : spec.add held text = .ok after) :
    ∀ pair ∈ after.entries, spec.ReadsPair pair := by
  intro pair here
  rcases mem_of_add added here with earlier | ⟨item, -, read⟩
  · exact before pair earlier
  · exact ⟨item, read⟩

theorem readsPair_of_remove {spec : OptionMap} {held left : Dict String} {text : String}
    (before : ∀ pair ∈ held.entries, spec.ReadsPair pair) (removed : spec.remove held text = .ok left) :
    ∀ pair ∈ left.entries, spec.ReadsPair pair := by
  intro pair here
  exact before pair (mem_of_remove removed here)

end OptionMap

namespace DnsOptions

theorem isOption_of_check {text option : String} (read : check text = .ok option) :
    isOption option = true := by
  unfold check at read
  split at read
  · next legal =>
    cases read
    exact legal
  · cases read

theorem isOption_of_add {held after : DnsOptions} {text : String}
    (before : ∀ option ∈ held.items, isOption option = true)
    (added : Plan.addDnsOptions held text = .ok after) :
    ∀ option ∈ after.items, isOption option = true := by
  obtain ⟨options, read, added⟩ := Reading.bind_eq_ok added
  intro option here
  split at added
  · cases added
    cases here
  · cases added
    rw [items_foldl_add] at here
    rcases MergePolicy.mem_merge here with earlier | new
    · exact before option earlier
    · obtain ⟨part, -, checked⟩ := Reading.mem_of_mapM_eq_ok read new
      exact isOption_of_check checked

theorem isOption_of_remove {held left : DnsOptions} {text : String}
    (before : ∀ option ∈ held.items, isOption option = true)
    (removed : Plan.removeDnsOption held text = .ok left) :
    ∀ option ∈ left.items, isOption option = true := by
  intro option here
  unfold Plan.removeDnsOption at removed
  split at removed
  · next index _ =>
    cases removed
    unfold removeAt? at here
    split at here
    · rw [Option.getD_some, items_ofItems] at here
      exact before option (List.mem_of_mem_eraseIdx here)
    · exact before option here
  · obtain ⟨value, -, rfl⟩ := Reading.map_eq_ok removed
    unfold removeValue at here
    split at here
    · rw [items_ofItems] at here
      exact before option (List.mem_filter.1 here).1
    · exact before option here

end DnsOptions

theorem Scalar.kind_of_parse {scalar : Scalar} {text : String} {value : Value}
    (read : scalar.parse text = .ok value) : value.kind = scalar.default.kind := by
  cases scalar <;> simp only [parse] at read <;>
    · obtain ⟨inner, -, rfl⟩ := Reading.map_eq_ok read
      rfl

/-- What a contract reads has the kind of its default, so a field never changes its kind. -/
theorem Property.kind_list {property : Property} {list : ListContract} (isList : property.contract = .list list)
    (items : List Item) : (Value.list items).kind = property.contract.default.kind := by
  rw [isList]
  rfl

theorem Property.kind_dnsOptions {property : Property} (isDns : property.contract = .special .dnsOptions)
    (options : DnsOptions) : (Value.dnsOptions options).kind = property.contract.default.kind := by
  rw [isDns]
  rfl

theorem Contract.kind_of_reads {catalogue : Catalogue} {contract : Contract} {value : Value}
    (reads : contract.Reads catalogue value) : value.kind = contract.default.kind := by
  unfold Contract.Reads at reads
  split at reads
  · obtain ⟨text, read⟩ := reads
    exact Scalar.kind_of_parse read
  · rfl
  · rfl
  · unfold Special.Reads at reads
    split at reads
    case h_7 => exact reads.elim
    all_goals rfl
  · exact reads.elim

end NetProfile
