import Mathlib.Data.Set.List
import NetProfile.Proofs.Contract.Admits
import NetProfile.Proofs.Record.Qdisc
import NetProfile.Proofs.Record.VirtualFunction
import NetProfile.Proofs.TextRule

/-!
Items of lists and their texts. Whatever text an item was read from, the text that the list writes
for it alone is read as the same item. Only link watchers may lose something on the way. A text that
nothing cuts is read as a list of one item just when it is read as an item.
-/

namespace NetProfile

theorem SearchDomain.isWord_of_isKept {domain : String} (kept : IsKept domain) : Text.IsWord domain := by
  rcases kept with rfl | ⟨host, keptHost, form⟩
  · decide
  · have word : Text.IsWord host := {
      notEmpty := fun empty => keptHost.notEmpty (String.toList_eq_nil_iff.1 empty)
      clean := fun c here => by
        refine ⟨Hostname.not_isBlank_of_isKept keptHost here, ?_⟩
        rintro rfl
        rcases Hostname.mem_of_isKept keptHost here with dot | inner
        · exact absurd dot (by decide)
        · exact absurd inner (by decide) }
    have mark : Text.IsWord "~" := by decide
    rcases form with rfl | rfl
    · exact mark.append word.clean
    · exact word

namespace TextRule

section Kept

variable {family : Family} {text kept : String} {c : Char}

theorem isWord_of_readMethod (read : readMethod family text = .ok kept) : Text.IsWord kept := by
  have words : ∀ word ∈ methods family, Text.IsWord word := by cases family <;> decide
  exact words _ (choose_mem read)

theorem isWord_of_readGateway (read : readGateway family text = .ok kept) : Text.IsWord kept := by
  obtain ⟨address, -, rfl⟩ := Reading.map_eq_ok read
  exact address.isWord_toText

theorem isWord_of_readAddress (read : readAddress text = .ok kept) : Text.IsWord kept := by
  unfold readAddress at read
  split at read <;> cases read
  exact Address.isWord_toText _

theorem isWord_of_parse_ethernet (read : HardwareAddress.ethernet.parse text = .ok kept) : Text.IsWord kept := by
  unfold HardwareAddress.parse at read
  simp only [HardwareAddress.words, List.not_mem_nil, if_false] at read
  split at read <;> cases read
  next octets found =>
  have size := HardwareAddress.length_of_octets? found
  exact VirtualFunction.isWord_formatOctets (List.ne_nil_of_length_pos (by rw [size]; decide))

theorem mem_of_readNonEmpty (read : readNonEmpty text = .ok kept) (here : c ∈ kept.toList) :
    c ∈ text.toList := by
  unfold readNonEmpty at read
  simp only at read
  split at read <;> cases read
  exact Text.mem_of_mem_trim here

theorem mem_of_readPermission (read : readPermission text = .ok kept) (here : c ∈ kept.toList) :
    c ∈ text.toList ∨ Text.isSpaceOrTab c = false ∧ c ≠ ',' := by
  rcases cases_of_readPermission read with rfl | rfl
  · exact .inl here
  · rw [String.toList_append, List.mem_append] at here
    have mark : Text.IsWord "user:" := by decide
    exact here.symm.imp_right (mark.isToken.clean c)

theorem mem_of_readVpnService (read : readVpnService text = .ok kept) (here : c ∈ kept.toList) :
    c ∈ text.toList ∨ Text.isSpaceOrTab c = false ∧ c ≠ ',' := by
  obtain ⟨name, named, read⟩ := Reading.bind_eq_ok read
  split at read <;> cases read
  · exact .inl (mem_of_readNonEmpty named here)
  · rw [String.toList_append, List.mem_append] at here
    have service : Text.IsWord "org.freedesktop.NetworkManager." := by decide
    exact here.symm.imp (mem_of_readNonEmpty named) (service.isToken.clean c)

/-- What a rule puts into a text is neither a space or a tab nor a comma. -/
theorem mem_of_check {rule : TextRule} (read : rule.check text = .ok kept) (here : c ∈ kept.toList) :
    c ∈ text.toList ∨ Text.isSpaceOrTab c = false ∧ c ≠ ',' := by
  have word : Text.IsWord kept → Text.isSpaceOrTab c = false ∧ c ≠ ',' := fun word =>
    word.isToken.clean c here
  cases tests : rule.onlyTests with
  | true =>
    rw [eq_of_check tests read] at here
    exact .inl here
  | false =>
    cases rule <;> simp only [check] at read
    case method => exact .inr (word (isWord_of_readMethod read))
    case gateway => exact .inr (word (isWord_of_readGateway read))
    case address => exact .inr (word (isWord_of_readAddress read))
    case permission => exact mem_of_readPermission read here
    case vpnService => exact mem_of_readVpnService read here
    case nonEmpty => exact .inl (mem_of_readNonEmpty read here)
    case ethernetAddress => exact .inr (word (isWord_of_parse_ethernet read))
    case searchDomain => exact .inr (word (SearchDomain.isWord_of_isKept (SearchDomain.isKept_of_parse read)))
    all_goals cases tests

end Kept

end TextRule

namespace PriorityEntry

theorem side?_decimalDigits {limit : Nat} {number : UInt32} (bounded : number.toNat ≤ limit) :
    side? limit (Numeral.decimalDigits number.toNat) = some number := by
  have read : Numeral.unsigned? 10 (Text.trimChars (Numeral.decimalDigits number.toNat).toList)
      = some number.toNat := by
    rw [Numeral.decimalDigits, String.toList_ofList, Numeral.trimChars_toDigits,
      Numeral.unsigned?_toDigits (by decide) (by decide)]
  simp only [side?, read, if_pos bounded, UInt32.ofNat_toNat]

theorem isWord_toText {direction : Direction} {entry : PriorityEntry} (admitted : entry.Admitted direction) :
    Text.IsWord entry.toText := by
  obtain ⟨source, target⟩ := entry
  obtain ⟨-, number, rfl, -⟩ := admitted
  have sign : Text.IsWord ":" := by decide
  exact ((Numeral.isWord_decimalDigits _).append sign.clean).append (Numeral.isWord_decimalDigits _).clean

theorem parse?_toText {direction : Direction} {entry : PriorityEntry} (admitted : entry.Admitted direction)
    (wildcard : Bool) : parse? direction wildcard entry.toText = some entry := by
  have trimmed := Text.trim_of_isTight (isWord_toText admitted).isTight
  obtain ⟨source, target⟩ := entry
  obtain ⟨sourceLegal, number, rfl, numberLegal⟩ := admitted
  have cut : Text.cutOnce ':' (Numeral.decimalDigits source.toNat ++ ":" ++ Numeral.decimalDigits number.toNat)
      = some (Numeral.decimalDigits source.toNat, Numeral.decimalDigits number.toNat) := by
    rw [Text.cutOnce_eq_some_iff, Numeral.decimalDigits, String.toList_ofList]
    exact ⟨by simp, Numeral.not_mem_toDigits (by decide) (by decide) (by decide)⟩
  have noStar : Text.trim (Numeral.decimalDigits number.toNat) ≠ "*" := by
    rw [Text.trim_of_isTight (Numeral.isWord_decimalDigits _).isTight]
    intro star
    have here : '*' ∈ (Numeral.decimalDigits number.toNat).toList := by
      rw [star]
      decide
    rw [Numeral.decimalDigits, String.toList_ofList] at here
    exact Numeral.not_mem_toDigits (by decide) (by decide) (by decide) here
  rw [parse?, trimmed]
  simp only [toText, cut, side?_decimalDigits sourceLegal, noStar, side?_decimalDigits numberLegal,
    decide_false, Bool.and_false, Bool.false_eq_true, if_false, Option.map_some]

end PriorityEntry

theorem PriorityMap.parse_toText {direction : Direction} {entry : PriorityEntry}
    (admitted : entry.Admitted direction) (wildcard : Bool) :
    parse direction wildcard entry.toText = .ok [entry] := by
  have word := PriorityEntry.isWord_toText admitted
  have inked : Text.trim entry.toText ≠ "" := by
    rw [Text.trim_of_isTight word.isTight, Ne, ← String.toList_eq_nil_iff]
    exact word.notEmpty
  have clean : ∀ c ∈ entry.toText.toList, Text.isComma c = false :=
    Text.isComma_of_not_mem fun comma => (word.clean ',' comma).2 rfl
  rw [parse_of_clean inked clean, readEntry, PriorityEntry.parse?_toText admitted]
  rfl

theorem ListContract.parseEntry_toText {direction : Direction} {entry : PriorityEntry}
    (admitted : entry.Admitted direction) : parseEntry direction entry.toText = .ok entry := by
  rw [parseEntry, PriorityMap.parse_toText admitted]
  rfl

def Item.toText : Item → String
  | .text value => value
  | .address value => value.toText
  | .route value => value.toText
  | .watcher value => value.toText
  | .priority value => value.toText
  | .function value => value.toText
  | .qdisc value => value.toText

def ItemForm.holdsTexts : ItemForm → Bool
  | .text _ | .server _ => true
  | _ => false

namespace ListContract

def written (list : ListContract) (item : Item) : String := list.format .parsable [item]

/-- The words and the separators of a list do not get in the way of reading what is written. -/
structure Faithful (list : ListContract) : Prop where
  words : ∀ word ∈ list.words, Text.IsWord word ∧ choose list.words word = .ok word
  separators : list.separators = if list.form.holdsTexts then plainSeparators else commaOnly

instance (list : ListContract) : Decidable list.Faithful :=
  decidable_of_iff
    ((∀ word ∈ list.words, Text.IsWord word ∧ choose list.words word = .ok word) ∧
      list.separators = if list.form.holdsTexts then plainSeparators else commaOnly)
    ⟨fun parts => ⟨parts.1, parts.2⟩, fun faithful => ⟨faithful.words, faithful.separators⟩⟩

structure KeepsText (list : ListContract) (text : String) : Prop where
  clean : ∀ c ∈ text.toList, Text.isSpaceOrTab c = false ∧ c ≠ ','
  back : list.parseItem text = .ok (.text text)

variable {list : ListContract} {text : String} {items : List Item} {item : Item}

theorem parseItem_trim (list : ListContract) (text : String) :
    list.parseItem (Text.trim text) = list.parseItem text := by
  rw [parseItem, parseItem, Text.trim_trim]

theorem elem_plainSeparators {c : Char} :
    plainSeparators.elem c = false ↔ Text.isSpaceOrTab c = false ∧ c ≠ ',' := by
  simp [plainSeparators, Text.isSpaceOrTab, and_assoc]

theorem parseItems_of_holdsTexts (texts : list.form.holdsTexts = true) (text : String) :
    list.parseItems text = readItems (list.separators.elem ·) list.parseItem text := by
  unfold parseItems
  split
  case h_4 => rfl
  all_goals
    next form =>
    rw [form] at texts
    cases texts

/-- Each item that is read was a part of the text, without separators. -/
theorem exists_part (faithful : list.Faithful) (texts : list.form.holdsTexts = true)
    (read : list.parseItems text = .ok items) (here : item ∈ items) :
    ∃ part ∈ Text.items (plainSeparators.elem ·) text, list.parseItem part = .ok item := by
  rw [parseItems_of_holdsTexts texts, faithful.separators, if_pos texts] at read
  exact Reading.mem_of_mapM_eq_ok read here

theorem keepsText_of_isWord {kept : String} (word : Text.IsWord kept)
    (back : list.parseItem kept = .ok (.text kept)) : list.KeepsText kept where
  clean := word.isToken.clean
  back := back

theorem keepsText_of_check {rule : TextRule} (form : list.form = .text (some rule)) {kept : String}
    (clean : ∀ c ∈ text.toList, Text.isSpaceOrTab c = false ∧ c ≠ ',') (trimmed : Text.trim text = text)
    (read : rule.check text = .ok kept) : list.KeepsText kept := by
  have keeps := TextRule.keeps_of_check ⟨trimmed, TextRule.ne_empty_of_check read⟩ read
  refine ⟨fun c here => (TextRule.mem_of_check read here).elim (clean c) id, ?_⟩
  simp only [parseItem, form, parseText, keeps.inked.trimmed, keeps.same]
  rfl

theorem keepsText_of_free (form : list.form = .text none) (free : list.words = [])
    (clean : ∀ c ∈ text.toList, Text.isSpaceOrTab c = false ∧ c ≠ ',') (trimmed : Text.trim text = text) :
    list.KeepsText text := by
  refine ⟨clean, ?_⟩
  simp only [parseItem, form, parseText, if_pos free, trimmed]
  rfl

theorem keepsText_of_choose (faithful : list.Faithful) (form : list.form = .text none)
    (wordy : list.words ≠ []) {kept : String} (read : choose list.words text = .ok kept) :
    list.KeepsText kept := by
  obtain ⟨word, again⟩ := faithful.words kept (choose_mem read)
  apply keepsText_of_isWord word
  simp only [parseItem, form, parseText, if_neg wordy, Text.trim_of_isTight word.isTight, again]
  rfl

theorem keepsText_of_server {family : Family} (form : list.form = .server family) {address : Address}
    (read : Address.readServer family text = .ok address) : list.KeepsText address.toText := by
  apply keepsText_of_isWord address.isWord_toText
  simp only [parseItem, form, Text.trim_of_isTight address.isWord_toText.isTight, Address.readServer_toText read]
  rfl

theorem keepsText_of_part (faithful : list.Faithful) (texts : list.form.holdsTexts = true) {part : String}
    (cut : part ∈ Text.items (plainSeparators.elem ·) text) (read : list.parseItem part = .ok item) :
    ∃ kept, item = .text kept ∧ list.KeepsText kept := by
  have clean : ∀ c ∈ (Text.trim part).toList, Text.isSpaceOrTab c = false ∧ c ≠ ',' := fun c here =>
    elem_plainSeparators.1 ((Text.mem_items cut).2 c (Text.mem_of_mem_trim here)).2
  cases form : list.form with
  | text rule =>
    simp only [parseItem, form] at read
    obtain ⟨kept, found, rfl⟩ := Reading.map_eq_ok read
    refine ⟨kept, rfl, ?_⟩
    cases rule with
    | some rule => exact keepsText_of_check form clean (Text.trim_trim part) found
    | none =>
      by_cases free : list.words = []
      · simp only [parseText, if_pos free] at found
        cases found
        exact keepsText_of_free form free clean (Text.trim_trim part)
      · simp only [parseText, if_neg free] at found
        exact keepsText_of_choose faithful form free found
  | server family =>
    simp only [parseItem, form] at read
    obtain ⟨address, found, rfl⟩ := Reading.map_eq_ok read
    exact ⟨address.toText, rfl, keepsText_of_server form found⟩
  | subnet | route | watcher | priority | function | qdisc =>
    rw [form] at texts
    cases texts

theorem format_texts (texts : list.form.holdsTexts = true) (mode : Mode) (kept : List String) :
    list.format mode (kept.map .text) = String.intercalate "," kept := by
  have same : (kept.map Item.text).filterMap Item.text? = kept := by
    simp [List.filterMap_map, Function.comp_def, Item.text?]
  cases form : list.form with
  | text | server => simp only [format, form, same]
  | subnet | route | watcher | priority | function | qdisc =>
    rw [form] at texts
    cases texts

/-- A list of kept texts is read from its own text again, but for those that are empty. -/
theorem parseItems_format_texts (faithful : list.Faithful) (texts : list.form.holdsTexts = true)
    {kept : List String} (keeps : ∀ text ∈ kept, list.KeepsText text) (mode : Mode) :
    list.parseItems (list.format mode (kept.map .text)) = .ok ((kept.filter (· ≠ "")).map .text) := by
  have cut : Text.items (plainSeparators.elem ·) (String.intercalate "," kept) = kept.filter (· ≠ "") :=
    Text.items_glued_eq_filter ',' rfl (fun text here c inside =>
      elem_plainSeparators.2 ((keeps text here).clean c inside)) (by decide)
  rw [format_texts texts, parseItems_of_holdsTexts texts, faithful.separators, if_pos texts, readItems, cut]
  exact Reading.mapM_eq_ok_map fun text here => (keeps text (List.mem_filter.1 here).1).back

theorem written_eq_toText (admits : list.AdmitsItem item) : list.written item = item.toText := by
  unfold AdmitsItem at admits
  split at admits
  case h_9 => exact admits.elim
  all_goals
    next form =>
    simp [written, format, form, Item.toText, Item.text?, Item.address?, Item.route?, Item.watcher?, Item.priority?,
      Item.function?, Item.qdisc?, Subnet.formatList, Route.formatList, LinkWatcher.formatList, priorities,
      PriorityMap.format, functions, VirtualFunction.formatList, Qdisc.formatList]

section Again

variable {family : Family} {direction : Direction}

theorem parseItem_toText_subnet (form : list.form = .subnet family) (read : list.parseItem text = .ok item) :
    list.parseItem item.toText = .ok item := by
  simp only [parseItem, form] at read
  obtain ⟨subnet, found, rfl⟩ := Reading.map_eq_ok read
  have word : Text.IsWord subnet.toText := Subnet.isWord_joined _ _
  simp only [Item.toText, parseItem, form, Text.trim_of_isTight word.isTight,
    Subnet.parse_toText (Subnet.isOf_of_parse found)]
  rfl

theorem parseItem_toText_route (form : list.form = .route family) (read : list.parseItem text = .ok item) :
    list.parseItem item.toText = .ok item := by
  simp only [parseItem, form] at read
  obtain ⟨route, found, rfl⟩ := Reading.map_eq_ok read
  have legal := Route.wellFormed_of_parse found
  have tight : Text.IsTight route.toText.toList :=
    (Text.isTight_intercalate fun _ here => Route.isWord_of_mem_words legal here).1
  simp only [Item.toText, parseItem, form, Text.trim_of_isTight tight, Route.parse_toText legal]
  rfl

theorem parseItem_toText_priority (form : list.form = .priority direction)
    (read : list.parseItem text = .ok item) : list.parseItem item.toText = .ok item := by
  simp only [parseItem, form] at read
  obtain ⟨entry, found, rfl⟩ := Reading.map_eq_ok read
  have admitted := admitted_of_parseEntry found
  have tight := (PriorityEntry.isWord_toText admitted).isTight
  simp only [Item.toText, parseItem, form, Text.trim_of_isTight tight, parseEntry_toText admitted]
  rfl

theorem parseItem_toText_function (form : list.form = .function) (read : list.parseItem text = .ok item) :
    list.parseItem item.toText = .ok item := by
  simp only [parseItem, form] at read
  obtain ⟨function, found, rfl⟩ := Reading.map_eq_ok read
  simp only [Item.toText, parseItem, form, function_parse_trim,
    VirtualFunction.parse_toText (VirtualFunction.wellFormed_of_parse found)]
  rfl

/-- That a part has no comma in it is known of parts of a list only. -/
theorem parseItem_toText_qdisc (form : list.form = .qdisc) (read : list.parseItems text = .ok items)
    (here : item ∈ items) : list.parseItem item.toText = .ok item := by
  simp only [parseItems, form] at read
  obtain ⟨qdiscs, qdiscsRead, rfl⟩ := Reading.map_eq_ok read
  obtain ⟨qdisc, member, rfl⟩ := List.mem_map.1 here
  obtain ⟨part, cut, found⟩ := Reading.mem_of_mapM_eq_ok (Qdisc.parseList_eq_ok_iff.1 qdiscsRead) member
  simp only [Item.toText, parseItem, form, qdisc_parse_trim,
    Qdisc.parse_toText (Qdisc.wellFormed_of_parse cut found)]
  rfl

/-- Whatever text an item was read in, it is read again from its own. -/
theorem parseItem_written (faithful : list.Faithful) (lossless : list.form ≠ .watcher)
    (read : list.parseItems text = .ok items) (here : item ∈ items) :
    list.parseItem (list.written item) = .ok item := by
  have reads := readsItem_of_parseItems read here
  rw [written_eq_toText (admitsItem_of_reads reads)]
  obtain ⟨part, partRead⟩ := reads
  cases form : list.form with
  | text | server =>
    have texts : list.form.holdsTexts = true := by rw [form]; rfl
    obtain ⟨part, cut, partRead⟩ := exists_part faithful texts read here
    obtain ⟨kept, rfl, keeps⟩ := keepsText_of_part faithful texts cut partRead
    exact keeps.back
  | subnet => exact parseItem_toText_subnet form partRead
  | route => exact parseItem_toText_route form partRead
  | watcher => exact absurd form lossless
  | priority => exact parseItem_toText_priority form partRead
  | function => exact parseItem_toText_function form partRead
  | qdisc => exact parseItem_toText_qdisc form read here

end Again

section

variable (inked : Text.trim text ≠ "") (clean : ∀ c ∈ text.toList, c ∉ list.separators)
  (noComma : ',' ∉ text.toList)
include inked clean noComma

/-- A text that nothing cuts is one item, blanks at its ends aside. -/
theorem parseItems_eq_ok_iff (items : List Item) :
    list.parseItems text = .ok items ↔ ∃ item, list.parseItem text = .ok item ∧ [item] = items := by
  have notEmpty := Text.toList_ne_nil_of_trim inked
  have whole := Text.isComma_of_not_mem noComma
  -- maps, functions and disciplines are cut at commas only, whatever the separators of the list
  cases form : list.form with
  | priority direction =>
    have alone : ∀ entries, PriorityMap.parse direction false text = .ok entries ↔
        ∃ entry, parseEntry direction (Text.trim text) = .ok entry ∧ [entry] = entries := by
      intro entries
      simp only [PriorityMap.parse_of_clean inked whole, Reading.map_eq_ok_iff,
        parseEntry_trim_eq_ok_iff inked whole]
    simp only [parseItems, parseItem, form]
    exact Reading.map_single_iff alone _ items
  | function =>
    have alone : ∀ functions, VirtualFunction.parseList text = .ok functions ↔
        ∃ function, VirtualFunction.parse (Text.trim text) = .ok function ∧ [function] = functions := by
      intro functions
      rw [VirtualFunction.parseList_eq_ok_iff, Text.readItems_of_clean notEmpty whole, Reading.map_eq_ok_iff,
        function_parse_trim]
    simp only [parseItems, parseItem, form]
    exact Reading.map_single_iff alone _ items
  | qdisc =>
    have alone : ∀ qdiscs, Qdisc.parseList text = .ok qdiscs ↔
        ∃ qdisc, Qdisc.parse (Text.trim text) = .ok qdisc ∧ [qdisc] = qdiscs := by
      intro qdiscs
      rw [Qdisc.parseList_eq_ok_iff, Text.readItems_of_clean notEmpty whole, Reading.map_eq_ok_iff,
        qdisc_parse_trim]
    simp only [parseItems, parseItem, form]
    exact Reading.map_single_iff alone _ items
  | text | subnet | route | server | watcher =>
    have uncut : ∀ c ∈ text.toList, list.separators.elem c = false := fun c here => by
      simpa using clean c here
    simp only [parseItems, form]
    rw [Text.readItems_of_clean notEmpty uncut, Reading.map_eq_ok_iff]

/-- What is added and what is taken away are read alike: a text that is not blank and has neither a
comma nor a separator of the list in it is read as the one item that it says, or else not at all. -/
theorem parseItems_single :
    (∀ item, list.parseItems text = .ok [item] ↔ list.parseItem text = .ok item) ∧
      ∀ items, list.parseItems text = .ok items → items.length = 1 := by
  constructor
  · intro item
    rw [parseItems_eq_ok_iff inked clean noComma]
    constructor
    · rintro ⟨other, read, same⟩
      cases same
      exact read
    · intro read
      exact ⟨item, read, rfl⟩
  · intro items read
    obtain ⟨item, -, rfl⟩ := (parseItems_eq_ok_iff inked clean noComma items).1 read
    rfl

end

/-- Blanks of all kinds stand around the two sides of an entry. -/
theorem parseItems_single_entry :
    let list : ListContract := { form := .priority .ingress }
    let text := "\x0b3 :\u2028+5\t"
    Text.trim text ≠ "" ∧ (∀ c ∈ text.toList, c ∉ list.separators) ∧ ',' ∉ text.toList ∧
      list.parseItem text = .ok (.priority ⟨3, some 5⟩) ∧
      list.parseItems text = .ok [.priority ⟨3, some 5⟩] := by
  intro list text
  have inked : Text.trim text ≠ "" := by decide
  have noComma : ',' ∉ text.toList := by decide
  have clean : ∀ c ∈ text.toList, c ∉ list.separators := fun c here separates =>
    noComma (List.mem_singleton.1 separates ▸ here)
  have read : list.parseItem text = .ok (.priority ⟨3, some 5⟩) := by decide +kernel
  exact ⟨inked, clean, noComma, read, ((parseItems_single inked clean noComma).1 _).2 read⟩

/-- Whether the items are addresses, or texts that a rule or the words of the list decide on. -/
def isChecked (list : ListContract) : Bool :=
  match list.form with
  | .subnet _ | .server _ | .text (some _) => true
  | .text none => list.words ≠ []
  | _ => false

def isFree (list : ListContract) : Bool :=
  match list.form with
  | .text none => list.words = []
  | _ => false

theorem parseItem_space (list : ListContract) (text : String) :
    list.parseItem (" " ++ text) = list.parseItem text := by
  rw [← parseItem_trim, Text.trim_space_append, parseItem_trim]

theorem ne_empty_of_parseItem (checked : list.isChecked = true) (texts : list.form.holdsTexts = true)
    (read : list.parseItem text = .ok item) : text ≠ "" := by
  rintro rfl
  have nothing : Text.trim "" = "" := by decide
  simp only [parseItem, nothing] at read
  cases form : list.form with
  | text rule =>
    simp only [form] at read
    obtain ⟨kept, found, rfl⟩ := Reading.map_eq_ok read
    cases rule with
    | some rule => exact TextRule.ne_empty_of_check found rfl
    | none =>
      have offered : list.words ≠ [] := by simpa [isChecked, form] using checked
      simp only [parseText, if_neg offered, choose, nothing, if_true] at found
      cases found
  | server family =>
    simp only [form] at read
    obtain ⟨address, found, rfl⟩ := Reading.map_eq_ok read
    have noServer : (Address.readServer family "").toOption = none := by cases family <;> decide
    rw [found] at noServer
    cases noServer
  | subnet | route | watcher | priority | function | qdisc =>
    rw [form] at texts
    cases texts

theorem exists_texts {holds : String → Prop} (each : ∀ item ∈ items, ∃ kept, item = .text kept ∧ holds kept) :
    ∃ kept : List String, kept.map .text = items ∧ ∀ text ∈ kept, holds text := by
  have ranged : ∀ item ∈ items, item ∈ Set.range Item.text := fun item here =>
    (each item here).imp fun kept same => same.1.symm
  obtain ⟨kept, rfl⟩ := (Set.range_list_map Item.text).ge ranged
  refine ⟨kept, rfl, fun text here => ?_⟩
  obtain ⟨other, same, held⟩ := each _ (List.mem_map_of_mem here)
  cases same
  exact held

theorem parseItems_format_subnets (faithful : list.Faithful) {family : Family} (form : list.form = .subnet family)
    (read : list.parseItems text = .ok items) :
    list.parseItems (list.format .parsable items) = .ok items := by
  have each : ∀ item ∈ items, item ∈ Set.range Item.address := by
    intro item here
    obtain ⟨part, partRead⟩ := readsItem_of_parseItems read here
    simp only [parseItem, form] at partRead
    obtain ⟨subnet, -, same⟩ := Reading.map_eq_ok partRead
    exact ⟨subnet, same⟩
  obtain ⟨subnets, rfl⟩ := (Set.range_list_map Item.address).ge each
  have written : list.written ∘ Item.address = Subnet.toText := by
    funext subnet
    simp [ListContract.written, format, form, Item.address?, Subnet.formatList]
  have whole : list.format .parsable (subnets.map .address)
      = String.intercalate ", " ((subnets.map Item.address).map list.written) := by
    rw [List.map_map, written]
    simp [format, form, List.filterMap_map, Function.comp_def, Item.address?, Subnet.formatList]
  have separators : list.separators = commaOnly := by simp [faithful.separators, form, ItemForm.holdsTexts]
  have single : ∀ other, list.parseItems other = readItems (commaOnly.elem ·) list.parseItem other := fun other => by
    simp only [parseItems, form, separators]
  have back : ∀ item ∈ subnets.map Item.address, list.parseItem (list.written item) = .ok item := fun item here =>
    parseItem_written faithful (by simp [form]) read here
  have clean : ∀ item ∈ subnets.map Item.address,
      (list.written item).toList ≠ [] ∧ ',' ∉ (list.written item).toList := by
    intro item here
    obtain ⟨subnet, -, rfl⟩ := List.mem_map.1 here
    rw [show list.written (.address subnet) = subnet.toText from congrFun written subnet]
    have word : Text.IsWord subnet.toText := Subnet.isWord_joined _ _
    exact ⟨word.notEmpty, fun comma => (word.clean ',' comma).2 rfl⟩
  rw [whole, single]
  exact Text.readItems_intercalate clean back fun item here => (list.parseItem_space _).trans (back item here)

/-- A list that decides on its items is read back from the text that it writes. -/
theorem parseItems_format (faithful : list.Faithful) (checked : list.isChecked = true)
    (read : list.parseItems text = .ok items) :
    list.parseItems (list.format .parsable items) = .ok items := by
  by_cases texts : list.form.holdsTexts = true
  · have each : ∀ item ∈ items, ∃ kept, item = .text kept ∧ list.KeepsText kept := by
      intro item here
      obtain ⟨part, cut, partRead⟩ := exists_part faithful texts read here
      exact keepsText_of_part faithful texts cut partRead
    obtain ⟨kept, rfl, keeps⟩ := exists_texts each
    have inked : ∀ text ∈ kept, decide (text ≠ "") = true := fun text here =>
      decide_eq_true (ne_empty_of_parseItem checked texts (keeps text here).back)
    rw [parseItems_format_texts faithful texts keeps, List.filter_eq_self.2 inked]
  · cases form : list.form with
    | subnet family => exact parseItems_format_subnets faithful form read
    | text | server | route | watcher | priority | function | qdisc =>
      simp [isChecked, form, ItemForm.holdsTexts] at checked texts

end ListContract

end NetProfile
