import NetProfile.Proofs.Contract.Reads
import NetProfile.Proofs.Record.Route

/-!
Legal values of contracts, told by what they are and not by how they were read: numbers within their
bounds, arrays that keep to their rule, items of the right family. A value that is read from a text
is legal if the contract itself makes sense, that is, if its named numbers lie within its bounds.
-/

namespace NetProfile

def Within (bounds : Int64 × Int64) (number : Int64) : Prop :=
  bounds.1 ≤ number ∧ number ≤ bounds.2

instance (bounds : Int64 × Int64) (number : Int64) : Decidable (Within bounds number) :=
  inferInstanceAs (Decidable (_ ∧ _))

def SlotRule.sum : List UInt32 → Nat
  | [] => 0
  | slot :: rest => slot.toNat + sum rest

structure SlotRule.Admits (rule : SlotRule) (slots : Slots) : Prop where
  each : ∀ slot ∈ slots.toList, slot ≤ rule.largest ∨ rule.other = some slot
  percent : rule.percent = true → SlotRule.sum slots.toList = 100

/-- No sum of eight slots is too great for a word of 32 bits. -/
def SlotRule.Sound (rule : SlotRule) : Prop := rule.percent = true → 8 * rule.upper < 4294967296

instance (rule : SlotRule) : Decidable rule.Sound := inferInstanceAs (Decidable (_ → _))

namespace SlotRule

variable {rule : SlotRule} {slot : UInt32} {slots : Slots} {text : String}

theorem le_upper (allowed : slot ≤ rule.largest ∨ rule.other = some slot) : slot.toNat ≤ rule.upper := by
  unfold upper
  rcases allowed with below | other
  · exact Nat.le_trans (UInt32.le_iff_toNat_le.1 below) (Nat.le_max_right _ _)
  · rw [other, Option.getD_some]
    exact Nat.le_max_left _ _

theorem upper_lt (rule : SlotRule) : rule.upper < 4294967296 :=
  Nat.max_lt.2 ⟨UInt32.toNat_lt _, UInt32.toNat_lt _⟩

theorem readSlot_eq_ok_iff {field : String} : rule.readSlot field = .ok slot ↔
    Numeral.readSigned (.fixed 10) field = some (slot.toNat : Int) ∧
      (slot ≤ rule.largest ∨ rule.other = some slot) := by
  unfold readSlot
  constructor
  · intro read
    simp only at read
    split at read
    · cases read
    · next n found =>
      split at read
      · cases read
      · next allowed =>
        cases read
        obtain ⟨number, bounded⟩ := Numeral.natural?_eq_some_iff.1 found
        rw [Numeral.readSigned_trim] at number
        have fits : n < 4294967296 := Nat.lt_of_le_of_lt bounded rule.upper_lt
        refine ⟨by rwa [UInt32.toNat_ofNat_of_lt' fits], ?_⟩
        by_cases above : rule.largest < UInt32.ofNat n
        · exact .inr (Decidable.byContradiction fun other => allowed ⟨above, Ne.symm other⟩)
        · exact .inl (UInt32.not_lt.1 above)
  · rintro ⟨number, allowed⟩
    have read : Numeral.natural? (.fixed 10) rule.upper (Text.trim field) = some slot.toNat :=
      Numeral.natural?_eq_some_iff.2 ⟨by rwa [Numeral.readSigned_trim], le_upper allowed⟩
    have legal : ¬(rule.largest < slot ∧ some slot ≠ rule.other) := by
      rintro ⟨above, notOther⟩
      rcases allowed with below | other
      · exact absurd above (UInt32.not_lt.2 below)
      · exact notOther other.symm
    simp only [read, UInt32.ofNat_toNat, if_neg legal]

/-- There are as many fields as slots, each read as the slot in its place. -/
theorem readSlots_eq_ok_iff : rule.readSlots text = .ok slots ↔
    (Text.pieces (· == ',') text).mapM rule.readSlot = .ok slots.toList := by
  rw [Reading.mapM_eq_ok_iff]
  unfold readSlots
  constructor
  · intro read
    split at read
    · next a b c d e f g h fields =>
      obtain ⟨a', aRead, read⟩ := Reading.bind_eq_ok read
      obtain ⟨b', bRead, read⟩ := Reading.bind_eq_ok read
      obtain ⟨c', cRead, read⟩ := Reading.bind_eq_ok read
      obtain ⟨d', dRead, read⟩ := Reading.bind_eq_ok read
      obtain ⟨e', eRead, read⟩ := Reading.bind_eq_ok read
      obtain ⟨f', fRead, read⟩ := Reading.bind_eq_ok read
      obtain ⟨g', gRead, read⟩ := Reading.bind_eq_ok read
      obtain ⟨h', hRead, read⟩ := Reading.bind_eq_ok read
      cases read
      rw [fields]
      exact .cons aRead (.cons bRead (.cons cRead (.cons dRead (.cons eRead (.cons fRead (.cons gRead
        (.cons hRead .nil)))))))
    · cases read
  · intro each
    obtain ⟨⟨values⟩, eight⟩ := slots
    match values, eight with
    | [a, b, c, d, e, f, g, h], _ =>
      simp only [Vector.toList_mk, List.forall₂_cons_right_iff, List.forall₂_nil_right_iff] at each
      obtain ⟨_, _, aRead, ⟨_, _, bRead, ⟨_, _, cRead, ⟨_, _, dRead, ⟨_, _, eRead, ⟨_, _, fRead, ⟨_, _, gRead,
        ⟨_, _, hRead, rfl, rfl⟩, rfl⟩, rfl⟩, rfl⟩, rfl⟩, rfl⟩, rfl⟩, fields⟩ := each
      rw [fields]
      simp only [aRead, bRead, cRead, dRead, eRead, fRead, gRead, hRead, bind, Except.bind, pure, Except.pure]

theorem allowed_of_readSlots (read : rule.readSlots text = .ok slots) :
    ∀ slot ∈ slots.toList, slot ≤ rule.largest ∨ rule.other = some slot := by
  intro slot here
  obtain ⟨field, -, read⟩ := Reading.mem_of_mapM_eq_ok (readSlots_eq_ok_iff.1 read) here
  exact (readSlot_eq_ok_iff.1 read).2

/-- Slots are added up from some word on, as long as the sum is a word. -/
theorem foldlM_add? (slots : List UInt32) (start : UInt32) :
    slots.foldlM add? start =
      if start.toNat + sum slots < 4294967296 then some (UInt32.ofNat (start.toNat + sum slots)) else none := by
  induction slots generalizing start with
  | nil => simp [sum, start.toNat_lt]
  | cons slot rest ih =>
    rw [List.foldlM_cons, add?]
    by_cases fits : start.toNat + slot.toNat < 4294967296
    · have step : (start + slot).toNat = start.toNat + slot.toNat :=
        (UInt32.toNat_add _ _).trans (Nat.mod_eq_of_lt fits)
      rw [if_pos fits, Option.bind_eq_bind, Option.bind_some, ih, step, sum, Nat.add_assoc]
    · rw [if_neg fits, if_neg (by rw [sum]; omega)]
      rfl

theorem total?_eq (slots : Slots) :
    total? slots =
      if sum slots.toList < 4294967296 then some (UInt32.ofNat (sum slots.toList)) else none := by
  rw [total?, foldlM_add?]
  simp only [UInt32.toNat_zero, Nat.zero_add]

/-- Percentages are checked by their exact sum, as far as it is a word. -/
theorem checkTotal_eq (rule : SlotRule) (text : String) (slots : Slots) :
    rule.checkTotal text slots =
      if rule.percent then
        if sum slots.toList < 4294967296 then
          if sum slots.toList = 100 then .ok () else .error (.invalid text .percentTotal)
        else .error .overflow
      else .ok () := by
  unfold checkTotal
  rw [total?_eq]
  by_cases fits : sum slots.toList < 4294967296
  · have hundred : UInt32.ofNat (sum slots.toList) = 100 ↔ sum slots.toList = 100 := by
      rw [← UInt32.toNat_inj, UInt32.toNat_ofNat_of_lt' fits]
      rfl
    simp only [if_pos fits, hundred]
  · simp only [if_neg fits]

theorem checkTotal_eq_ok_iff (text : String) :
    rule.checkTotal text slots = .ok () ↔ (rule.percent = true → sum slots.toList = 100) := by
  rw [checkTotal_eq]
  by_cases percent : rule.percent = true
  · by_cases hundred : sum slots.toList = 100
    · simp [percent, hundred]
    · by_cases fits : sum slots.toList < 4294967296 <;> simp [percent, hundred, fits]
  · simp [percent]

/-- Only a sum that is no word ends the run. -/
theorem checkTotal_eq_overflow_iff (text : String) :
    rule.checkTotal text slots = .error .overflow ↔ rule.percent = true ∧ 4294967296 ≤ sum slots.toList := by
  have other : Error.invalid text .percentTotal ≠ .overflow := by simp [Error.overflow, Error.invalid]
  rw [checkTotal_eq]
  by_cases percent : rule.percent = true
  · by_cases fits : sum slots.toList < 4294967296
    · by_cases hundred : sum slots.toList = 100 <;> simp [percent, fits, hundred, other, Nat.not_le.2 fits]
    · simp [percent, fits, Nat.not_lt.1 fits]
  · simp [percent]

theorem parse_eq_ok_iff : rule.parse text = .ok slots ↔
    rule.readSlots text = .ok slots ∧ (rule.percent = true → sum slots.toList = 100) := by
  rw [← checkTotal_eq_ok_iff text]
  unfold parse
  constructor
  · intro read
    obtain ⟨found, slotsRead, read⟩ := Reading.bind_eq_ok read
    obtain ⟨_, checked, same⟩ := Reading.bind_eq_ok read
    cases same
    exact ⟨slotsRead, checked⟩
  · rintro ⟨slotsRead, checked⟩
    simp only [slotsRead, checked, bind, Except.bind, pure, Except.pure]

theorem admits_of_parse (read : rule.parse text = .ok slots) : rule.Admits slots where
  each := allowed_of_readSlots (parse_eq_ok_iff.1 read).1
  percent := (parse_eq_ok_iff.1 read).2

theorem sum_le {slots : List UInt32} {bound : Nat} (each : ∀ slot ∈ slots, slot.toNat ≤ bound) :
    sum slots ≤ slots.length * bound := by
  induction slots with
  | nil => exact Nat.zero_le _
  | cons slot rest ih =>
    have first := each slot List.mem_cons_self
    have later := ih fun other here => each other (List.mem_cons_of_mem _ here)
    rw [sum, List.length_cons, Nat.succ_mul]
    omega

theorem Sound.sum_lt (sound : rule.Sound) (percent : rule.percent = true)
    (read : rule.readSlots text = .ok slots) : sum slots.toList < 4294967296 := by
  have small := sum_le fun slot here => le_upper (allowed_of_readSlots read slot here)
  rw [slots.length_toList] at small
  exact Nat.lt_of_le_of_lt small (sound percent)

end SlotRule

def Scalar.Admits (scalar : Scalar) (value : Value) : Prop :=
  match scalar, value with
  | .text rule words, .text held =>
    rule = none → words ≠ [] → ∀ word, held = some word → word ∈ words
  | .integer rule, .int number => Within rule.bounds number
  | .mtu, .int number => Within (0, 4294967295) number
  | .enumeration spec _, .int number | .wepKeyType spec, .int number => Within spec.bounds number
  | .ternary _, .int number => Within (-1, 1) number
  | .slots rule _, .slots held => rule.Admits held
  | .features, .int number => Within (0, 7) number
  | .bool, .bool _ | .hardwareAddress _, .text _ | .octets _, .octets _ => True
  | _, _ => False

def IntegerRule.Sound (rule : IntegerRule) : Prop :=
  ∀ named ∈ rule.aliases, Within rule.bounds named.2

instance (rule : IntegerRule) : Decidable rule.Sound :=
  inferInstanceAs (Decidable (∀ named ∈ rule.aliases, _))

def Scalar.Sound (scalar : Scalar) : Prop :=
  match scalar with
  | .integer rule => rule.Sound
  | .slots rule _ => rule.Sound
  | _ => True

instance (scalar : Scalar) : Decidable scalar.Sound := by
  unfold Scalar.Sound
  split <;> infer_instance

theorem IntegerRule.within_of_parse {rule : IntegerRule} (sound : rule.Sound) {text : String}
    {number : Int64} (read : rule.parse text = .ok number) : Within rule.bounds number := by
  unfold parse at read
  simp only at read
  split at read
  · next name value found =>
    cases read
    exact sound _ (List.mem_of_find?_eq_some found)
  · exact readWithin_mem read

theorem Enumeration.within_of_parse {spec : Enumeration} {text : String} {number : Int64}
    (read : spec.parse text = .ok number) : Within spec.bounds number := by
  unfold parse at read
  simp only at read
  split at read
  · split at read
    · next inside =>
      cases read
      exact inside
    · cases read
  · cases read

theorem Ternary.within_of_parse {style : Ternary} {text : String} {number : Int64}
    (read : style.parse text = .ok number) : Within (-1, 1) number := by
  have three : Within (-1, 1) yes ∧ Within (-1, 1) no ∧ Within (-1, 1) unset := by decide
  unfold parse at read
  simp only at read
  split at read <;> split at read
  · cases read
    exact three.1
  · split at read
    · cases read
      exact three.2.1
    · split at read <;> cases read
      exact three.2.2
  · cases read
    exact three.1
  · split at read
    · cases read
      exact three.2.1
    · split at read <;> cases read
      exact three.2.2

namespace FeatureFlags

theorem wholeNumber?_le {text : String} {flags : UInt32} (read : wholeNumber? text = some flags) :
    flags.toNat ≤ 7 := by
  unfold wholeNumber? at read
  obtain ⟨n, found, rfl⟩ := Option.map_eq_some_iff.1 read
  rw [UInt32.toNat_ofNat']
  exact Nat.le_trans (Nat.mod_le _ _) (Numeral.le_of_natural? found)

theorem tokenBits_le {token : String} {bits : UInt32} (read : tokenBits token = some bits) :
    bits.toNat ≤ 7 := by
  unfold tokenBits at read
  simp only at read
  split at read
  · cases read
    decide
  · split at read
    · cases read
      decide
    · split at read
      · cases read
        decide
      · split at read <;> cases read
        decide

theorem joinTokens_le {tokens : List String} {start flags : UInt32} (small : start.toNat ≤ 7)
    (read : joinTokens start tokens = .ok flags) : flags.toNat ≤ 7 := by
  induction tokens generalizing start with
  | nil =>
    cases read
    exact small
  | cons token rest ih =>
    unfold joinTokens at read
    split at read
    · next bits found =>
      refine ih ?_ read
      have bounded := tokenBits_le found
      have joined : (start ||| bits).toNat < 2 ^ 3 := by
        rw [UInt32.toNat_or]
        exact Nat.or_lt_two_pow (by omega) (by omega)
      omega
    · cases read

theorem le_of_parse {text : String} {flags : UInt32} (read : parse text = .ok flags) :
    flags.toNat ≤ 7 := by
  unfold parse at read
  simp only at read
  split at read
  · next found =>
    cases read
    exact wholeNumber?_le found
  · exact joinTokens_le (by decide) read

theorem within_of_parse {text : String} {flags : UInt32} (read : parse text = .ok flags) :
    Within (0, 7) flags.toUInt64.toInt64 := by
  have small := le_of_parse read
  have eight : ∀ n : Fin 8, Within (0, 7) (UInt32.ofNat n).toUInt64.toInt64 := by decide
  have inside := eight ⟨flags.toNat, by omega⟩
  rwa [UInt32.ofNat_toNat] at inside

end FeatureFlags

theorem Scalar.within_of_parseMtu {text : String} {number : Int64} (read : parseMtu text = .ok number) :
    Within (0, 4294967295) number := by
  unfold parseMtu at read
  simp only at read
  split at read
  · cases read
    decide
  · exact readWithin_mem read

theorem Scalar.admits_of_parse {scalar : Scalar} (sound : scalar.Sound) {text : String} {value : Value}
    (read : scalar.parse text = .ok value) : scalar.Admits value := by
  cases scalar <;> simp only [parse] at read <;>
    obtain ⟨inner, given, rfl⟩ := Reading.map_eq_ok read <;> simp only [Admits]
  case text rule words =>
    intro noRule someWords word same
    subst noRule same
    unfold parseText at given
    simp only [if_neg someWords] at given
    split at given
    · cases given
    · obtain ⟨chosen, choice, same⟩ := Reading.map_eq_ok given
      cases same
      exact choose_mem choice
  case integer rule => exact IntegerRule.within_of_parse sound given
  case mtu => exact within_of_parseMtu given
  case enumeration spec table => exact Enumeration.within_of_parse given
  case wepKeyType spec => exact Enumeration.within_of_parse given
  case ternary style => exact Ternary.within_of_parse given
  case slots rule switch => exact SlotRule.admits_of_parse given
  case features => exact FeatureFlags.within_of_parse given

/-- Entries of a priority map. There are no wildcards among them. -/
def PriorityEntry.Admitted (direction : Direction) (entry : PriorityEntry) : Prop :=
  entry.source.toNat ≤ direction.limits.1 ∧
    ∃ target, entry.target = some target ∧ target.toNat ≤ direction.limits.2

def ListContract.AdmitsItem (list : ListContract) (item : Item) : Prop :=
  match list.form, item with
  | .text rule, .text held => rule = none → list.words ≠ [] → held ∈ list.words
  | .subnet family, .address held => held.IsOf family
  | .route family, .route held => held.WellFormed family
  | .server family, .text held =>
    ∃ address : Address, address.family = family ∧ held = address.toText
  | .priority direction, .priority held => held.Admitted direction
  | .watcher, .watcher _ | .function, .function _ | .qdisc, .qdisc _ => True
  | _, _ => False

theorem PriorityEntry.side?_le {limit : Nat} {text : String} {number : UInt32}
    (read : side? limit text = some number) : number.toNat ≤ limit := by
  unfold side? at read
  split at read
  · split at read
    · next bounded =>
      cases read
      rw [UInt32.toNat_ofNat']
      exact Nat.le_trans (Nat.mod_le _ _) bounded
    · cases read
  · cases read

theorem PriorityEntry.admitted_of_parse? {direction : Direction} {text : String}
    {entry : PriorityEntry} (read : parse? direction false text = some entry) :
    entry.Admitted direction := by
  unfold parse? at read
  split at read
  · cases read
  · split at read
    · cases read
    · next left leftRead =>
      rw [Bool.false_and] at read
      simp only [Bool.false_eq_true, if_false, Option.map_eq_some_iff] at read
      obtain ⟨right, rightRead, rfl⟩ := read
      exact ⟨side?_le leftRead, right, rfl, side?_le rightRead⟩

theorem ListContract.admitted_of_parseEntry {direction : Direction} {text : String}
    {entry : PriorityEntry} (read : parseEntry direction text = .ok entry) :
    entry.Admitted direction := by
  obtain ⟨entries, entriesRead, read⟩ := Reading.bind_eq_ok read
  split at read
  · cases read
    obtain ⟨item, -, itemRead⟩ := Reading.mem_of_mapM_eq_ok entriesRead List.mem_cons_self
    unfold PriorityMap.readEntry at itemRead
    split at itemRead
    · next found =>
      cases itemRead
      exact PriorityEntry.admitted_of_parse? found
    · cases itemRead
  · cases read

/-- What an item was read from has the form of the list, so the item is legal in it. -/
theorem ListContract.admitsItem_of_reads {list : ListContract} {item : Item}
    (reads : list.ReadsItem item) : list.AdmitsItem item := by
  obtain ⟨text, read⟩ := reads
  unfold parseItem at read
  simp only at read
  split at read <;> obtain ⟨held, heldRead, rfl⟩ := Reading.map_eq_ok read
  case h_1 rule form =>
    simp only [AdmitsItem, form]
    intro noRule someWords
    subst noRule
    simp only [parseText, if_neg someWords] at heldRead
    exact choose_mem heldRead
  case h_2 family form =>
    simp only [AdmitsItem, form]
    exact Subnet.isOf_of_parse heldRead
  case h_3 family form =>
    simp only [AdmitsItem, form]
    exact Route.wellFormed_of_parse heldRead
  case h_4 family form =>
    simp only [AdmitsItem, form]
    unfold Address.readServer at heldRead
    split at heldRead
    · next address found =>
      cases heldRead
      exact ⟨held, Address.family_of_ofFamily? found, rfl⟩
    · cases heldRead
  case h_6 direction form =>
    simp only [AdmitsItem, form]
    exact admitted_of_parseEntry heldRead
  case h_5 form | h_7 form | h_8 form => simp only [AdmitsItem, form]

def Special.Admits (catalogue : Catalogue) (special : Special) (value : Value) : Prop :=
  match special, value with
  | .connectionType, .text (some name) => ∃ setting ∈ catalogue.types, setting.name = name
  | .wepKey _, .text (some key) => WepKey.fits key .key = true ∨ WepKey.fits key .passphrase = true
  | .dnsOptions, .dnsOptions options => ∀ option ∈ options.items, DnsOptions.isOption option = true
  | .partitionKey, .int number => Within (-1, 0xFFFF) number
  | .wifiChannel, .int number =>
    0 ≤ number ∧ WifiChannel.isChannel number.toInt.toNat = true
  | .networkName, .octets (some bytes) => 1 ≤ bytes.length ∧ bytes.length ≤ 32
  | _, _ => False

def Contract.Admits (catalogue : Catalogue) (contract : Contract) (value : Value) : Prop :=
  match contract, value with
  | .scalar kind, held => kind.Admits held
  | .list kind, .list items => ∀ item ∈ items, kind.AdmitsItem item
  | .options _, .map _ => True
  | .special kind, held => kind.Admits catalogue held
  | _, _ => False

def Contract.Sound (contract : Contract) : Prop :=
  match contract with
  | .scalar kind => kind.Sound
  | _ => True

instance (contract : Contract) : Decidable contract.Sound := by
  unfold Contract.Sound
  split <;> infer_instance

theorem Special.within_of_readPartitionKey {text : String} {number : Int64}
    (read : Plan.readPartitionKey text = .ok number) : Within (-1, 0xFFFF) number := by
  unfold Plan.readPartitionKey at read
  simp only at read
  split at read
  · cases read
    decide
  · obtain ⟨least, greatest⟩ := readWithin_mem read
    exact ⟨Int64.le_trans (by decide) least, greatest⟩

theorem Special.isChannel_of_readChannel {text : String} {number : Int64}
    (read : Plan.readChannel text = .ok number) :
    0 ≤ number ∧ WifiChannel.isChannel number.toInt.toNat = true := by
  obtain ⟨channel, within, read⟩ := Reading.bind_eq_ok read
  split at read
  · next legal =>
    cases read
    exact ⟨(readWithin_mem within).1, legal⟩
  · cases read

theorem Special.length_of_parse {text : String} {bytes : List UInt8}
    (read : (NetworkName.parse text).map Text.utf8Bytes = .ok bytes) :
    1 ≤ bytes.length ∧ bytes.length ≤ 32 := by
  obtain ⟨name, parsed, rfl⟩ := Reading.map_eq_ok read
  unfold NetworkName.parse at parsed
  split at parsed
  · cases parsed
  · next legal =>
    cases parsed
    constructor
    · have named : text.toList ≠ [] := fun empty => legal (.inl (by rw [← String.toList_inj, empty]; rfl))
      obtain ⟨c, cs, shape⟩ := List.exists_cons_of_ne_nil named
      have first : 1 ≤ (String.utf8EncodeChar c).length := by
        rw [String.length_utf8EncodeChar]
        exact c.utf8Size_pos
      rw [Text.utf8Bytes, shape, List.flatMap_cons, List.length_append]
      omega
    · exact Nat.le_of_not_lt fun long => legal (.inr long)

theorem Contract.admits_of_reads {catalogue : Catalogue} {contract : Contract} (sound : contract.Sound)
    {value : Value} (reads : contract.Reads catalogue value) : contract.Admits catalogue value := by
  unfold Contract.Reads at reads
  split at reads
  · obtain ⟨text, read⟩ := reads
    exact Scalar.admits_of_parse sound read
  · intro item here
    exact ListContract.admitsItem_of_reads (reads item here)
  · trivial
  · simp only [Contract.Admits]
    unfold Special.Reads at reads
    split at reads
    · exact reads
    · exact reads
    · exact reads
    · obtain ⟨text, read⟩ := reads
      exact Special.within_of_readPartitionKey read
    · obtain ⟨text, read⟩ := reads
      exact Special.isChannel_of_readChannel read
    · obtain ⟨text, read⟩ := reads
      exact Special.length_of_parse read
    · exact reads.elim
  · exact reads.elim

end NetProfile
