import NetProfile.Proofs.Contract.Admits

/-!
Errors of readers. Whatever text a reader refuses, its error lies in the text and names no property
yet: the edit that called the reader can attach the error to its own property.
-/

namespace NetProfile

inductive Error.OfText : Error → Prop
  | invalid (text : String) (fault : Fault) : OfText (.invalid text fault)
  | outOfRange (text : String) (low high : Int) : OfText (.outOfRange text low high)
  | notANumber (text : String) : OfText (.notANumber text)
  | ambiguous (token : String) (fault : Fault) : OfText (.ambiguous token fault)
  | incomplete (missing context : String) : OfText (.incomplete missing context)

structure BlamesText {α : Type} (reading : Except Error α) : Prop where
  ofText : ∀ error, reading = .error error → error.OfText

namespace BlamesText

variable {α β : Type}

@[simp]
theorem ok (value : α) : BlamesText (.ok value) where
  ofText error failed := by cases failed

@[simp]
theorem pure (value : α) : BlamesText (Pure.pure value : Except Error α) := ok value

theorem error {error : Error} (ofText : error.OfText) :
    BlamesText (.error error : Except Error α) where
  ofText other failed := by
    cases failed
    exact ofText

@[simp]
theorem invalid (text : String) (fault : Fault) :
    BlamesText (.error (.invalid text fault) : Except Error α) := error (.invalid text fault)

@[simp]
theorem outOfRange (text : String) (low high : Int) :
    BlamesText (.error (.outOfRange text low high) : Except Error α) :=
  error (.outOfRange text low high)

@[simp]
theorem notANumber (text : String) :
    BlamesText (.error (.notANumber text) : Except Error α) := error (.notANumber text)

@[simp]
theorem ambiguous (token : String) (fault : Fault) :
    BlamesText (.error (.ambiguous token fault) : Except Error α) := error (.ambiguous token fault)

@[simp]
theorem incomplete (missing context : String) :
    BlamesText (.error (.incomplete missing context) : Except Error α) :=
  error (.incomplete missing context)

theorem bind {first : Except Error α} {next : α → Except Error β} (start : BlamesText first)
    (later : ∀ value, BlamesText (next value)) : BlamesText (first >>= next) where
  ofText error failed := by
    cases first with
    | error early =>
      cases failed
      exact start.ofText _ rfl
    | ok value => exact (later value).ofText error failed

theorem map {reading : Except Error α} (inner : BlamesText reading) (change : α → β) :
    BlamesText (reading.map change) where
  ofText error failed := by
    cases reading with
    | error early =>
      cases failed
      exact inner.ofText _ rfl
    | ok value => cases failed

theorem ite {condition : Prop} [Decidable condition] {first second : Except Error α}
    (yes : BlamesText first) (no : BlamesText second) :
    BlamesText (if condition then first else second) := by
  split
  · exact yes
  · exact no

theorem mapM {read : α → Except Error β} (each : ∀ part, BlamesText (read part)) (parts : List α) :
    BlamesText (parts.mapM read) := by
  induction parts with
  | nil => exact ok []
  | cons part parts ih =>
    rw [List.mapM_cons]
    exact bind (each part) fun _ => bind ih fun _ => ok _

theorem foldlM {step : β → α → Except Error β} (each : ∀ state token, BlamesText (step state token))
    (tokens : List α) (start : β) : BlamesText (tokens.foldlM step start) := by
  induction tokens generalizing start with
  | nil => exact ok start
  | cons token tokens ih =>
    rw [List.foldlM_cons]
    exact bind (each start token) fun next => ih next

end BlamesText

theorem blamesText_choose (allowed : List String) (text : String) :
    BlamesText (choose allowed text) := by
  unfold choose
  simp only
  split
  · simp
  · split <;> simp

theorem blamesText_readWithin (base : Numeral.Base) (low high : Int64) (text : String) :
    BlamesText (readWithin base low high text) := by
  unfold readWithin
  simp only
  split
  · simp
  · split
    · simp
    · split <;> simp

theorem blamesText_readServer (family : Family) (text : String) :
    BlamesText (Address.readServer family text) := by
  unfold Address.readServer
  split <;> simp

theorem HardwareAddress.blamesText_parse (form : HardwareAddress) (text : String) :
    BlamesText (form.parse text) := by
  unfold parse
  simp only
  split
  · simp
  · split <;> simp

theorem InterfaceName.blamesText_parse (text : String) : BlamesText (InterfaceName.parse text) := by
  unfold InterfaceName.parse
  split
  · simp
  · split
    · simp
    · split <;> simp

theorem SearchDomain.blamesText_parse (text : String) : BlamesText (SearchDomain.parse text) := by
  unfold SearchDomain.parse
  split
  · simp
  · simp only
    split <;> simp

namespace TextRule

theorem blamesText_readMethod (family : Family) (text : String) : BlamesText (readMethod family text) :=
  blamesText_choose _ _

theorem blamesText_readGateway (family : Family) (text : String) : BlamesText (readGateway family text) :=
  (blamesText_readServer family text).map _

theorem blamesText_readAddress (text : String) : BlamesText (readAddress text) := by
  unfold readAddress
  split <;> simp

theorem blamesText_readPermission (text : String) : BlamesText (readPermission text) := by
  unfold readPermission
  simp only
  split <;> simp

theorem blamesText_readMaster (text : String) : BlamesText (readMaster text) := by
  unfold readMaster
  split <;> simp

theorem blamesText_readTeamConfig (text : String) : BlamesText (readTeamConfig text) := by
  unfold readTeamConfig
  split <;> simp

theorem blamesText_readNonEmpty (text : String) : BlamesText (readNonEmpty text) := by
  unfold readNonEmpty
  simp only
  split <;> simp

theorem blamesText_readVpnService (text : String) : BlamesText (readVpnService text) := by
  unfold readVpnService
  refine .bind (blamesText_readNonEmpty text) fun name => ?_
  simp

theorem blamesText_readUuid (text : String) : BlamesText (readUuid text) := by
  unfold readUuid
  split <;> simp

theorem blamesText_readSimOperator (text : String) : BlamesText (readSimOperator text) := by
  unfold readSimOperator
  simp only
  split <;> simp

theorem blamesText_check (rule : TextRule) (text : String) : BlamesText (rule.check text) := by
  cases rule <;> simp only [check]
  case method family => exact blamesText_readMethod family text
  case gateway family => exact blamesText_readGateway family text
  case address => exact blamesText_readAddress text
  case permission => exact blamesText_readPermission text
  case master => exact blamesText_readMaster text
  case ethernetAddress => exact HardwareAddress.blamesText_parse _ text
  case teamConfig => exact blamesText_readTeamConfig text
  case vpnService => exact blamesText_readVpnService text
  case nonEmpty => exact blamesText_readNonEmpty text
  case interfaceName => exact InterfaceName.blamesText_parse text
  case uuid => exact blamesText_readUuid text
  case searchDomain => exact SearchDomain.blamesText_parse text
  case simOperator => exact blamesText_readSimOperator text

end TextRule

theorem Truth.blamesText_parse (text : String) : BlamesText (Truth.parse text) := by
  unfold Truth.parse
  simp only
  split
  · simp
  · split <;> simp

theorem Ternary.blamesText_parse (style : Ternary) (text : String) :
    BlamesText (style.parse text) := by
  unfold Ternary.parse
  simp only
  cases style with
  | yesNo | onOff => exact .ite (.ok _) (.ite (.ok _) (.ite (.ok _) (.invalid _ _)))

theorem IntegerRule.blamesText_parse (rule : IntegerRule) (text : String) :
    BlamesText (rule.parse text) := by
  unfold IntegerRule.parse
  simp only
  split
  · simp
  · exact blamesText_readWithin _ _ _ _

theorem Enumeration.blamesText_parse (spec : Enumeration) (text : String) :
    BlamesText (spec.parse text) := by
  unfold Enumeration.parse
  simp only
  split
  · split
    · simp
    · exact .error (.invalid _ _)
  · exact .error (.invalid _ _)

theorem FeatureFlags.blamesText_joinTokens (tokens : List String) (flags : UInt32) :
    BlamesText (joinTokens flags tokens) := by
  induction tokens generalizing flags with
  | nil => exact .ok flags
  | cons token tokens ih =>
    unfold joinTokens
    split
    · exact ih _
    · simp

theorem FeatureFlags.blamesText_parse (text : String) : BlamesText (FeatureFlags.parse text) := by
  unfold FeatureFlags.parse
  simp only
  split
  · simp
  · exact blamesText_joinTokens _ _

theorem SlotRule.blamesText_readSlot (rule : SlotRule) (field : String) :
    BlamesText (rule.readSlot field) := by
  unfold readSlot
  simp only
  split
  · exact .error (.invalid _ _)
  · split
    · exact .error (.invalid _ _)
    · simp

theorem SlotRule.blamesText_readSlots (rule : SlotRule) (text : String) :
    BlamesText (rule.readSlots text) := by
  unfold readSlots
  split
  · iterate 8 refine .bind (rule.blamesText_readSlot _) fun _ => ?_
    exact .pure _
  · simp

theorem SlotRule.blamesText_checkTotal {rule : SlotRule} {slots : Slots}
    (fits : rule.percent = true → sum slots.toList < 4294967296) (text : String) :
    BlamesText (rule.checkTotal text slots) := by
  rw [checkTotal_eq]
  split
  · next percent =>
    rw [if_pos (fits percent)]
    exact .ite (.ok ()) (.invalid _ _)
  · exact .ok ()

theorem SlotRule.blamesText_parse {rule : SlotRule} (sound : rule.Sound) (text : String) :
    BlamesText (rule.parse text) where
  ofText error failed := by
    unfold SlotRule.parse at failed
    cases read : rule.readSlots text with
    | error early =>
      rw [read] at failed
      cases failed
      exact (rule.blamesText_readSlots text).ofText _ read
    | ok slots =>
      rw [read] at failed
      have checked : BlamesText (rule.checkTotal text slots) :=
        blamesText_checkTotal (fun percent => sound.sum_lt percent read) text
      exact (checked.bind fun _ => .pure slots).ofText _ failed

theorem Octets.blamesText_spaced (text : List Char) : BlamesText (Octets.spaced text) := by
  refine .mapM (fun group => ?_) _
  unfold spacedGroup
  split <;> simp

theorem Octets.blamesText_parse (allowSpaced : Bool) (text : String) :
    BlamesText (Octets.parse allowSpaced text) := by
  unfold Octets.parse
  simp only
  split
  · simp
  · split
    · simp
    · split
      · exact (blamesText_spaced _).map _
      · simp

theorem Scalar.blamesText_parseText (rule : Option TextRule) (words : List String) (text : String) :
    BlamesText (parseText rule words text) := by
  unfold parseText
  simp only
  split
  · simp
  · cases rule with
    | some rule => exact (rule.blamesText_check _).map _
    | none =>
      simp only
      split
      · simp
      · exact (blamesText_choose _ _).map _

theorem Scalar.blamesText_parseMtu (text : String) : BlamesText (parseMtu text) := by
  unfold parseMtu
  simp only
  split
  · simp
  · exact blamesText_readWithin _ _ _ _

theorem Scalar.blamesText_parseHardwareAddress (form : HardwareAddress) (text : String) :
    BlamesText (parseHardwareAddress form text) := by
  unfold parseHardwareAddress
  split
  · simp
  · exact (form.blamesText_parse text).map _

theorem Scalar.blamesText_parse {scalar : Scalar} (sound : scalar.Sound) (text : String) :
    BlamesText (scalar.parse text) := by
  cases scalar <;> simp only [parse]
  case text rule words => exact (blamesText_parseText rule words text).map _
  case bool => exact (Truth.blamesText_parse text).map _
  case integer rule => exact (rule.blamesText_parse text).map _
  case mtu => exact (blamesText_parseMtu text).map _
  case hardwareAddress form => exact (blamesText_parseHardwareAddress form text).map _
  case octets spaced => exact (Octets.blamesText_parse spaced text).map _
  case enumeration spec table => exact (spec.blamesText_parse text).map _
  case wepKeyType spec => exact (spec.blamesText_parse text).map _
  case ternary style => exact (style.blamesText_parse text).map _
  case slots rule switch => exact (SlotRule.blamesText_parse sound text).map _
  case features => exact (FeatureFlags.blamesText_parse text).map _

theorem Subnet.blamesText_splitLength (family : Family) (text : String) :
    BlamesText (splitLength family text) := by
  unfold splitLength
  split
  · simp
  · split
    · split <;> simp
    · simp

theorem Subnet.blamesText_parse (family : Family) (text : String) :
    BlamesText (Subnet.parse family text) := by
  unfold Subnet.parse
  refine .bind (blamesText_splitLength family _) ?_
  rintro ⟨part, length⟩
  simp only
  split <;> simp

theorem RouteAttribute.blamesText_parse (family : Family) (token : String) :
    BlamesText (RouteAttribute.parse family token) := by
  unfold RouteAttribute.parse
  split
  · simp
  · split
    · simp
    · split
      · simp
      · split
        · simp
        · split <;> simp

theorem Route.blamesText_addToken (family : Family) (route : Route) (token : String) :
    BlamesText (addToken family route token) := by
  unfold addToken
  split
  · split <;> simp
  · split
    · split <;> simp
    · split
      · refine .bind (RouteAttribute.blamesText_parse family token) fun _ => ?_
        simp
      · simp

theorem Route.blamesText_parse (family : Family) (text : String) :
    BlamesText (Route.parse family text) := by
  unfold Route.parse
  split
  · simp
  · refine .bind (Subnet.blamesText_splitLength family _) ?_
    rintro ⟨part, length⟩
    simp only
    split
    · simp
    · exact .foldlM (blamesText_addToken family) _ _

theorem LinkWatcher.blamesText_readCount (token value : String) :
    BlamesText (readCount token value) := by
  unfold readCount
  split
  · simp
  · exact .error (.invalid _ _)

theorem LinkWatcher.blamesText_readVlan (token value : String) :
    BlamesText (readVlan token value) := by
  unfold readVlan
  split
  · simp
  · exact .error (.invalid _ _)

theorem LinkWatcher.Draft.blamesText_setKey (draft : Draft) (token key value : String) :
    BlamesText (draft.setKey token key value) := by
  unfold setKey
  split
  -- the keys of counts come second to fourth, that of the VLAN fifth
  case h_2 | h_3 | h_4 | h_5 | h_6 =>
    refine .bind (blamesText_readCount token value) fun _ => ?_
    simp
  case h_7 =>
    refine .bind (blamesText_readVlan token value) fun _ => ?_
    simp
  case h_13 => exact .error (.invalid _ _)
  all_goals simp

theorem LinkWatcher.Draft.blamesText_addToken (draft : Draft) (token : String) :
    BlamesText (draft.addToken token) := by
  unfold addToken
  split
  · exact .error (.invalid _ _)
  · split
    · exact .error (.invalid _ _)
    · exact draft.blamesText_setKey token _ _
  · exact .error (.invalid _ _)

theorem LinkWatcher.blamesText_needHost (host : Option String) (key kind : String) :
    BlamesText (needHost host key kind) := by
  unfold needHost
  split
  · split <;> simp
  · simp

theorem LinkWatcher.Draft.blamesText_finish (draft : Draft) : BlamesText draft.finish := by
  unfold finish
  split
  · simp
  · simp
  · refine .bind (blamesText_needHost _ _ _) fun _ => ?_
    simp
  · refine .bind (blamesText_needHost _ _ _) fun _ => ?_
    refine .bind (blamesText_needHost _ _ _) fun _ => ?_
    simp
  · simp

theorem LinkWatcher.blamesText_parse (text : String) : BlamesText (LinkWatcher.parse text) := by
  unfold LinkWatcher.parse
  split
  · simp
  · refine .bind (.foldlM Draft.blamesText_addToken _ _) fun draft => ?_
    exact draft.blamesText_finish

theorem PriorityMap.blamesText_parse (direction : Direction) (wildcard : Bool) (text : String) :
    BlamesText (PriorityMap.parse direction wildcard text) := by
  unfold PriorityMap.parse
  refine .mapM (fun item => ?_) _
  unfold readEntry
  split <;> simp

theorem FunctionVlan.blamesText_parse (text : String) : BlamesText (FunctionVlan.parse text) := by
  unfold FunctionVlan.parse
  split <;> simp

theorem VirtualFunction.blamesText_normalize (key value : String) :
    BlamesText (normalize key value) := by
  unfold normalize
  split
  case h_6 => exact .invalid _ _
  all_goals
    split
    · exact .ok _
    · exact .invalid _ _

theorem VirtualFunction.blamesText_addToken (function : VirtualFunction) (token : String) :
    BlamesText (function.addToken token) := by
  unfold addToken
  split
  · simp
  · split
    · refine .bind (.mapM FunctionVlan.blamesText_parse _) fun vlans => ?_
      split <;> simp
    · refine .bind (blamesText_normalize _ _) fun _ => ?_
      simp

theorem VirtualFunction.blamesText_parse (text : String) :
    BlamesText (VirtualFunction.parse text) := by
  unfold VirtualFunction.parse
  split
  · simp
  · split
    · exact .foldlM blamesText_addToken _ _
    · simp

theorem VirtualFunction.blamesText_parseList (text : String) :
    BlamesText (VirtualFunction.parseList text) := by
  unfold parseList
  split <;> simp

theorem Handle.blamesText_parse (text : String) : BlamesText (Handle.parse text) := by
  unfold Handle.parse
  split <;> simp

theorem Qdisc.blamesText_readPlace (draft : Draft) (words : List String) :
    BlamesText (readPlace draft words) := by
  fun_induction readPlace draft words with
  | case1 => simp
  | case2 draft rest _ ih => exact ih
  | case3 => simp
  | case4 => simp
  | case5 draft _ value rest parent _ ih => exact ih
  | case6 draft _ value rest failure failed =>
    exact .error ((Handle.blamesText_parse value).ofText failure failed)
  | case7 => simp
  | case8 => simp
  | case9 draft _ value rest handle _ ih => exact ih
  | case10 draft _ value rest failure failed =>
    exact .error ((Handle.blamesText_parse value).ofText failure failed)
  | case11 => simp

theorem Qdisc.blamesText_parse (text : String) : BlamesText (Qdisc.parse text) := by
  unfold Qdisc.parse
  refine .bind (blamesText_readPlace _ _) ?_
  rintro ⟨draft, rest⟩
  simp only
  split
  · simp
  · split <;> simp

theorem Qdisc.blamesText_parseList (text : String) : BlamesText (Qdisc.parseList text) := by
  unfold parseList
  split <;> simp

theorem DnsOptions.blamesText_check (text : String) : BlamesText (DnsOptions.check text) := by
  unfold DnsOptions.check
  split <;> simp

theorem blamesText_removeOne {α : Type} [DecidableEq α] {read : String → Except Error α}
    (each : ∀ text, BlamesText (read text)) (list : List α) (text : String) :
    BlamesText (removeOne read list text) := by
  unfold removeOne
  split
  · simp
  · refine .bind (each _) fun _ => ?_
    simp

namespace ListContract

theorem blamesText_parseText (list : ListContract) (rule : Option TextRule) (text : String) :
    BlamesText (list.parseText rule text) := by
  cases rule with
  | some rule => exact rule.blamesText_check text
  | none =>
    simp only [parseText]
    split
    · simp
    · exact blamesText_choose _ _

theorem blamesText_parseEntry (direction : Direction) (text : String) :
    BlamesText (parseEntry direction text) := by
  unfold parseEntry
  refine .bind (PriorityMap.blamesText_parse direction false text) fun entries => ?_
  split <;> simp

theorem blamesText_parseItem (list : ListContract) (text : String) :
    BlamesText (list.parseItem text) := by
  unfold parseItem
  simp only
  split
  · exact (list.blamesText_parseText _ _).map _
  · exact (Subnet.blamesText_parse _ _).map _
  · exact (Route.blamesText_parse _ _).map _
  · exact (blamesText_readServer _ _).map _
  · exact (LinkWatcher.blamesText_parse _).map _
  · exact (blamesText_parseEntry _ _).map _
  · exact (VirtualFunction.blamesText_parse _).map _
  · exact (Qdisc.blamesText_parse _).map _

theorem blamesText_parseItems (list : ListContract) (text : String) :
    BlamesText (list.parseItems text) := by
  unfold parseItems
  split
  · exact (PriorityMap.blamesText_parse _ _ _).map _
  · exact (VirtualFunction.blamesText_parseList _).map _
  · exact (Qdisc.blamesText_parseList _).map _
  · exact .mapM list.blamesText_parseItem _

theorem blamesText_add (list : ListContract) (held : List Item) (text : String) :
    BlamesText (list.add held text) := (list.blamesText_parseItems text).map _

theorem blamesText_remove (list : ListContract) (held : List Item) (text : String) :
    BlamesText (list.remove held text) := by
  unfold remove
  split
  · refine BlamesText.map ?_ _
    unfold PriorityMap.remove
    split
    · simp
    · refine .bind (PriorityMap.blamesText_parse _ _ _) fun _ => ?_
      simp
  · refine BlamesText.map ?_ _
    unfold VirtualFunction.remove
    split
    · simp
    · refine .bind (VirtualFunction.blamesText_parse _) fun _ => ?_
      simp
  · exact blamesText_removeOne list.blamesText_parseItem _ _

end ListContract

namespace OptionMap

theorem blamesText_resolve (spec : OptionMap) (key : String) : BlamesText (spec.resolve key) := by
  unfold resolve
  split
  · exact blamesText_choose _ _
  · simp

theorem blamesText_bondValue (key value : String) :
    BlamesText (OptionRule.bondValue key value) := by
  unfold OptionRule.bondValue
  split
  · split
    · simp
    · split <;> simp
  · split
    · refine .bind (.mapM (fun target => ?_) _) fun _ => ?_
      · refine BlamesText.map ?_ _
        unfold Address.read
        split <;> simp
      · simp
    · split <;> simp

theorem blamesText_check (rule : OptionRule) (key value : String) :
    BlamesText (rule.check key value) := by
  unfold OptionRule.check
  split
  · simp
  · split <;> simp
  · split <;> simp
  · exact blamesText_bondValue key value

theorem blamesText_readPair (spec : OptionMap) (item : String) :
    BlamesText (spec.readPair item) := by
  unfold readPair
  split
  · simp
  · refine .bind (spec.blamesText_resolve _) fun key => ?_
    refine .bind (blamesText_check spec.rule key _) fun _ => ?_
    simp

theorem blamesText_add (spec : OptionMap) (map : Dict String) (text : String) :
    BlamesText (spec.add map text) := by
  unfold add
  refine .bind (.mapM spec.blamesText_readPair _) fun _ => ?_
  simp

theorem blamesText_remove (spec : OptionMap) (map : Dict String) (text : String) :
    BlamesText (spec.remove map text) := by
  unfold remove
  refine .bind (.mapM (fun key => spec.blamesText_resolve (Text.trim key)) _) fun _ => ?_
  simp

end OptionMap

end NetProfile
