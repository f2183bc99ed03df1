import NetProfile.Advisory
import NetProfile.Edit.Context
import NetProfile.Profile.Change

/-!
Plans of edits. A text is read, and the profile looked at, before anything changes: an edit that
cannot be read has no plan. A plan lists its changes and what is to be said before and after them.
-/

namespace NetProfile

structure Plan where
  advisories : List Advisory := []
  changes : List Change := []
  /-- What is said once all changes are made. -/
  reminders : List Advisory := []
deriving DecidableEq, Repr

namespace Plan

def putting (property : Property) (value : Value) : Plan :=
  { changes := [.put property.setting property.name value] }

/-- The stored WEP keys of a setting that are ruled out by the type of a number. -/
def keysRuledOut (profile : Profile) (setting : String) (number : Int64) : List Advisory :=
  if 0 ≤ number ∧ number ≤ 2 then
    let type := WepKeyType.ofNumber number
    WepKey.slotNames.filterMap fun slot =>
      match profile.text? setting slot with
      | some key => if WepKey.fits key type then none else some (.keyRuledOut slot type)
      | none => none
  else []

def slotsReminder (profile : Profile) (setting switch : String) : List Advisory :=
  let flags := (profile.int? setting switch).getD 0
  if flags &&& 1 = 0 then [.switchedOff switch] else []

def settingScalar (property : Property) (scalar : Scalar) (profile : Profile) (text : String) :
    Except Error Plan := do
  let value ← scalar.parse text
  let plan := putting property value
  return match scalar, value with
    | .wepKeyType _, .int number =>
      { plan with advisories := keysRuledOut profile property.setting number }
    | .slots _ switch, _ => { plan with reminders := slotsReminder profile property.setting switch }
    | _, _ => plan

/-- The type is fixed as soon as there is an identifier. -/
def checkTypeFree (property : Property) (profile : Profile) : Except Error Unit :=
  if (profile.text? property.setting "uuid").isSome then
    .error { cause := .immutable .typeIsFixed }
  else .ok ()

/-- A type comes with an identifier and with all the settings that it needs. -/
def settingType (context : Context) (property : Property) (profile : Profile) (text : String) :
    Except Error Plan := do
  checkTypeFree property profile
  let setting ← context.catalogue.setting (← choose context.catalogue.typeNames text)
  return {
    changes :=
      .put property.setting property.name (.ofText setting.name)
        :: .put property.setting "uuid" (.ofText context.freshUuid.toText)
        :: setting.mandatoryParts.map .ensure }

/-- The type that a key is taken for: the stored one if the key fits it, and the first that fits
while none is stored. -/
def guessKeyType (stored : WepKeyType) (key : String) : Except Error WepKeyType :=
  let guess :=
    if WepKey.fits key .key then some WepKeyType.key
    else if WepKey.fits key .passphrase then some WepKeyType.passphrase
    else none
  match guess with
  | none => .error (.invalid key (.notValid key))
  | some guess =>
    if stored = .unknown ∨ stored = guess then .ok guess
    else if WepKey.fits key stored then .ok stored
    else .error (.invalid key (.wepKeyType key stored.label))

/-- A key comes with its type, and from then on it is the key that is used. -/
def settingWepKey (property : Property) (slot : Fin 4) (profile : Profile) (text : String) :
    Except Error Plan := do
  let stored := WepKeyType.ofNumber ((profile.int? property.setting "wep-key-type").getD 0)
  let type ← guessKeyType stored text
  let index := Int64.ofNat slot
  let moved := index ≠ (profile.int? property.setting "wep-tx-keyidx").getD 0
  return {
    advisories := .keyGuessed type :: if moved then [.slotChosen slot] else []
    changes :=
      .put property.setting property.name (.ofText text)
        :: .put property.setting "wep-key-type" (.int type.number)
        :: if moved then [.put property.setting "wep-tx-keyidx" (.int index)] else [] }

/-- A text without options leaves an empty list, whatever there was. -/
def addDnsOptions (held : DnsOptions) (text : String) : Except Error DnsOptions := do
  let options ← readItems (plainSeparators.elem ·) DnsOptions.check text
  return if options = [] then .empty else options.foldl DnsOptions.add held

def removeDnsOption (held : DnsOptions) (text : String) : Except Error DnsOptions :=
  match position? held.items.length text with
  | some index => .ok ((held.removeAt? index).getD held)
  | none => (DnsOptions.check (Text.trim text)).map held.removeValue

def readPartitionKey (input : String) : Except Error Int64 :=
  let text := Text.trim input
  if text = "default" then .ok (-1) else readWithin .automatic 0 0xFFFF text

def readChannel (text : String) : Except Error Int64 := do
  let channel ← readWithin (.fixed 10) 0 4294967295 (Text.trim text)
  if WifiChannel.isChannel channel.toInt.toNat then .ok channel
  else .error (.invalid text (.notChannel channel.toInt))

def settingSpecial (context : Context) (property : Property) (special : Special)
    (profile : Profile) (text : String) : Except Error Plan :=
  match special with
  | .connectionType => settingType context property profile text
  | .wepKey slot => settingWepKey property slot profile text
  | .dnsOptions => do
    let held := profile.dnsOptions property.setting property.name
    return putting property (.dnsOptions (← addDnsOptions held text))
  | .partitionKey => do return putting property (.int (← readPartitionKey text))
  | .wifiChannel => do return putting property (.int (← readChannel text))
  | .networkName => do
    let name ← NetworkName.parse text
    return putting property (.octets (some (Text.utf8Bytes name)))

/-- The plan of giving a property a text. Lists and options are added to. -/
def setting (context : Context) (property : Property) (profile : Profile) (text : String) :
    Except Error Plan :=
  match property.contract with
  | .scalar scalar => settingScalar property scalar profile text
  | .list list => do
    let held := profile.list property.setting property.name
    return putting property (.list (← list.add held text))
  | .options spec => do
    let held := profile.map property.setting property.name
    return putting property (.map (← spec.add held text))
  | .special special => settingSpecial context property special profile text

/-- The plan of taking an item or an option away. There is nothing to take from other properties. -/
def removing (property : Property) (profile : Profile) (text : String) : Except Error Plan :=
  match property.contract with
  | .list list => do
    let held := profile.list property.setting property.name
    return putting property (.list (← list.remove held text))
  | .options spec => do
    let held := profile.map property.setting property.name
    return putting property (.map (← spec.remove held text))
  | .special .dnsOptions => do
    let held := profile.dnsOptions property.setting property.name
    return putting property (.dnsOptions (← removeDnsOption held text))
  | _ => .ok {}

def resetting (property : Property) (profile : Profile) : Except Error Plan := do
  if property.contract = .special .connectionType then checkTypeFree property profile
  return { changes := [.reset property.setting property.name] }

end Plan

end NetProfile
