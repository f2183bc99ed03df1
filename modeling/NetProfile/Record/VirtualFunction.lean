import NetProfile.Dict
import NetProfile.MergePolicy
import NetProfile.Scalar.HardwareAddress
import NetProfile.Scalar.Truth

/-!
SR-IOV virtual functions: `index [attribute=value]...`. VLANs are written `id[.qos[.protocol]]` with
semicolons between them. No two functions of a list have the same index.
-/

namespace NetProfile

inductive VlanProtocol where
  /-- 802.1Q -/
  | q
  /-- 802.1ad -/
  | ad
deriving DecidableEq, Repr

def VlanProtocol.name : VlanProtocol → String
  | q => "q"
  | ad => "ad"

structure FunctionVlan where
  id : UInt32
  qos : UInt32
  protocol : VlanProtocol
deriving DecidableEq, Repr

namespace FunctionVlan

def protocol? : String → Option VlanProtocol
  | "q" => some .q
  | "ad" => some .ad
  | _ => none

theorem protocol?_name (protocol : VlanProtocol) : protocol? protocol.name = some protocol := by
  cases protocol <;> rfl

def id? (text : String) : Option UInt32 :=
  (Numeral.natural? (.fixed 10) 4095 text).map UInt32.ofNat

def qos? (text : String) : Option UInt32 :=
  (Numeral.natural? (.fixed 10) 4294967295 text).map UInt32.ofNat

def parse? (text : String) : Option FunctionVlan :=
  match Text.pieces (· == '.') text with
  | [id] => do return ⟨← id? id, 0, .q⟩
  | [id, qos] => do return ⟨← id? id, ← qos? qos, .q⟩
  | [id, qos, protocol] => do return ⟨← id? id, ← qos? qos, ← protocol? protocol⟩
  | _ => none

def parse (text : String) : Except Error FunctionVlan :=
  match parse? text with
  | some vlan => .ok vlan
  | none => .error (.invalid text (.functionVlan text))

def parts (vlan : FunctionVlan) : List String :=
  let id := Numeral.decimalDigits vlan.id.toNat
  let qos := Numeral.decimalDigits vlan.qos.toNat
  if vlan.protocol ≠ .q then [id, qos, vlan.protocol.name]
  else if vlan.qos ≠ 0 then [id, qos]
  else [id]

def toText (vlan : FunctionVlan) : String := String.intercalate "." vlan.parts

end FunctionVlan

structure VirtualFunction where
  index : UInt32
  /-- Attributes in their kept form. -/
  attributes : Dict String := .empty
  vlans : List FunctionVlan := []
deriving DecidableEq, Repr

namespace VirtualFunction

def attributeNames : List String :=
  ["mac", "spoof-check", "trust", "min-tx-rate", "max-tx-rate", "vlans"]

def badValue (key value : String) : Error := .invalid value (.attributeValue key value)

/-- The kept form of an attribute other than the VLANs. -/
def normalize (key value : String) : Except Error String :=
  match key with
  | "mac" =>
    match HardwareAddress.octets? 6 value with
    | some octets => .ok (HardwareAddress.formatOctets octets)
    | none => .error (badValue key value)
  | "spoof-check" | "trust" =>
    match (Truth.parse value).toOption with
    | some flag => .ok (if flag then "true" else "false")
    | none => .error (badValue key value)
  | "min-tx-rate" | "max-tx-rate" =>
    match Numeral.natural? (.fixed 10) 4294967295 value with
    | some n => .ok (Numeral.decimalDigits n)
    | none => .error (badValue key value)
  | _ => .error (.invalid key (.unknownAttribute key))

def addToken (function : VirtualFunction) (token : String) : Except Error VirtualFunction :=
  match Text.cutOnce '=' token with
  | none => .error (.invalid token (.functionToken token))
  | some (key, value) =>
    if key = "vlans" then do
      let vlans ← readItems (· == ';') FunctionVlan.parse value
      if vlans = [] then .error (.invalid token (.functionVlan value))
      else .ok { function with vlans }
    else do
      let kept ← normalize key value
      .ok { function with attributes := function.attributes.insert key kept }

def parse (text : String) : Except Error VirtualFunction :=
  match Text.tokens text with
  | [] => .error (.incomplete "VF index" "SR-IOV VF")
  | first :: rest =>
    match Numeral.natural? (.fixed 10) 4294967295 first with
    | some index => rest.foldlM addToken { index := UInt32.ofNat index }
    | none => .error (.invalid first (.functionIndex first))

def words (function : VirtualFunction) : List String :=
  Numeral.decimalDigits function.index.toNat
    :: (function.attributes.entries.map fun (key, value) => key ++ "=" ++ value)
    ++ if function.vlans = [] then []
      else ["vlans=" ++ String.intercalate ";" (function.vlans.map FunctionVlan.toText)]

def toText (function : VirtualFunction) : String := String.intercalate " " function.words

/-- An error of one item is told as an error of the list. -/
def parseList (text : String) : Except Error (List VirtualFunction) :=
  match readItems Text.isComma parse text with
  | .ok functions => .ok functions
  | .error error => .error (.invalid text (.functionList error.message))

def sameIndex (a b : VirtualFunction) : Bool := a.index == b.index

def add (functions added : List VirtualFunction) : List VirtualFunction :=
  added.foldl (fun functions item => putKeyed sameIndex item functions) functions

/-- Drops the function at a position, or those with the index of the written one. -/
def remove (functions : List VirtualFunction) (text : String) :
    Except Error (List VirtualFunction) :=
  match position? functions.length text with
  | some place => .ok (functions.eraseIdx place)
  | none => do
    let written ← parse text
    .ok (functions.filter fun item => item.index ≠ written.index)

def formatList (functions : List VirtualFunction) : String :=
  String.intercalate ", " (functions.map toText)

end VirtualFunction

end NetProfile
