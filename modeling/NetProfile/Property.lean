import NetProfile.Contract

/-!
Properties: the keys of a setting that can be edited, with their contracts and their help.
-/

namespace NetProfile

inductive Completer where
  | connectionType
  | master
  | device
deriving DecidableEq, Repr

structure Property where
  /-- The setting that the property belongs to. -/
  setting : String := ""
  name : String
  contract : Contract
  doc : String := ""
  /-- Help that goes beyond the first line. -/
  message : Option String := none
  /-- The question that asks for a value. -/
  prompt : Option String := none
  /-- The short name under which a new profile takes the property as an option. -/
  option : Option String := none
  isSecret : Bool := false
  isReadOnly : Bool := false
  /-- A default other than that of the contract. -/
  usual : Option Value := none
  completer : Option Completer := none
  /-- Whether the devices are the words for the property. -/
  namesDevices : Bool := false
deriving DecidableEq, Repr

namespace Property

def fullName (property : Property) : String := property.setting ++ "." ++ property.name

def default (property : Property) : Value := property.usual.getD property.contract.default

end Property

end NetProfile
