import NetProfile.Wireless

/-!
Advisories: what an edit has to say although it does not fail.
-/

namespace NetProfile

inductive Advisory where
  /-- The type that a WEP key was taken for. -/
  | keyGuessed (type : WepKeyType)
  /-- The slot of the key that is used from now on. -/
  | slotChosen (slot : Nat)
  /-- A stored key that the new type rules out. -/
  | keyRuledOut (slot : String) (type : WepKeyType)
  /-- Slots without effect, as the flags at a key do not switch them on. -/
  | switchedOff (switch : String)
deriving DecidableEq, Repr

inductive Level where
  | info
  | warning
deriving DecidableEq, Repr

namespace Advisory

def level : Advisory → Level
  | keyGuessed _ | slotChosen _ => .info
  | keyRuledOut .. | switchedOff _ => .warning

def message : Advisory → String
  | keyGuessed type => s!"WEP key is guessed to be of '{type.label}'"
  | slotChosen slot => s!"WEP key index set to '{Numeral.decimalDigits slot}'"
  | keyRuledOut slot type =>
    s!"'{slot}' is not compatible with '{type.label}' type, please change or delete the key."
  | switchedOff switch =>
    s!"changes will have no effect until '{switch}' includes 1 (enabled)"

end Advisory

end NetProfile
