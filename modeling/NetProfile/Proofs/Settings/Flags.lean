import NetProfile.Proofs.Scalar.FlagSet
import NetProfile.Proofs.Settings.RoundTrip

/-!
Flag sets of the standard catalogue. A set is read if its number is at most that of all named bits. This
keeps out every bit without a name as long as the names leave no gap, which the events that wake a device
up do.
-/

namespace NetProfile

def Contract.flags? : Contract → Option Enumeration
  | .scalar (.enumeration spec _) => if spec.isFlags then some spec else none
  | _ => none

/-- The sets with a gap, between the events themselves and the flag to ignore them. -/
def wakeUps : List String := ["802-3-ethernet.wake-on-lan", "802-11-wireless.wake-on-wlan"]

@[mk_iff]
structure Property.RegularFlags (property : Property) (spec : Enumeration) : Prop where
  aliases : spec.aliases = []
  bounds : spec.bounds = (0, spec.union)
  natural : 0 ≤ spec.union
  gapless : spec.Gapless ↔ property.fullName ∉ wakeUps

instance (property : Property) (spec : Enumeration) : Decidable (property.RegularFlags spec) :=
  decidable_of_iff _ (Property.regularFlags_iff property spec).symm

section

variable {property : Property} {spec : Enumeration} {table : Option FlagTable}

theorem Catalogue.regularFlags_of_mem (registered : property ∈ standard.properties)
    (contract : property.contract = .scalar (.enumeration spec table)) (flags : spec.isFlags = true) :
    property.RegularFlags spec := by
  have all : ∀ property ∈ standard.properties, ∀ spec ∈ property.contract.flags?,
      property.RegularFlags spec := by decide +kernel
  refine all property registered spec ?_
  rw [contract, Contract.flags?, if_pos flags]
  rfl

theorem Catalogue.faithful_enumeration_of_mem (registered : property ∈ standard.properties)
    (contract : property.contract = .scalar (.enumeration spec table)) : spec.Faithful := by
  have faithful := Catalogue.faithful_of_mem property registered
  rw [contract] at faithful
  cases table with
  | none => exact faithful
  | some table => exact faithful.1

/-- What is read are the numbers up to the one with all named bits. Bits without a name are read just when
a number in the text has some, and the sets of wake-up events alone let them pass. -/
theorem onlyNamed_of_registered (registered : property ∈ Catalogue.standard.properties)
    (contract : property.contract = .scalar (.enumeration spec table)) (flags : spec.isFlags = true) :
    (∀ value, (∃ text, spec.parse text = .ok value) ↔ Within (0, spec.union) value) ∧
    (∀ text value, spec.parse text = .ok value →
      (spec.OnlyNamed value ↔ ∀ token ∈ Text.items isFlagSeparator (Text.trim text), ∀ number : Int64,
        Numeral.readSigned .automatic token = some number.toInt → spec.OnlyNamed number)) ∧
    ((∀ text value, spec.parse text = .ok value → spec.OnlyNamed value) ↔ property.fullName ∉ wakeUps) := by
  have regular := Catalogue.regularFlags_of_mem registered contract flags
  have faithful := Catalogue.faithful_enumeration_of_mem registered contract
  have accepted : ∀ value, (∃ text, spec.parse text = .ok value) ↔ Within (0, spec.union) value := by
    intro value
    rw [← regular.bounds]
    exact ⟨fun ⟨text, read⟩ => Enumeration.within_of_parse read,
      fun inside => ⟨_, Enumeration.parse_decimal faithful inside⟩⟩
  refine ⟨accepted, fun text value => Enumeration.onlyNamed_of_parse faithful regular.aliases flags, ?_⟩
  rw [← regular.gapless, Enumeration.gapless_iff regular.natural]
  constructor
  · intro named value inside
    obtain ⟨text, read⟩ := (accepted value).2 inside
    exact named text value read
  · intro named text value read
    exact named value ((accepted value).1 ⟨text, read⟩)

end

/-- A name and an octal number are joined to flags that all have names. -/
theorem onlyNamed_of_registered_vlan : ∃ property ∈ Catalogue.standard.properties,
    property.fullName = "vlan.flags" ∧
      property.contract = .scalar (.enumeration vlanFlags (some vlanFlagTable)) ∧ vlanFlags.isFlags = true ∧
      vlanFlags.parse " mvrp |, 05 " = .ok 13 ∧ vlanFlags.OnlyNamed 13 := by
  have known : ∃ property ∈ Catalogue.standard.properties, property.fullName = "vlan.flags" ∧
      property.contract = .scalar (.enumeration vlanFlags (some vlanFlagTable)) := by decide +kernel
  obtain ⟨property, registered, name, contract⟩ := known
  have read : vlanFlags.parse " mvrp |, 05 " = .ok 13 := by decide +kernel
  have gapless : property.fullName ∉ wakeUps := by
    rw [name]
    decide +kernel
  have named := (onlyNamed_of_registered registered contract rfl).2.2.2 gapless
  exact ⟨property, registered, name, contract, rfl, read, named _ _ read⟩

/-- A bit between the events and the flag to ignore them is read from its number. -/
theorem unnamed_bit_accepted : ∃ property ∈ Catalogue.standard.properties,
    property.fullName = "802-3-ethernet.wake-on-lan" ∧
      property.contract = .scalar (.enumeration Settings.wakeOnLan none) ∧ Settings.wakeOnLan.isFlags = true ∧
      Settings.wakeOnLan.parse "0x100" = .ok 256 ∧ ¬Settings.wakeOnLan.OnlyNamed 256 := by
  decide +kernel

end NetProfile
