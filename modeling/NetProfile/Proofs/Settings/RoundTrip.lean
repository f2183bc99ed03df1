import NetProfile.Proofs.Contract.Scalar
import NetProfile.Proofs.OptionMap
import NetProfile.Settings.Standard

/-!
Values of the standard catalogue are read back from the texts they are shown as.
-/

namespace NetProfile

def Contract.Faithful : Contract → Prop
  | .scalar single => single.Faithful
  | .options spec => spec.Sound
  | .list _ | .special _ => True

instance : (contract : Contract) → Decidable contract.Faithful
  | .scalar single => inferInstanceAs (Decidable single.Faithful)
  | .options spec => inferInstanceAs (Decidable spec.Sound)
  | .list _ | .special _ => inferInstanceAs (Decidable True)

theorem Catalogue.faithful_of_mem : ∀ property ∈ standard.properties, property.contract.Faithful := by
  decide +kernel

/-- Whatever text a value was read from, its form for programs gives the same value again. -/
theorem parse_format_of_parse {property : Property} (registered : property ∈ Catalogue.standard.properties)
    {scalar : Scalar} (contract : property.contract = .scalar scalar) {text : String} {value : Value}
    (read : scalar.parse text = .ok value) :
    scalar.parse (scalar.format .parsable value) = .ok value := by
  have faithful := Catalogue.faithful_of_mem property registered
  rw [contract] at faithful
  exact Scalar.parse_format faithful read

/-- A name and an octal number give flags that are shown as a decimal number. -/
theorem parse_format_vlanFlags : ∃ property ∈ Catalogue.standard.properties,
    property.setting = "vlan" ∧ property.name = "flags" ∧ ∃ scalar, property.contract = .scalar scalar ∧
      scalar.parse " mvrp |, 05 " = .ok (.int 13) ∧ scalar.format .parsable (.int 13) = "13" ∧
      scalar.parse (scalar.format .parsable (.int 13)) = .ok (.int 13) := by
  have known : ∃ property ∈ Catalogue.standard.properties, property.setting = "vlan" ∧
      property.name = "flags" ∧ property.contract = .scalar (.enumeration vlanFlags vlanFlagTable) := by
    decide +kernel
  obtain ⟨property, registered, setting, name, contract⟩ := known
  have read : (Scalar.enumeration vlanFlags vlanFlagTable).parse " mvrp |, 05 " = .ok (.int 13) := by
    decide +kernel
  exact ⟨property, registered, setting, name, _, contract, read, by decide +kernel,
    parse_format_of_parse registered contract read⟩

/-- Whatever calls have built a map of options, its written form gives the same map again. -/
theorem add_format_built {property : Property} (registered : property ∈ Catalogue.standard.properties)
    {spec : OptionMap} (contract : property.contract = .options spec) (calls : List OptionMap.Call) :
    spec.add .empty (spec.format (spec.built calls)) = .ok (spec.built calls) := by
  have sound := Catalogue.faithful_of_mem property registered
  rw [contract] at sound
  exact OptionMap.add_format (OptionMap.keeps_built sound calls)

def bondCalls : List OptionMap.Call :=
  [.add "mode=1, mii = 100 ,arp_ip_target=10.0.0.1 10.0.0.2,primary=eth0", .add "mode=0,primary=",
    .remove "miimon"]

theorem add_format_bondCalls : ∃ property ∈ Catalogue.standard.properties,
    property.setting = "bond" ∧ property.contract = .options bondOptions ∧
      (bondOptions.built bondCalls).entries = [("arp_ip_target", "10.0.0.1,10.0.0.2"),
        ("mode", "active-backup"), ("primary", "eth0")] ∧
      bondOptions.add .empty (bondOptions.format (bondOptions.built bondCalls))
        = .ok (bondOptions.built bondCalls) := by
  have known : ∃ property ∈ Catalogue.standard.properties,
      property.setting = "bond" ∧ property.contract = .options bondOptions := by decide +kernel
  obtain ⟨property, registered, setting, contract⟩ := known
  exact ⟨property, registered, setting, contract, by decide +kernel,
    add_format_built registered contract bondCalls⟩

end NetProfile
