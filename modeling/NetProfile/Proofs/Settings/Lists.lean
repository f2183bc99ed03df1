import NetProfile.Proofs.Contract.Items
import NetProfile.Proofs.Settings.Standard

/-!
Lists of the standard catalogue. Those that decide on their items, be it by an address, a rule or a
choice of words, are read back from the texts they are shown as.
-/

namespace NetProfile

@[mk_iff]
structure Property.RegularList (property : Property) (list : ListContract) : Prop where
  faithful : list.Faithful
  /-- A list that is not set is shown as an empty one. -/
  usual : property.usual = none
  /-- A list of any texts can be set, and adds what it is given at its end. -/
  free : list.isFree = true → property.isReadOnly = false ∧ list.policy = .append

instance (property : Property) (list : ListContract) : Decidable (property.RegularList list) :=
  decidable_of_iff _ (Property.regularList_iff property list).symm

theorem Catalogue.regularList_of_mem {property : Property} (registered : property ∈ standard.properties)
    {list : ListContract} (isList : property.contract = .list list) : property.RegularList list := by
  have all : ∀ property ∈ standard.properties, ∀ list ∈ property.contract.list?,
      property.RegularList list := by decide +kernel
  exact all property registered list (by rw [isList]; rfl)

/-- Lists of addresses, of texts with a rule and of chosen words give the same items again when they
are read from the text for programs, and each of the rules leaves the texts that it made. -/
theorem parseItems_format_of_isChecked {property : Property} (registered : property ∈ Catalogue.standard.properties)
    {list : ListContract} (isList : property.contract = .list list) (checked : list.isChecked = true) :
    (∀ text items, list.parseItems text = .ok items →
      list.parseItems (list.format .parsable items) = .ok items) ∧
    ∀ rule, list.form = .text (some rule) → ∀ text kept,
      rule.check text = .ok kept → rule.check kept = .ok kept := by
  have regular := Catalogue.regularList_of_mem registered isList
  refine ⟨fun text items read => ?_, fun rule form text kept read => ?_⟩
  · exact ListContract.parseItems_format regular.faithful checked read
  · exact TextRule.check_of_check read

/-- Capital letters, a dot at the end and a line break before a comma are lost, a mark and the root
domain are kept. -/
theorem parseItems_format_of_isChecked_domains : ∃ property ∈ Catalogue.standard.properties,
    property.fullName = "ipv4.dns-search" ∧ ∃ list, property.contract = .list list ∧ list.isChecked = true ∧
      list.parseItems "Example.COM.\n,\t~Intra.Example, ~." =
        .ok [.text "example.com", .text "~intra.example", .text "~."] ∧
      list.format .parsable [.text "example.com", .text "~intra.example", .text "~."] =
        "example.com,~intra.example,~." ∧
      list.parseItems "example.com,~intra.example,~." =
        .ok [.text "example.com", .text "~intra.example", .text "~."] := by
  have known : ∃ property ∈ Catalogue.standard.properties, property.fullName = "ipv4.dns-search" ∧
      property.contract = .list { form := .text (some .searchDomain), separators := plainSeparators } := by
    decide +kernel
  obtain ⟨property, registered, name, contract⟩ := known
  have read : ListContract.parseItems { form := .text (some .searchDomain), separators := plainSeparators }
      "Example.COM.\n,\t~Intra.Example, ~." =
        .ok [.text "example.com", .text "~intra.example", .text "~."] := by decide +kernel
  have again := (parseItems_format_of_isChecked registered contract rfl).1 _ _ read
  exact ⟨property, registered, name, _, contract, rfl, read, by decide +kernel, again⟩

end NetProfile
