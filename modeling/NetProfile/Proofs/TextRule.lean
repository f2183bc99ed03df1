import NetProfile.Proofs.Net.Address
import NetProfile.Proofs.Net.Names
import NetProfile.Proofs.Scalar.Octets
import NetProfile.TextRule

/-!
Rules for texts. What a rule keeps of a trimmed text passes it again and does not change any more.
-/

namespace NetProfile

theorem Address.isInked_toText (address : Address) : Text.IsInked address.toText :=
  .of_forall (fun empty => toText_ne_nil address (String.toList_eq_nil_iff.2 empty)) fun _ here =>
    not_isBlank_of_isAddressChar (isAddressChar_of_mem_toText here)

namespace TextRule

structure Keeps (rule : TextRule) (text : String) : Prop where
  inked : Text.IsInked text
  same : rule.check text = .ok text

instance (rule : TextRule) (text : String) : Decidable (rule.Keeps text) :=
  decidable_of_iff (Text.IsInked text ∧ rule.check text = .ok text)
    ⟨fun parts => ⟨parts.1, parts.2⟩, fun keeps => ⟨keeps.inked, keeps.same⟩⟩

variable {text kept : String}

theorem keeps_method {family : Family} (read : readMethod family text = .ok kept) :
    (method family).Keeps kept := by
  have all : ∀ word ∈ methods family, (method family).Keeps word := by cases family <;> decide
  exact all kept (choose_mem read)

theorem keeps_gateway {family : Family} (read : readGateway family text = .ok kept) :
    (gateway family).Keeps kept := by
  obtain ⟨address, found, rfl⟩ := Reading.map_eq_ok read
  refine ⟨address.isInked_toText, ?_⟩
  simp only [check, readGateway, Address.readServer_toText found, Except.map]

theorem keeps_address (read : readAddress text = .ok kept) : address.Keeps kept := by
  unfold readAddress at read
  split at read
  · next found _ =>
    cases read
    refine ⟨found.isInked_toText, ?_⟩
    simp only [check, readAddress, found.isInked_toText.trimmed, Address.parse?_toText]
  · cases read

/-- A kept permission has its mark, and so it does not get another one. -/
theorem readPermission_kept (read : readPermission text = .ok kept) : readPermission kept = .ok kept := by
  have again : ∀ user : String, Text.stripStart? "user:" ("user:" ++ user) = some user := fun user =>
    Text.stripStart?_eq_some_iff.2 rfl
  unfold readPermission at read
  simp only at read
  split at read
  · cases read
  · next legal =>
    cases read
    simp only [readPermission, again, Option.getD_some, if_neg legal]

theorem cases_of_readPermission (read : readPermission text = .ok kept) :
    kept = text ∨ kept = "user:" ++ text := by
  unfold readPermission at read
  simp only at read
  split at read
  · cases read
  · cases read
    cases stripped : Text.stripStart? "user:" text with
    | none => exact .inr rfl
    | some user => exact .inl (Text.stripStart?_eq_some_iff.1 stripped).symm

theorem keeps_permission (inked : Text.IsInked text) (read : readPermission text = .ok kept) :
    permission.Keeps kept := by
  refine ⟨?_, readPermission_kept read⟩
  rcases cases_of_readPermission read with rfl | rfl
  · exact inked
  · exact .append (by decide) inked

theorem keeps_nonEmpty (read : readNonEmpty text = .ok kept) : nonEmpty.Keeps kept := by
  unfold readNonEmpty at read
  simp only at read
  split at read
  · cases read
  · next written =>
    cases read
    refine ⟨⟨Text.trim_trim text, written⟩, ?_⟩
    simp only [check, readNonEmpty, Text.trim_trim, if_neg written]

theorem keeps_dotted (inked : Text.IsInked text) (dot : Text.contains text '.' = true) :
    vpnService.Keeps text := by
  have name : readNonEmpty text = .ok text := by
    simp only [readNonEmpty, inked.trimmed, if_neg inked.notEmpty]
  refine ⟨inked, ?_⟩
  simp only [check, readVpnService, name, bind, Except.bind, if_pos dot]
  rfl

theorem keeps_vpnService (read : readVpnService text = .ok kept) : vpnService.Keeps kept := by
  obtain ⟨name, found, read⟩ := Reading.bind_eq_ok read
  have inked := (keeps_nonEmpty found).inked
  by_cases dot : Text.contains name '.' = true
  · rw [if_pos dot] at read
    cases read
    exact keeps_dotted inked dot
  · rw [if_neg dot] at read
    cases read
    refine keeps_dotted (.append (by decide) inked) ?_
    simp [Text.contains]

def onlyTests : TextRule → Bool
  | master | teamConfig | interfaceName | uuid | simOperator => true
  | _ => false

theorem eq_of_check {rule : TextRule} (tests : rule.onlyTests = true) (read : rule.check text = .ok kept) :
    kept = text := by
  cases rule <;> simp only [check] at read
  case master =>
    unfold readMaster at read
    split at read <;> cases read
    rfl
  case teamConfig =>
    unfold readTeamConfig at read
    split at read <;> cases read
    rfl
  case interfaceName =>
    unfold InterfaceName.parse at read
    split at read
    · cases read
    · split at read
      · cases read
      · split at read <;> cases read
        rfl
  case uuid =>
    unfold readUuid at read
    split at read <;> cases read
    rfl
  case simOperator =>
    unfold readSimOperator at read
    simp only at read
    split at read <;> cases read
    rfl
  all_goals cases tests

/-- A rule leaves a text as it is, or gives one that it keeps. Permissions only get a mark in front. -/
theorem same_or_keeps {rule : TextRule} (unmarked : rule ≠ .permission) (read : rule.check text = .ok kept) :
    kept = text ∨ rule.Keeps kept := by
  cases tests : rule.onlyTests with
  | true => exact .inl (eq_of_check tests read)
  | false =>
    right
    cases rule <;> simp only [check] at read
    case permission => exact absurd rfl unmarked
    case method family => exact keeps_method read
    case gateway family => exact keeps_gateway read
    case address => exact keeps_address read
    case vpnService => exact keeps_vpnService read
    case nonEmpty => exact keeps_nonEmpty read
    case ethernetAddress =>
      obtain ⟨keptInked, again⟩ := HardwareAddress.parse_of_parse read
      exact ⟨keptInked, again⟩
    case searchDomain =>
      have domain := SearchDomain.isKept_of_parse read
      exact ⟨SearchDomain.isInked_of_isKept domain, SearchDomain.parse_of_isKept domain⟩
    all_goals cases tests

theorem check_of_check {rule : TextRule} (read : rule.check text = .ok kept) : rule.check kept = .ok kept := by
  by_cases permits : rule = .permission
  · subst permits
    exact readPermission_kept read
  · rcases same_or_keeps permits read with rfl | keeps
    · exact read
    · exact keeps.same

theorem keeps_of_check {rule : TextRule} (inked : Text.IsInked text) (read : rule.check text = .ok kept) :
    rule.Keeps kept := by
  by_cases permits : rule = .permission
  · subst permits
    exact keeps_permission inked read
  · rcases same_or_keeps permits read with rfl | keeps
    · exact ⟨inked, read⟩
    · exact keeps

theorem ne_empty_of_check {rule : TextRule} (read : rule.check text = .ok kept) : text ≠ "" := by
  have refused : (rule.check "").toOption = none := by
    cases rule
    case method family => cases family <;> decide
    case gateway family => cases family <;> decide
    all_goals decide
  rintro rfl
  rw [read] at refused
  cases refused

end TextRule

end NetProfile
