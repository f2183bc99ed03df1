import NetProfile.Net.Names
import NetProfile.Proofs.Text.Case
import NetProfile.Proofs.Text.Fields
import NetProfile.Proofs.Text.Trim

/-!
Host names and search domains are kept in small letters and without a dot at the end. In that form
they are accepted again, and as they are.
-/

namespace NetProfile

namespace Hostname

theorem isLabel_toLower (label : List Char) : isLabel (label.map Char.toLower) = isLabel label := by
  have ends := Text.toLower_congr isEnd (by decide)
  have inner := Text.toLower_congr isInner (by decide)
  simp only [isLabel, List.length_map, List.all_map, List.head?_map, List.getLast?_map, Option.all_map,
    Function.comp_def, ends, inner]

structure IsKept (host : String) : Prop where
  notEmpty : host ≠ ""
  small : Text.byteLength host ≤ 253
  labels : ∀ label ∈ Text.piecesOf (· == '.') host.toList, isLabel label = true
  lower : Text.lower host = host

theorem isKept_of_parse {text host : String} (read : parse text = .ok host) : IsKept host := by
  unfold parse at read
  split at read
  · cases read
  · next size =>
    split at read
    · cases read
    · next legal =>
      cases read
      have dots := Text.toLower_congr (· == '.') (by decide)
      refine ⟨fun empty => size (.inl ?_), ?_, fun label here => ?_, Text.lower_lower text⟩
      · rw [← String.toList_eq_nil_iff, Text.lower, String.toList_ofList, List.map_eq_nil_iff] at empty
        exact String.toList_eq_nil_iff.1 empty
      · rw [Text.byteLength_lower]
        exact Nat.le_of_not_lt fun long => size (.inr long)
      · rw [Text.lower, String.toList_ofList, Text.piecesOf_map dots] at here
        obtain ⟨label, member, rfl⟩ := List.mem_map.1 here
        rw [isLabel_toLower]
        simpa using List.find?_eq_none.1 legal label member

theorem parse_of_isKept {host : String} (kept : IsKept host) : parse host = .ok host := by
  have size : ¬(host = "" ∨ 253 < Text.byteLength host) := fun wrong =>
    wrong.elim kept.notEmpty (Nat.not_lt.2 kept.small)
  have legal : (Text.piecesOf (· == '.') host.toList).find? (!isLabel ·) = none := by
    apply List.find?_eq_none.2
    intro label here
    simp [kept.labels label here]
  unfold parse
  simp only [if_neg size, legal, kept.lower]

theorem mem_of_isKept {host : String} (kept : IsKept host) {c : Char} (here : c ∈ host.toList) :
    c = '.' ∨ isInner c = true := by
  rcases Text.mem_piecesOf_of_mem (· == '.') here with dot | ⟨label, member, inside⟩
  · exact .inl (by simpa using dot)
  · have legal := kept.labels label member
    simp only [isLabel, Bool.and_eq_true] at legal
    exact .inr (List.all_eq_true.1 legal.1.1.2 c inside)

theorem not_isBlank_of_isInner {c : Char} (inner : isInner c = true) : Text.isBlank c = false := by
  have bounds : 45 ≤ c.toNat ∧ c.toNat ≤ 122 := by
    simp only [isInner, isEnd, Text.isAsciiLetter, Text.isAsciiDigit, Bool.or_eq_true, Bool.and_eq_true,
      decide_eq_true_eq, beq_iff_eq, Char.le_def, UInt32.le_iff_toNat_le] at inner
    rcases inner with (((small | capital) | digit) | rfl) | rfl
    · exact ⟨Nat.le_trans (by decide) small.1, small.2⟩
    · exact ⟨Nat.le_trans (by decide) capital.1, Nat.le_trans capital.2 (by decide)⟩
    · exact ⟨Nat.le_trans (by decide) digit.1, Nat.le_trans digit.2 (by decide)⟩
    · decide
    · decide
  simp only [Text.isBlank, Bool.or_eq_false_iff, Bool.and_eq_false_iff, decide_eq_false_iff_not,
    beq_eq_false_iff_ne]
  omega

theorem not_isBlank_of_isKept {host : String} (kept : IsKept host) {c : Char} (here : c ∈ host.toList) :
    Text.isBlank c = false := by
  rcases mem_of_isKept kept here with rfl | inner
  · decide
  · exact not_isBlank_of_isInner inner

theorem stripEnd?_of_isKept {host : String} (kept : IsKept host) : Text.stripEnd? "." host = none := by
  unfold Text.stripEnd?
  rw [Option.map_eq_none_iff, Option.eq_none_iff_forall_ne_some]
  intro rest found
  have backwards := Text.dropHead?_eq_some_iff.1 found
  have whole : host.toList = rest.reverse ++ ['.'] := by
    rw [← List.reverse_reverse host.toList, backwards]
    simp
  -- there would be an empty label after the last dot
  have last : [] ∈ Text.piecesOf (· == '.') host.toList := by
    rw [whole, Text.piecesOf_append rfl]
    exact List.mem_append_right _ List.mem_cons_self
  exact absurd (kept.labels [] last) (by decide)

end Hostname

namespace SearchDomain

def IsKept (domain : String) : Prop :=
  domain = "~." ∨ ∃ host, Hostname.IsKept host ∧ (domain = "~" ++ host ∨ domain = host)

theorem isKept_of_parse {text domain : String} (read : parse text = .ok domain) : IsKept domain := by
  unfold parse at read
  split at read
  · next root =>
    cases read
    exact .inl root
  · simp only at read
    split at read
    · next host found =>
      cases read
      refine .inr ⟨host, Hostname.isKept_of_parse found, ?_⟩
      split
      · exact .inl rfl
      · exact .inr (String.empty_append ..)
    · cases read

theorem parse_of_isKept {domain : String} (kept : IsKept domain) : parse domain = .ok domain := by
  rcases kept with rfl | ⟨host, keptHost, form⟩
  · rfl
  · have noTilde : '~' ∉ host.toList := by
      intro tilde
      rcases Hostname.mem_of_isKept keptHost tilde with dot | inner
      · exact absurd dot (by decide)
      · exact absurd inner (by decide)
    have noDot := Hostname.stripEnd?_of_isKept keptHost
    have hostAgain := Hostname.parse_of_isKept keptHost
    rcases form with rfl | rfl
    · have marked : Text.stripStart? "~" ("~" ++ host) = some host := Text.stripStart?_eq_some_iff.2 rfl
      have noRoot : "~" ++ host ≠ "~." := by
        intro root
        have dot : host = "." := by
          rw [← String.toList_inj, String.toList_append] at root
          have tail : '~' :: host.toList = ['~', '.'] := root
          exact String.toList_inj.1 (List.cons.inj tail).2
        rw [dot] at noDot
        revert noDot
        decide
      unfold parse
      simp only [if_neg noRoot, marked, noDot, Option.getD_none, hostAgain]
    · have unmarked : Text.stripStart? "~" domain = none := by
        rw [Option.eq_none_iff_forall_ne_some]
        intro rest found
        rw [Text.stripStart?_eq_some_iff.1 found, String.toList_append] at noTilde
        exact noTilde List.mem_cons_self
      have noRoot : domain ≠ "~." := by
        rintro rfl
        exact noTilde List.mem_cons_self
      unfold parse
      simp only [if_neg noRoot, unmarked, noDot, Option.getD_none, hostAgain, String.empty_append]

theorem isInked_of_isKept {domain : String} (kept : IsKept domain) : Text.IsInked domain := by
  rcases kept with rfl | ⟨host, keptHost, form⟩
  · decide
  · have host : Text.IsInked host := .of_forall keptHost.notEmpty fun _ => Hostname.not_isBlank_of_isKept keptHost
    rcases form with rfl | rfl
    · exact .append (by decide) host
    · exact host

end SearchDomain

end NetProfile
