import NetProfile.Proofs.Text.Words
import NetProfile.Record.Qdisc

/-!
Queueing disciplines. Every handle is read back from its two halves, and a discipline from its words:
the kind is the last word of the text that it was read from, so no blank is lost at its end, and it is
no word that says where the discipline stands.
-/

namespace NetProfile

namespace Handle

theorem half?_hexDigits {n : Nat} (small : n < 65536) : half? (Numeral.hexDigits n).toList = some n := by
  rw [Numeral.hexDigits, String.toList_ofList, half?, Numeral.unsigned?_toDigits (by decide) (by decide)]
  exact if_pos small

/-- Nothing is a half but digits, with at most one plus sign among them. -/
theorem not_mem_of_half? {digits : List Char} {n : Nat} (read : half? digits = some n) {c : Char}
    (sign : c ≠ '+') (other : Numeral.isDigitOf 16 c = false) : c ∉ digits := by
  intro here
  unfold half? at read
  split at read
  · next value =>
    unfold Numeral.unsigned? at value
    split at value
    · rcases List.mem_cons.1 here with same | later
      · exact sign same
      · rw [Numeral.isDigitOf_of_value? value c later] at other
        cases other
    · rw [Numeral.isDigitOf_of_value? value c here] at other
      cases other
  · cases read

theorem parse?_halves {major minor : String} {high low : Nat} (highRead : half? major.toList = some high)
    (lowRead : (if minor = "" then some 0 else half? minor.toList) = some low) :
    parse? (major ++ ":" ++ minor) = some (UInt32.ofNat (high * 65536 + low)) := by
  have cut : Text.cutOnce ':' (major ++ ":" ++ minor) = some (major, minor) := by
    rw [Text.cutOnce_eq_some_iff]
    exact ⟨by simp, not_mem_of_half? highRead (by decide) (by decide)⟩
  have notRoot : major ++ ":" ++ minor ≠ "root" := by
    intro same
    have colon : ':' ∈ ("root" : String).toList := by
      rw [← same]
      simp
    exact absurd colon (by decide)
  simp only [parse?, if_neg notRoot, cut, highRead, lowRead]

theorem parse?_format (handle : UInt32) : parse? (format handle) = some handle := by
  by_cases atRoot : handle = root
  · rw [format, if_pos atRoot, parse?, if_pos rfl, atRoot]
  · have bound : handle.toNat < 4294967296 := handle.toNat_lt
    have high : handle.toNat / 65536 < 65536 := by omega
    have low : handle.toNat % 65536 < 65536 := by omega
    have whole : UInt32.ofNat (handle.toNat / 65536 * 65536 + handle.toNat % 65536) = handle := by
      rw [Nat.div_add_mod', UInt32.ofNat_toNat]
    rw [format, if_neg atRoot]
    simp only
    split
    · next zero =>
      -- the lower half is left out and reads as zero
      have read : parse? (Numeral.hexDigits (handle.toNat / 65536) ++ ":" ++ "")
          = some (UInt32.ofNat (handle.toNat / 65536 * 65536 + 0)) :=
        parse?_halves (half?_hexDigits high) rfl
      rwa [← zero, whole, String.append_empty] at read
    · have written : Numeral.hexDigits (handle.toNat % 65536) ≠ "" := fun empty =>
        (Numeral.isWord_hexDigits _).notEmpty (String.toList_eq_nil_iff.2 empty)
      have read := parse?_halves (half?_hexDigits high) ((if_neg written).trans (half?_hexDigits low))
      rwa [whole] at read

theorem parse_format (handle : UInt32) : parse (format handle) = .ok handle := by
  rw [parse, parse?_format]

theorem isWord_format (handle : UInt32) : Text.IsWord (format handle) := by
  have colon : Text.IsWord ":" := by decide
  have major := (Numeral.isWord_hexDigits (handle.toNat / 65536)).append colon.clean
  rw [format]
  split
  · decide
  · simp only
    split
    · exact major
    · exact major.append (Numeral.isWord_hexDigits _).clean

end Handle

namespace Qdisc

structure WellFormed (qdisc : Qdisc) : Prop where
  token : Text.IsToken qdisc.kind
  ending : Text.trimEnd qdisc.kind = qdisc.kind
  free : qdisc.kind ∉ placeWords

theorem wellFormed_of_parse {text part : String} {qdisc : Qdisc}
    (cut : part ∈ Text.items Text.isComma text) (read : parse part = .ok qdisc) : qdisc.WellFormed := by
  unfold parse at read
  obtain ⟨⟨draft, left⟩, place, read⟩ := Reading.bind_eq_ok read
  obtain ⟨⟨before, whole⟩, noPlace⟩ := left_of_readPlace place
  simp only at read
  split at read
  · cases read
  · next parent _ =>
    split at read
    · cases read
    · next kind =>
      cases read
      have last : (Text.tokens part).getLast? = some kind := by
        rw [← whole, List.getLast?_concat]
      exact {
        token := Text.isToken_of_mem_tokens cut (List.mem_of_getLast? last)
        ending := Text.trimEnd_of_getLast?_tokens last
        free := noPlace kind rfl }
    · cases read

theorem readPlace_parent (qdisc : Qdisc) (rest : List String) :
    readPlace {} ((if qdisc.parent = Handle.root then ["root"] else
        ["parent", Handle.format qdisc.parent]) ++ rest)
      = readPlace { parent := some qdisc.parent } rest := by
  split
  · next atRoot => simp [readPlace, atRoot]
  · simp [readPlace, Handle.parse_format]

theorem readPlace_handle (qdisc : Qdisc) (parent : Option UInt32) (rest : List String) :
    readPlace { parent } ((if qdisc.handle = Handle.unset then [] else
        ["handle", Handle.format qdisc.handle]) ++ rest)
      = readPlace { parent, handle := qdisc.handle } rest := by
  split
  · next unset => rw [unset, List.nil_append]
  · simp [readPlace, Handle.parse_format]

/-- Words of which the first belongs to no place are left as they are. -/
theorem readPlace_of_free {left : List String}
    (free : ∀ word, left.head? = some word → word ∉ placeWords) (draft : Draft) :
    readPlace draft left = .ok (draft, left) := by
  have other : ∀ word ∈ placeWords, ∀ rest, left = word :: rest → False := by
    rintro word place rest rfl
    exact free word rfl place
  rw [readPlace]
  · exact other "root" (by decide)
  · exact other "parent" (by decide)
  · exact other "handle" (by decide)

theorem parse_of_tokens {qdisc : Qdisc} (legal : qdisc.WellFormed) {text : String}
    (cut : Text.tokens text = qdisc.words) : parse text = .ok qdisc := by
  have kind : ∀ draft, readPlace draft [qdisc.kind] = .ok (draft, [qdisc.kind]) :=
    readPlace_of_free (by simpa using legal.free)
  rw [parse, cut, words, List.append_assoc, readPlace_parent, readPlace_handle, kind]
  rfl

def leading (qdisc : Qdisc) : List String :=
  (if qdisc.parent = Handle.root then ["root"] else ["parent", Handle.format qdisc.parent])
    ++ (if qdisc.handle = Handle.unset then [] else ["handle", Handle.format qdisc.handle])

theorem isWord_of_mem_leading {qdisc : Qdisc} {word : String} (here : word ∈ qdisc.leading) :
    Text.IsWord word := by
  have named : ∀ place ∈ placeWords, Text.IsWord place := by decide
  rcases List.mem_append.1 here with parent | handle
  · split at parent
    · rw [List.mem_singleton.1 parent]
      exact named _ (by decide)
    · simp only [List.mem_cons, List.not_mem_nil, or_false] at parent
      rcases parent with rfl | rfl
      · exact named _ (by decide)
      · exact Handle.isWord_format _
  · split at handle
    · cases handle
    · simp only [List.mem_cons, List.not_mem_nil, or_false] at handle
      rcases handle with rfl | rfl
      · exact named _ (by decide)
      · exact Handle.isWord_format _

theorem leading_ne_nil (qdisc : Qdisc) : qdisc.leading ≠ [] := by
  unfold leading
  split <;> simp

theorem tokens_toText {qdisc : Qdisc} (legal : qdisc.WellFormed) :
    Text.tokens qdisc.toText = qdisc.words := by
  obtain ⟨first, middle, shape⟩ := List.exists_cons_of_ne_nil qdisc.leading_ne_nil
  have all : ∀ word ∈ first :: middle, Text.IsWord word := by
    rw [← shape]
    exact fun word => isWord_of_mem_leading
  have whole : qdisc.words = first :: (middle ++ [qdisc.kind]) := by
    rw [← List.cons_append, ← shape]
    rfl
  have kind : Text.IsToken (Text.trimEnd qdisc.kind) := by
    rw [legal.ending]
    exact legal.token
  have line := Text.tokens_line_concat (all first List.mem_cons_self)
    (fun word here => (all word (List.mem_cons_of_mem _ here)).isToken) kind
  rwa [legal.ending, ← whole] at line

theorem parse_toText {qdisc : Qdisc} (legal : qdisc.WellFormed) : parse qdisc.toText = .ok qdisc :=
  parse_of_tokens legal (tokens_toText legal)

theorem parse_space_toText (qdisc : Qdisc) : parse (" " ++ qdisc.toText) = parse qdisc.toText := by
  rw [parse, parse, Text.tokens_space_append]

theorem toText_legal {qdisc : Qdisc} (legal : qdisc.WellFormed) :
    qdisc.toText.toList ≠ [] ∧ ',' ∉ qdisc.toText.toList := by
  apply Text.line_clean
  · simp [words]
  · intro word here
    rcases List.mem_append.1 (show word ∈ qdisc.leading ++ [qdisc.kind] from here) with place | kind
    · exact (isWord_of_mem_leading place).isToken
    · rw [List.mem_singleton.1 kind]
      exact legal.token

theorem parseList_eq_ok_iff {text : String} {qdiscs : List Qdisc} :
    parseList text = .ok qdiscs ↔ readItems Text.isComma parse text = .ok qdiscs := by
  unfold parseList
  cases readItems Text.isComma parse text <;> simp

/-- Each handle is read back from its text, and each list of disciplines that was read from a text
from its own. -/
theorem handles_and_lists_read_back :
    (∀ handle, Handle.parse (Handle.format handle) = .ok handle) ∧
      ∀ text qdiscs, parseList text = .ok qdiscs → parseList (formatList qdiscs) = .ok qdiscs := by
  refine ⟨Handle.parse_format, fun text qdiscs read => ?_⟩
  rw [parseList_eq_ok_iff] at read ⊢
  have legal : ∀ qdisc ∈ qdiscs, qdisc.WellFormed := by
    intro qdisc here
    obtain ⟨part, cut, parsed⟩ := Reading.mem_of_mapM_eq_ok read here
    exact wellFormed_of_parse cut parsed
  rw [formatList, Text.readItems_lines]
  · exact Reading.mapM_map_eq_ok fun qdisc here => parse_toText (legal qdisc here)
  · exact List.forall_mem_map.2 fun qdisc here => toText_legal (legal qdisc here)
  · exact List.forall_mem_map.2 fun qdisc _ => parse_space_toText qdisc

theorem handles_and_lists_read_back_codel :
    let text := "handle root root fq_codel, parent 1:+2  handle 0: sfq,parent root \x0bred"
    let qdiscs : List Qdisc := [⟨"fq_codel", Handle.root, Handle.root⟩, ⟨"sfq", 0, 0x10002⟩,
      ⟨"\x0bred", 0, Handle.root⟩]
    Handle.parse (Handle.format 0xffff0000) = .ok 0xffff0000 ∧ parseList text = .ok qdiscs ∧
      parseList (formatList qdiscs) = .ok qdiscs := by
  intro text qdiscs
  have read : parseList text = .ok qdiscs := by decide +kernel
  exact ⟨handles_and_lists_read_back.1 _, read, handles_and_lists_read_back.2 text qdiscs read⟩

end Qdisc

end NetProfile
