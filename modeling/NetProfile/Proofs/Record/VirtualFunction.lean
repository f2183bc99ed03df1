import NetProfile.Proofs.Dict
import NetProfile.Proofs.Scalar.Octets
import NetProfile.Proofs.Text.Words
import NetProfile.Record.VirtualFunction

/-!
Virtual functions. An attribute is kept in a form that stays as it is when it is read again, and a VLAN
is read back from its parts although the last ones may be left out. So a function is read back from
its words, and a list of functions from its text.
-/

namespace NetProfile

namespace FunctionVlan

def WellFormed (vlan : FunctionVlan) : Prop := vlan.id.toNat ≤ 4095

theorem le_of_id? {text : String} {id : UInt32} (read : id? text = some id) : id.toNat ≤ 4095 := by
  obtain ⟨n, number, rfl⟩ := Option.map_eq_some_iff.1 read
  have small := Numeral.le_of_natural? number
  rwa [UInt32.toNat_ofNat_of_lt' (by rw [UInt32.size]; omega)]

theorem wellFormed_of_parse {text : String} {vlan : FunctionVlan} (read : parse text = .ok vlan) :
    vlan.WellFormed := by
  unfold parse at read
  split at read
  · next found parsed =>
    cases read
    unfold parse? at parsed
    split at parsed
    · obtain ⟨id, number, parsed⟩ := Option.bind_eq_some_iff.1 parsed
      cases parsed
      exact le_of_id? number
    · obtain ⟨id, number, parsed⟩ := Option.bind_eq_some_iff.1 parsed
      obtain ⟨qos, -, parsed⟩ := Option.bind_eq_some_iff.1 parsed
      cases parsed
      exact le_of_id? number
    · obtain ⟨id, number, parsed⟩ := Option.bind_eq_some_iff.1 parsed
      obtain ⟨qos, -, parsed⟩ := Option.bind_eq_some_iff.1 parsed
      obtain ⟨protocol, -, parsed⟩ := Option.bind_eq_some_iff.1 parsed
      cases parsed
      exact le_of_id? number
    · cases parsed
  · cases read

def isPartChar (c : Char) : Bool := Numeral.isDigitOf 10 c || c == 'a' || c == 'd' || c == 'q'

theorem isPartChar_of_mem_parts {vlan : FunctionVlan} {part : String} (here : part ∈ vlan.parts)
    {c : Char} (inside : c ∈ part.toList) : isPartChar c = true := by
  have digits : ∀ n, c ∈ (Numeral.decimalDigits n).toList → isPartChar c = true := by
    intro n digit
    rw [Numeral.decimalDigits, String.toList_ofList] at digit
    simp [isPartChar, Numeral.isDigitOf_of_mem_toDigits (by decide) (by decide) digit]
  have names : ∀ protocol : VlanProtocol, ∀ d ∈ protocol.name.toList, isPartChar d = true := by
    rintro (_ | _) <;> exact List.all_eq_true.1 (by decide)
  simp only [parts] at here
  split at here
  · simp only [List.mem_cons, List.not_mem_nil, or_false] at here
    rcases here with rfl | rfl | rfl
    · exact digits _ inside
    · exact digits _ inside
    · exact names _ c inside
  · split at here
    · simp only [List.mem_cons, List.not_mem_nil, or_false] at here
      rcases here with rfl | rfl <;> exact digits _ inside
    · rw [List.mem_singleton.1 here] at inside
      exact digits _ inside

theorem parts_ne_nil (vlan : FunctionVlan) : vlan.parts ≠ [] := by
  simp only [parts]
  split
  · simp
  · split <;> simp

theorem pieces_toText (vlan : FunctionVlan) : Text.pieces (· == '.') vlan.toText = vlan.parts := by
  apply Text.pieces_glued '.' rfl vlan.parts_ne_nil
  · intro part here c inside
    have stands := isPartChar_of_mem_parts here inside
    rw [beq_eq_false_iff_ne]
    rintro rfl
    exact absurd stands (by decide)
  · rfl

theorem parse_toText {vlan : FunctionVlan} (legal : vlan.WellFormed) : parse vlan.toText = .ok vlan := by
  have idRead : id? (Numeral.decimalDigits vlan.id.toNat) = some vlan.id := by
    rw [id?, Numeral.natural?_decimal (.inr rfl) legal, Option.map_some, UInt32.ofNat_toNat]
  have qosRead : qos? (Numeral.decimalDigits vlan.qos.toNat) = some vlan.qos := by
    have bound : vlan.qos.toNat < 4294967296 := vlan.qos.toNat_lt
    rw [qos?, Numeral.natural?_decimal (.inr rfl) (by omega), Option.map_some, UInt32.ofNat_toNat]
  have read : parse? vlan.toText = some vlan := by
    rw [parse?, pieces_toText, parts]
    obtain ⟨id, qos, protocol⟩ := vlan
    -- parts are left out only where reading puts the same values in
    cases protocol with
    | ad => simp [idRead, qosRead, protocol?_name]
    | q =>
      by_cases plain : qos = 0
      · subst plain
        simp [idRead]
      · simp [plain, idRead, qosRead]
  rw [parse, read]

theorem clean_of_mem_toText {vlan : FunctionVlan} {c : Char} (here : c ∈ vlan.toText.toList) :
    (Text.isBlank c = false ∧ c ≠ ',') ∧ c ≠ ';' := by
  rcases Text.mem_intercalate here with dot | ⟨part, member, inside⟩
  · rw [List.mem_singleton.1 dot]
    decide
  · have stands := isPartChar_of_mem_parts member inside
    simp only [isPartChar, Bool.or_eq_true, beq_iff_eq] at stands
    rcases stands with ((digit | rfl) | rfl) | rfl
    · refine ⟨Numeral.clean_of_isDigitOf digit, ?_⟩
      rintro rfl
      exact absurd digit (by decide)
    all_goals decide

theorem toText_ne_nil (vlan : FunctionVlan) : vlan.toText.toList ≠ [] := by
  have first : Numeral.decimalDigits vlan.id.toNat ∈ vlan.parts := by
    simp only [parts]
    split
    · exact List.mem_cons_self
    · split <;> exact List.mem_cons_self
  obtain ⟨c, inside⟩ := List.exists_mem_of_ne_nil _ (Numeral.isWord_decimalDigits vlan.id.toNat).notEmpty
  exact List.ne_nil_of_mem (Text.mem_intercalate_of_mem first inside)

end FunctionVlan

namespace VirtualFunction

/-- An attribute other than the VLANs, with a value that is left as it is. -/
structure Keeps (key value : String) : Prop where
  listed : key ∈ attributeNames
  single : key ≠ "vlans"
  normal : normalize key value = .ok value
  word : Text.IsWord value

theorem isWord_formatOctets {octets : List UInt8} (notEmpty : octets ≠ []) :
    Text.IsWord (HardwareAddress.formatOctets octets) where
  notEmpty none :=
    (HardwareAddress.isInked_formatOctets notEmpty).notEmpty (String.toList_eq_nil_iff.1 none)
  clean c here := by
    rcases HardwareAddress.mem_formatOctets notEmpty here with separator | digit
    · simp only [HardwareAddress.isSeparator, Bool.or_eq_true, beq_iff_eq] at separator
      rcases separator with rfl | rfl <;> decide
    · exact Numeral.clean_of_isDigitOf digit

theorem keeps_flag {key : String} (named : key ∈ ["spoof-check", "trust"]) (flag : Bool) :
    Keeps key (if flag then "true" else "false") := by
  have read : (Truth.parse (if flag then "true" else "false")).toOption = some flag := by
    cases flag <;> decide
  have word : Text.IsWord (if flag then "true" else "false") := by cases flag <;> decide
  generalize written : (if flag then "true" else "false") = value at read word ⊢
  simp only [List.mem_cons, List.not_mem_nil, or_false] at named
  rcases named with rfl | rfl <;>
    exact ⟨by decide, by decide, by unfold normalize; simp only [read, written], word⟩

theorem keeps_rate {key : String} (named : key ∈ ["min-tx-rate", "max-tx-rate"]) {n : Nat}
    (bound : n ≤ 4294967295) : Keeps key (Numeral.decimalDigits n) := by
  have read := Numeral.natural?_decimal (.inr rfl : Numeral.Base.ReadsDecimal (.fixed 10)) bound
  simp only [List.mem_cons, List.not_mem_nil, or_false] at named
  rcases named with rfl | rfl <;>
    exact ⟨by decide, by decide, by unfold normalize; simp only [read], Numeral.isWord_decimalDigits n⟩

theorem keeps_of_normalize {key value kept : String} (read : normalize key value = .ok kept) :
    Keeps key kept := by
  unfold normalize at read
  split at read
  · split at read
    · next octets found =>
      cases read
      have size := HardwareAddress.length_of_octets? found
      have notEmpty : octets ≠ [] := List.ne_nil_of_length_pos (by omega)
      have again := HardwareAddress.octets?_formatOctets notEmpty
      rw [size] at again
      exact ⟨by decide, by decide, by unfold normalize; simp only [again], isWord_formatOctets notEmpty⟩
    · cases read
  iterate 2
    · split at read
      · cases read
        exact keeps_flag (by decide) _
      · cases read
  iterate 2
    · split at read
      · next n number =>
        cases read
        exact keeps_rate (by decide) (Numeral.le_of_natural? number)
      · cases read
  · cases read

structure WellFormed (function : VirtualFunction) : Prop where
  attributes : ∀ entry ∈ function.attributes.entries, Keeps entry.1 entry.2
  vlans : ∀ vlan ∈ function.vlans, vlan.WellFormed

theorem wellFormed_addToken {function next : VirtualFunction} {token : String}
    (legal : function.WellFormed) (read : addToken function token = .ok next) : next.WellFormed := by
  unfold addToken at read
  split at read
  · cases read
  · next key value _ =>
    split at read
    · obtain ⟨vlans, parsed, read⟩ := Reading.bind_eq_ok read
      split at read
      · cases read
      · cases read
        refine { legal with vlans := fun vlan here => ?_ }
        obtain ⟨part, -, found⟩ := Reading.mem_of_mapM_eq_ok parsed here
        exact FunctionVlan.wellFormed_of_parse found
    · obtain ⟨kept, normal, read⟩ := Reading.bind_eq_ok read
      cases read
      refine { legal with attributes := fun entry here => ?_ }
      rcases Dict.mem_insert here with rfl | earlier
      · exact keeps_of_normalize normal
      · exact legal.attributes entry earlier

theorem wellFormed_of_parse {text : String} {function : VirtualFunction}
    (read : parse text = .ok function) : function.WellFormed := by
  unfold parse at read
  split at read
  · cases read
  · next first rest _ =>
    split at read
    · next index _ =>
      refine Reading.foldlM_invariant WellFormed (fun _ _ _ => wellFormed_addToken) read ?_
      exact {
        attributes := fun entry here => by cases here
        vlans := fun vlan here => by cases here }
    · cases read

theorem key_legal : ∀ key ∈ attributeNames, '=' ∉ key.toList ∧ Text.IsWord key := by decide

theorem addToken_attribute {key value : String} (keeps : Keeps key value) (function : VirtualFunction) :
    addToken function (key ++ "=" ++ value) =
      .ok { function with attributes := function.attributes.insert key value } := by
  have cut : Text.cutOnce '=' (key ++ "=" ++ value) = some (key, value) := by
    rw [Text.cutOnce_eq_some_iff]
    exact ⟨by simp, (key_legal key keeps.listed).1⟩
  simp only [addToken, cut, if_neg keeps.single, keeps.normal]
  rfl

theorem foldlM_attributes (entries : List (String × String)) (function : VirtualFunction)
    (keep : ∀ entry ∈ entries, Keeps entry.1 entry.2) :
    (entries.map fun (key, value) => key ++ "=" ++ value).foldlM addToken function =
      .ok { function with
        attributes := entries.foldl (fun dict entry => dict.insert entry.1 entry.2) function.attributes } := by
  induction entries generalizing function with
  | nil => rfl
  | cons entry rest ih =>
    rw [List.map_cons, List.foldlM_cons, addToken_attribute (keep entry List.mem_cons_self)]
    exact ih _ fun other here => keep other (List.mem_cons_of_mem _ here)

theorem readVlans_written {vlans : List FunctionVlan} (legal : ∀ vlan ∈ vlans, vlan.WellFormed) :
    readItems (· == ';') FunctionVlan.parse (String.intercalate ";" (vlans.map FunctionVlan.toText))
      = .ok vlans := by
  have cut : Text.items (· == ';') (String.intercalate ";" (vlans.map FunctionVlan.toText))
      = vlans.map FunctionVlan.toText := by
    refine Text.items_glued ';' rfl (List.forall_mem_map.2 fun vlan _ => ?_) rfl
    refine ⟨vlan.toText_ne_nil, fun c inside => ?_⟩
    exact beq_eq_false_iff_ne.2 (FunctionVlan.clean_of_mem_toText inside).2
  rw [readItems, cut]
  exact Reading.mapM_map_eq_ok fun vlan here => FunctionVlan.parse_toText (legal vlan here)

def vlanWords (vlans : List FunctionVlan) : List String :=
  if vlans = [] then [] else ["vlans=" ++ String.intercalate ";" (vlans.map FunctionVlan.toText)]

theorem foldlM_vlanWords {vlans : List FunctionVlan} (legal : ∀ vlan ∈ vlans, vlan.WellFormed)
    {function : VirtualFunction} (free : function.vlans = []) :
    (vlanWords vlans).foldlM addToken function = .ok { function with vlans } := by
  unfold vlanWords
  split
  · next empty =>
    rw [empty, ← free]
    rfl
  · next filled =>
    have cut : ∀ text, Text.cutOnce '=' ("vlans=" ++ text) = some ("vlans", text) := by
      intro text
      rw [Text.cutOnce_eq_some_iff]
      exact ⟨by simp, by decide⟩
    have read := readVlans_written legal
    simp only [List.foldlM_cons, addToken, cut, if_true, read, bind, Except.bind, if_neg filled]
    rfl

def laterWords (function : VirtualFunction) : List String :=
  (function.attributes.entries.map fun (key, value) => key ++ "=" ++ value) ++ vlanWords function.vlans

theorem words_eq_cons (function : VirtualFunction) :
    function.words = Numeral.decimalDigits function.index.toNat :: function.laterWords := rfl

theorem foldlM_laterWords {function : VirtualFunction} (legal : function.WellFormed) :
    function.laterWords.foldlM addToken { index := function.index } = .ok function := by
  rw [laterWords, List.foldlM_append, foldlM_attributes _ _ legal.attributes]
  simp only [Dict.foldl_insert_empty]
  exact foldlM_vlanWords legal.vlans rfl

theorem parse_of_tokens {function : VirtualFunction} (legal : function.WellFormed) {text : String}
    (cut : Text.tokens text = function.words) :
    parse text = .ok function := by
  have bound : function.index.toNat < 4294967296 := function.index.toNat_lt
  have index := Numeral.natural?_decimal (.inr rfl : Numeral.Base.ReadsDecimal (.fixed 10))
    (show function.index.toNat ≤ 4294967295 by omega)
  rw [parse, cut, words_eq_cons]
  simp only [index, UInt32.ofNat_toNat]
  exact foldlM_laterWords legal

theorem isWord_of_mem_words {function : VirtualFunction} (legal : function.WellFormed) {word : String}
    (here : word ∈ function.words) : Text.IsWord word := by
  have sign : Text.IsWord "=" := by decide
  rcases List.mem_cons.1 here with rfl | later
  · exact Numeral.isWord_decimalDigits _
  · rcases List.mem_append.1 (show word ∈ function.laterWords from later) with kept | vlans
    · obtain ⟨entry, member, rfl⟩ := List.mem_map.1 kept
      have keeps := legal.attributes entry member
      have key := (key_legal entry.1 keeps.listed).2
      exact (key.append sign.clean).append keeps.word.clean
    · rw [vlanWords] at vlans
      split at vlans
      · cases vlans
      · rw [List.mem_singleton.1 vlans]
        have key : Text.IsWord "vlans=" := by decide
        refine key.append fun c inside => ?_
        rcases Text.mem_intercalate inside with semicolon | ⟨text, member, within⟩
        · rw [List.mem_singleton.1 semicolon]
          decide
        · obtain ⟨vlan, -, rfl⟩ := List.mem_map.1 member
          exact (FunctionVlan.clean_of_mem_toText within).1

theorem parse_toText {function : VirtualFunction} (legal : function.WellFormed) :
    parse function.toText = .ok function :=
  parse_of_tokens legal (Text.tokens_line fun _ here => isWord_of_mem_words legal here)

theorem parse_space_toText (function : VirtualFunction) :
    parse (" " ++ function.toText) = parse function.toText := by
  rw [parse, parse, Text.tokens_space_append]

theorem toText_legal {function : VirtualFunction} (legal : function.WellFormed) :
    function.toText.toList ≠ [] ∧ ',' ∉ function.toText.toList :=
  Text.line_clean (List.cons_ne_nil _ _) fun _ here => (isWord_of_mem_words legal here).isToken

theorem parseList_eq_ok_iff {text : String} {functions : List VirtualFunction} :
    parseList text = .ok functions ↔ readItems Text.isComma parse text = .ok functions := by
  unfold parseList
  cases readItems Text.isComma parse text <;> simp

/-- A list of functions that was read from any text is read back from its own. -/
theorem parseList_formatList {text : String} {functions : List VirtualFunction}
    (read : parseList text = .ok functions) : parseList (formatList functions) = .ok functions := by
  rw [parseList_eq_ok_iff] at read ⊢
  have legal : ∀ function ∈ functions, function.WellFormed := by
    intro function here
    obtain ⟨part, -, parsed⟩ := Reading.mem_of_mapM_eq_ok read here
    exact wellFormed_of_parse parsed
  rw [formatList, Text.readItems_lines]
  · exact Reading.mapM_map_eq_ok fun function here => parse_toText (legal function here)
  · exact List.forall_mem_map.2 fun function here => toText_legal (legal function here)
  · exact List.forall_mem_map.2 fun function _ => parse_space_toText function

theorem parseList_formatList_two :
    let text := "2 vlans=7.0.q;200.+1 trust=YES mac=0-11-22-aa-bb-cc,2 vlans=9.0.ad"
    let functions : List VirtualFunction := [
      { index := 2, attributes := .ofList [("mac", "00:11:22:AA:BB:CC"), ("trust", "true")]
        vlans := [⟨7, 0, .q⟩, ⟨200, 1, .q⟩] },
      { index := 2, vlans := [⟨9, 0, .ad⟩] }]
    parseList text = .ok functions ∧ parseList (formatList functions) = .ok functions := by
  intro text functions
  have read : parseList text = .ok functions := by decide +kernel
  exact ⟨read, parseList_formatList read⟩

end VirtualFunction

end NetProfile
