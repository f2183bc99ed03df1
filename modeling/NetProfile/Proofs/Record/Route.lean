import NetProfile.Proofs.Dict
import NetProfile.Proofs.Net.Subnet
import NetProfile.Proofs.Text.Words
import NetProfile.Record.Route

/-!
Routes. A route that is read is well-formed, and a well-formed route is read back from its words:
no word of one kind is taken for a word of a kind that is tried earlier.
-/

namespace NetProfile

def AttributeKind.Holds (family : Family) (kind : AttributeKind) (value : AttributeValue) : Prop :=
  match kind, value with
  | .u32, .u32 _ | .u8, .u8 _ | .bool, .bool _ => True
  | .address, .address held => held.family = family
  | .subnet, .subnet held => held.IsOf family
  | .routeType, .text held => held ∈ RouteAttribute.routeTypes
  | _, _ => False

namespace RouteAttribute

theorem holds_of_readValue {family : Family} {kind : AttributeKind} {text : String}
    {value : AttributeValue} (read : readValue family kind text = some value) :
    kind.Holds family value := by
  cases kind with
  | u32 | u8 | bool =>
    simp only [readValue, Option.map_eq_some_iff] at read
    obtain ⟨inner, -, rfl⟩ := read
    trivial
  | address =>
    simp only [readValue, Option.map_eq_some_iff] at read
    obtain ⟨address, found, rfl⟩ := read
    exact Address.family_of_ofFamily? found
  | subnet =>
    simp only [readValue, Option.map_eq_some_iff] at read
    obtain ⟨subnet, found, rfl⟩ := read
    cases parsed : Subnet.parse family text with
    | error error =>
      rw [parsed] at found
      cases found
    | ok given =>
      rw [parsed] at found
      cases found
      exact Subnet.isOf_of_parse parsed
  | routeType =>
    simp only [readValue] at read
    split at read
    · next known =>
      cases read
      exact known
    · cases read

theorem readValue_toText {family : Family} {kind : AttributeKind} {value : AttributeValue}
    (holds : kind.Holds family value) : readValue family kind value.toText = some value := by
  unfold AttributeKind.Holds at holds
  split at holds
  · next number =>
    have bound : number.toNat < 4294967296 := number.toNat_lt
    simp only [readValue, AttributeValue.toText]
    rw [Numeral.natural?_decimal (.inr rfl) (by omega), Option.map_some, UInt32.ofNat_toNat]
  · next number =>
    have bound : number.toNat < 256 := number.toNat_lt
    simp only [readValue, AttributeValue.toText]
    rw [Numeral.natural?_decimal (.inl rfl) (by omega), Option.map_some, UInt8.ofNat_toNat]
  · next flag =>
    have read : ∀ flag, Truth.parse (if flag then "true" else "false") = .ok flag := by decide
    simp only [readValue, AttributeValue.toText, read]
    rfl
  · next address =>
    have read := Address.ofFamily?_toText address
    rw [holds] at read
    simp only [readValue, AttributeValue.toText, read, Option.map_some]
  · next subnet =>
    simp only [readValue, AttributeValue.toText, Subnet.parse_toText holds]
    rfl
  · exact if_pos holds
  · exact holds.elim

def Fits (family : Family) (name : String) (value : AttributeValue) : Prop :=
  ∃ listed ∈ all, listed.name = name ∧ family ∈ listed.families ∧
    listed.kind.Holds family value

def Spells (family : Family) (token : String) (entry : String × AttributeValue) : Prop :=
  ∃ listed ∈ all, listed.name = entry.1 ∧ family ∈ listed.families ∧
    ∃ text, token = listed.name ++ "=" ++ text ∧ readValue family listed.kind text = some entry.2

theorem find?_name : ∀ listed ∈ all, all.find? (·.name = listed.name) = some listed := by
  decide

theorem name_legal : ∀ listed ∈ all,
    listed.name ≠ "" ∧ '=' ∉ listed.name.toList ∧ Text.IsWord listed.name := by decide

theorem parse_eq_ok_iff {family : Family} {token : String} {entry : String × AttributeValue} :
    parse family token = .ok entry ↔ Spells family token entry := by
  constructor
  · intro read
    unfold parse at read
    split at read
    · cases read
    · next given text cut =>
      split at read
      · cases read
      · split at read
        · cases read
        · next listed found =>
          have called : listed.name = given := by simpa using List.find?_some found
          split at read
          · cases read
          · next parsed value =>
            split at read
            · next usable =>
              cases read
              refine ⟨listed, List.mem_of_find?_eq_some found, called, usable, text, ?_, value⟩
              rw [← String.toList_inj, (Text.cutOnce_eq_some_iff.1 cut).1, called]
              simp
            · cases read
  · rintro ⟨listed, known, called, usable, text, rfl, value⟩
    obtain ⟨name, given⟩ := entry
    obtain rfl : listed.name = name := called
    obtain ⟨named, noSign, -⟩ := name_legal listed known
    have cut : Text.cutOnce '=' (listed.name ++ "=" ++ text) = some (listed.name, text) := by
      rw [Text.cutOnce_eq_some_iff]
      exact ⟨by simp, noSign⟩
    unfold parse
    simp only [cut, if_neg named, find?_name listed known, value, if_pos usable]

theorem fits_of_parse {family : Family} {token name : String} {value : AttributeValue}
    (read : parse family token = .ok (name, value)) : Fits family name value := by
  obtain ⟨listed, known, called, usable, text, -, read⟩ := parse_eq_ok_iff.1 read
  exact ⟨listed, known, called, usable, holds_of_readValue read⟩

def word (name : String) (value : AttributeValue) : String := name ++ "=" ++ value.toText

theorem parse_word {family : Family} {name : String} {value : AttributeValue}
    (fits : Fits family name value) : parse family (word name value) = .ok (name, value) := by
  obtain ⟨listed, known, rfl, usable, holds⟩ := fits
  exact parse_eq_ok_iff.2 ⟨listed, known, rfl, usable, value.toText, rfl, readValue_toText holds⟩

end RouteAttribute

theorem not_comma_of_isAddressChar {c : Char} (stands : isAddressChar c = true) : c ≠ ',' := by
  rintro rfl
  exact absurd stands (by decide)

theorem Address.isWord_toText (address : Address) : Text.IsWord address.toText where
  notEmpty := address.toText_ne_nil
  clean _ here :=
    have stands := isAddressChar_of_mem_toText here
    ⟨not_isBlank_of_isAddressChar stands, not_comma_of_isAddressChar stands⟩

theorem Subnet.isWord_joined (address : Address) (length : UInt8) :
    Text.IsWord (joined address length) where
  notEmpty := by simp [joined]
  clean c here := by
    refine ⟨not_isBlank_of_mem_joined here, ?_⟩
    rcases mem_joined here with stands | slash
    · exact not_comma_of_isAddressChar stands
    · subst slash
      decide

theorem AttributeKind.isWord_toText {family : Family} {kind : AttributeKind} {value : AttributeValue}
    (holds : kind.Holds family value) : Text.IsWord value.toText := by
  unfold Holds at holds
  split at holds
  · exact Numeral.isWord_decimalDigits _
  · exact Numeral.isWord_decimalDigits _
  · next flag =>
    cases flag
    · decide
    · decide
  · next address => exact address.isWord_toText
  · next subnet => exact Subnet.isWord_joined _ _
  · next word =>
    have checked : ∀ word ∈ RouteAttribute.routeTypes, Text.IsWord word := by decide
    exact checked word holds
  · exact holds.elim

theorem RouteAttribute.isWord_word {family : Family} {name : String} {value : AttributeValue}
    (fits : Fits family name value) : Text.IsWord (word name value) := by
  obtain ⟨listed, known, rfl, -, holds⟩ := fits
  have sign : Text.IsWord "=" := by decide
  have front := (name_legal listed known).2.2.append sign.clean
  exact front.append (AttributeKind.isWord_toText holds).clean

namespace Route

structure WellFormed (family : Family) (route : Route) : Prop where
  destination : route.destination.family = family
  length : Subnet.IsLength family route.length
  nextHop : ∀ hop, route.nextHop = some hop → hop.family = family
  metric : -1 ≤ route.metric.toInt ∧ route.metric.toInt ≤ 4294967295
  attributes : ∀ entry ∈ route.attributes.entries, RouteAttribute.Fits family entry.1 entry.2

theorem toInt_ofNat_metric {n : Nat} (bounded : n ≤ 4294967295) : (Int64.ofNat n).toInt = n :=
  Int64.toInt_ofNat_of_lt (show n < 2 ^ 63 by omega)

theorem wellFormed_addToken {family : Family} {route next : Route} {token : String}
    (legal : route.WellFormed family) (read : addToken family route token = .ok next) :
    next.WellFormed family := by
  unfold addToken at read
  split at read
  · next hop found =>
    split at read
    · cases read
    · cases read
      refine { legal with nextHop := fun other same => ?_ }
      cases same
      exact Address.family_of_ofFamily? found
  · split at read
    · next metric found =>
      split at read
      · cases read
      · cases read
        have bounded := Numeral.le_of_natural? found
        refine { legal with metric := ?_ }
        simp only [toInt_ofNat_metric bounded]
        omega
    · split at read
      · obtain ⟨⟨name, value⟩, parsed, read⟩ := Reading.bind_eq_ok read
        cases read
        refine { legal with attributes := fun entry here => ?_ }
        rcases Dict.mem_insert here with rfl | earlier
        · exact RouteAttribute.fits_of_parse parsed
        · exact legal.attributes entry earlier
      · cases read

theorem wellFormed_of_parse {family : Family} {text : String} {route : Route}
    (read : parse family text = .ok route) : route.WellFormed family := by
  unfold parse at read
  split at read
  · cases read
  · next first rest _ =>
    obtain ⟨⟨part, length⟩, cut, read⟩ := Reading.bind_eq_ok read
    simp only at read
    split at read
    · cases read
    · next destination found =>
      refine Reading.foldlM_invariant (WellFormed family) (fun _ _ _ => wellFormed_addToken) read ?_
      exact {
        destination := Address.family_of_ofFamily? found
        length := Subnet.isLength_of_splitLength cut
        nextHop := fun hop absent => by cases absent
        metric := show -1 ≤ (-1 : Int64).toInt ∧ (-1 : Int64).toInt ≤ 4294967295 by decide
        attributes := fun entry here => by cases here }

theorem addToken_hop {family : Family} {route : Route} {token : String} {hop : Address}
    (read : Address.ofFamily? family token = some hop) (unmeasured : route.hasMetric = false)
    (bare : route.attributes.isEmpty = true) :
    addToken family route token = .ok { route with nextHop := some hop } := by
  unfold addToken
  rw [read]
  simp [unmeasured, bare]

theorem addToken_metric {family : Family} {route : Route} {token : String} {n : Nat}
    (read : Numeral.natural? (.fixed 10) 4294967295 token = some n) (bare : route.attributes.isEmpty = true) :
    addToken family route token = .ok { route with metric := Int64.ofNat n } := by
  have number := (Numeral.natural?_eq_some_iff.1 read).1
  unfold addToken
  rw [Address.ofFamily?_of_readSigned family number, read]
  simp [bare]

/-- The sign in an attribute stands neither in addresses nor in numbers. -/
theorem reads_of_sign (family : Family) {token : String} (sign : '=' ∈ token.toList) :
    Address.ofFamily? family token = none ∧ Numeral.natural? (.fixed 10) 4294967295 token = none := by
  refine ⟨Address.ofFamily?_eq_none sign (by decide), ?_⟩
  rw [Option.eq_none_iff_forall_ne_some]
  intro n read
  have stands := Numeral.mem_of_readSigned (Numeral.natural?_eq_some_iff.1 read).1 sign
  exact absurd stands (by decide)

theorem addToken_attribute {family : Family} {route : Route} {token : String}
    {entry : String × AttributeValue} (spelled : RouteAttribute.Spells family token entry) :
    addToken family route token =
      .ok { route with attributes := route.attributes.insert entry.1 entry.2 } := by
  have sign : '=' ∈ token.toList := by
    obtain ⟨listed, -, -, -, text, rfl, -⟩ := spelled
    simp
  obtain ⟨noHop, noMetric⟩ := reads_of_sign family sign
  have found : Text.contains token '=' = true := by simpa [Text.contains] using sign
  unfold addToken
  rw [noHop, noMetric]
  simp only [found, if_true, RouteAttribute.parse_eq_ok_iff.2 spelled]
  rfl

theorem foldlM_attributeWords {family : Family} (entries : List (String × AttributeValue))
    (route : Route) (fit : ∀ entry ∈ entries, RouteAttribute.Fits family entry.1 entry.2) :
    (entries.map fun entry => RouteAttribute.word entry.1 entry.2).foldlM (addToken family) route =
      .ok { route with
        attributes := entries.foldl (fun dict entry => dict.insert entry.1 entry.2) route.attributes } := by
  induction entries generalizing route with
  | nil => rfl
  | cons entry rest ih =>
    have spelled := RouteAttribute.parse_eq_ok_iff.1
      (RouteAttribute.parse_word (fit entry List.mem_cons_self))
    rw [List.map_cons, List.foldlM_cons, addToken_attribute spelled]
    exact ih _ fun other here => fit other (List.mem_cons_of_mem _ here)

theorem metric_eq_ofNat {family : Family} {route : Route} (legal : route.WellFormed family)
    (given : route.hasMetric = true) :
    ∃ n ≤ 4294967295, route.metric = Int64.ofNat n ∧ route.metricText = Numeral.decimalDigits n := by
  have set : route.metric ≠ -1 := by simpa [hasMetric] using given
  have notUnset : route.metric.toInt ≠ -1 := fun same => set (Int64.toInt_inj.1 same)
  have positive : 0 ≤ route.metric.toInt := by
    have above := legal.metric.1
    omega
  obtain ⟨n, number⟩ := Int.eq_ofNat_of_zero_le positive
  have bounded : n ≤ 4294967295 := by
    have below := legal.metric.2
    omega
  refine ⟨n, bounded, ?_, ?_⟩
  · apply Int64.toInt_inj.1
    rw [number, toInt_ofNat_metric bounded]
  · rw [metricText, number]
    rfl

def laterWords (route : Route) : List String :=
  (route.nextHop.map Address.toText).toList
    ++ ((if route.hasMetric then [route.metricText] else []) ++ route.attributeWords)

theorem words_eq_cons (route : Route) : route.words = route.target :: route.laterWords := by
  simp [words, laterWords]

theorem foldlM_hopWord {family : Family} {route : Route} (legal : route.WellFormed family) :
    (route.nextHop.map Address.toText).toList.foldlM (addToken family)
      { destination := route.destination, length := route.length } =
      .ok { destination := route.destination, length := route.length, nextHop := route.nextHop } := by
  cases given : route.nextHop with
  | none => rfl
  | some hop =>
    simp only [Option.map_some, Option.toList_some, List.foldlM_cons, List.foldlM_nil]
    have read := Address.ofFamily?_toText hop
    rw [legal.nextHop hop given] at read
    rw [addToken_hop read rfl rfl]
    rfl

theorem foldlM_metricWord {family : Family} {route : Route} (legal : route.WellFormed family) :
    (if route.hasMetric then [route.metricText] else []).foldlM (addToken family)
      { destination := route.destination, length := route.length, nextHop := route.nextHop } =
      .ok { destination := route.destination, length := route.length, nextHop := route.nextHop
            metric := route.metric } := by
  cases given : route.hasMetric with
  | false =>
    have unset : route.metric = -1 := by simpa [hasMetric] using given
    rw [unset]
    rfl
  | true =>
    obtain ⟨n, bounded, number, written⟩ := metric_eq_ofNat legal given
    simp only [if_true, List.foldlM_cons, List.foldlM_nil]
    rw [written, addToken_metric (Numeral.natural?_decimal (.inr rfl) bounded) rfl, number]
    rfl

theorem foldlM_laterWords {family : Family} {route : Route} (legal : route.WellFormed family) :
    route.laterWords.foldlM (addToken family)
      { destination := route.destination, length := route.length } = .ok route := by
  have attributes : route.attributeWords.foldlM (addToken family)
      { destination := route.destination, length := route.length, nextHop := route.nextHop
        metric := route.metric } = .ok route := by
    have filled := foldlM_attributeWords route.attributes.entries
      { destination := route.destination, length := route.length, nextHop := route.nextHop
        metric := route.metric } legal.attributes
    rw [Dict.foldl_insert_empty] at filled
    exact filled
  rw [laterWords, List.foldlM_append, foldlM_hopWord legal]
  show List.foldlM _ _ _ = _
  rw [List.foldlM_append, foldlM_metricWord legal]
  exact attributes

theorem isWord_of_mem_words {family : Family} {route : Route} (legal : route.WellFormed family)
    {word : String} (here : word ∈ route.words) : Text.IsWord word := by
  rw [words_eq_cons, laterWords] at here
  rcases List.mem_cons.1 here with rfl | here
  · exact Subnet.isWord_joined _ _
  · rcases List.mem_append.1 here with hop | here
    · obtain ⟨address, -, rfl⟩ := Option.map_eq_some_iff.1 (Option.mem_toList.1 hop)
      exact address.isWord_toText
    · rcases List.mem_append.1 here with metric | last
      · cases given : route.hasMetric with
        | false =>
          rw [given] at metric
          cases metric
        | true =>
          obtain ⟨n, -, -, written⟩ := metric_eq_ofNat legal given
          rw [given, written] at metric
          rw [List.mem_singleton.1 metric]
          exact Numeral.isWord_decimalDigits n
      · obtain ⟨entry, member, rfl⟩ := List.mem_map.1 last
        exact RouteAttribute.isWord_word (legal.attributes entry member)

theorem parse_of_tokens {family : Family} {route : Route} (legal : route.WellFormed family)
    {text : String} (cut : Text.tokens text = route.words) :
    parse family text = .ok route := by
  have destination := Address.ofFamily?_toText route.destination
  rw [legal.destination] at destination
  have target : Subnet.splitLength family route.target = .ok (route.destination.toText, route.length) :=
    Subnet.splitLength_joined legal.length route.destination
  unfold parse
  rw [cut, words_eq_cons]
  simp only [target, bind, Except.bind]
  rw [destination]
  exact foldlM_laterWords legal

theorem parse_toText {family : Family} {route : Route} (legal : route.WellFormed family) :
    parse family route.toText = .ok route :=
  parse_of_tokens legal (Text.tokens_line fun _ here => isWord_of_mem_words legal here)

theorem parse_space_toText {family : Family} {route : Route} (legal : route.WellFormed family) :
    parse family (" " ++ route.toText) = .ok route := by
  apply parse_of_tokens legal
  rw [Text.tokens_space_append]
  exact Text.tokens_line fun _ here => isWord_of_mem_words legal here

theorem toText_legal {family : Family} {route : Route} (legal : route.WellFormed family) :
    route.toText.toList ≠ [] ∧ ',' ∉ route.toText.toList := by
  refine Text.line_clean ?_ fun _ here => (isWord_of_mem_words legal here).isToken
  rw [words_eq_cons]
  exact List.cons_ne_nil _ _

/-- A list of routes that was read from any text is read back from its parsable form. -/
theorem readItems_formatList {family : Family} {text : String} {routes : List Route}
    (read : readItems (commaOnly.elem ·) (parse family) text = .ok routes) :
    readItems (commaOnly.elem ·) (parse family) (formatList .parsable routes) = .ok routes := by
  have legal : ∀ route ∈ routes, route.WellFormed family := by
    intro route here
    obtain ⟨part, -, parsed⟩ := Reading.mem_of_mapM_eq_ok read here
    exact wellFormed_of_parse parsed
  apply Text.readItems_intercalate
  · intro route here
    exact toText_legal (legal route here)
  · intro route here
    exact parse_toText (legal route here)
  · intro route here
    exact parse_space_toText (legal route here)

theorem readItems_formatList_two :
    let text := "10.1.0.0/16 10.0.0.1 5 tos=0x10  mtu=1500,192.0.2.7 src=192.0.2.1"
    let routes : List Route := [
      { destination := .v4 ⟨10, 1, 0, 0⟩, length := 16, nextHop := some (.v4 ⟨10, 0, 0, 1⟩), metric := 5
        attributes := .ofList [("mtu", .u32 1500), ("tos", .u8 16)] },
      { destination := .v4 ⟨192, 0, 2, 7⟩, length := 32
        attributes := .ofList [("src", .address (.v4 ⟨192, 0, 2, 1⟩))] }]
    readItems (commaOnly.elem ·) (parse .v4) text = .ok routes ∧
      readItems (commaOnly.elem ·) (parse .v4) (formatList .parsable routes) = .ok routes := by
  intro text routes
  have read : readItems (commaOnly.elem ·) (parse .v4) text = .ok routes := by decide +kernel
  exact ⟨read, readItems_formatList read⟩

end Route

end NetProfile
