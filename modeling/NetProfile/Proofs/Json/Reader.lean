import NetProfile.Json.Reader
import NetProfile.Proofs.Json.Token

/-!
Trees that are built again from their tokens. The tokens of a part put just that part into the
innermost open frame, as long as no frame is too deep.
-/

namespace NetProfile.Json

namespace Building

theorem put_next (building : Building) (next : Next) (value : Json) :
    { building with next := next }.put value = building.put value := by
  obtain ⟨pending, _, done⟩ := building
  cases pending with
  | nil => rfl
  | cons frame outer => cases frame <;> rfl

theorem foldlM_cons_of_step {building next : Building} {token : Token} {tokens : List Token}
    (stepped : building.step token = some next) :
    (token :: tokens).foldlM step building = tokens.foldlM step next := by
  rw [List.foldlM_cons, stepped]
  rfl

def Awaits (building : Building) : Prop := building.next = .value ∨ building.next = .valueOrClose

theorem Awaits.step {building : Building} (awaits : building.Awaits) {token : Token}
    (noClose : token ≠ .closeArray) : building.step token = building.startValue token := by
  unfold Building.step
  rcases awaits with value | valueOrClose
  · rw [value]
  · rw [valueOrClose]
    exact if_neg noClose

theorem decimal_ne {n : Int} {word : List Char} {c : Char} (here : c ∈ word) (notMinus : c ≠ '-')
    (notDigit : Numeral.isDigitOf 10 c = false) : (Numeral.decimal n).toList ≠ word := by
  rintro rfl
  rcases Numeral.mem_decimal here with minus | digit
  · exact notMinus minus
  · rw [notDigit] at digit
    cases digit

theorem literal?_decimal {n : Int} (small : n.natAbs < 18446744073709551616) :
    literal? (Numeral.decimal n).toList = some (.int n) := by
  have notTrue : (Numeral.decimal n).toList ≠ ['t', 'r', 'u', 'e'] := decimal_ne (c := 't') (by decide) (by decide) rfl
  have notFalse : (Numeral.decimal n).toList ≠ ['f', 'a', 'l', 's', 'e'] :=
    decimal_ne (c := 'f') (by decide) (by decide) rfl
  have notNull : (Numeral.decimal n).toList ≠ ['n', 'u', 'l', 'l'] := decimal_ne (c := 'n') (by decide) (by decide) rfl
  rw [literal?, if_neg notTrue, if_neg notFalse, if_neg notNull]
  exact number?_decimal small

end Building

/-- The tokens of a tree of some height put it where a building stands, unless it is too deep there. -/
def Builds (height : Nat) (json : Json) : Prop :=
  ∀ (building : Building) (rest : List Token), building.Awaits → building.pending.length + height ≤ depthLimit →
    (json.tokens ++ rest).foldlM Building.step building = rest.foldlM Building.step (building.put json)

namespace Building

variable {height : Nat} {outer : List Frame} (fits : outer.length + 1 + height ≤ depthLimit)
include fits

theorem closed_array (items : List Json) : closed outer.length (.array items) = .array items.reverse := by
  have below : outer.length < depthLimit := by omega
  rw [closed, if_pos below]

theorem closed_object (members : List (String × Json)) (name : String) :
    closed outer.length (.object members name true) = .object members.reverse := by
  have below : outer.length < depthLimit := by omega
  rw [closed, decide_eq_true below]
  rfl

theorem foldlM_itemTokens {items : List Json} (each : ∀ item ∈ items, item.Builds height) (held : List Json)
    (done : Json) (rest : List Token) :
    (itemTokens items ++ .closeArray :: rest).foldlM step ⟨.array held :: outer, .commaOrClose, done⟩ =
      rest.foldlM step ((⟨outer, .commaOrClose, done⟩ : Building).put (.array (held.reverse ++ items))) := by
  induction items generalizing held with
  | nil =>
    have stepped : step ⟨.array held :: outer, .commaOrClose, done⟩ .closeArray =
        some ((⟨outer, .commaOrClose, done⟩ : Building).put (closed outer.length (.array held))) := rfl
    rw [closed_array fits] at stepped
    rw [itemTokens, List.nil_append, foldlM_cons_of_step stepped, List.append_nil]
  | cons item items ih =>
    have comma : step ⟨.array held :: outer, .commaOrClose, done⟩ .comma
        = some ⟨.array held :: outer, .value, done⟩ := rfl
    have first := each item List.mem_cons_self ⟨.array held :: outer, .value, done⟩
      (itemTokens items ++ .closeArray :: rest) (.inl rfl) fits
    have later := ih (fun item here => each item (List.mem_cons_of_mem _ here)) (item :: held)
    rw [List.reverse_cons, List.append_assoc, List.singleton_append] at later
    rw [itemTokens, List.cons_append, List.cons_append, List.append_assoc, foldlM_cons_of_step comma, first]
    exact later

theorem foldlM_memberTokens {members : List (String × Json)} (each : ∀ member ∈ members, member.2.Builds height)
    (held : List (String × Json)) (last : String) (done : Json) (rest : List Token) :
    (memberTokens members ++ .closeObject :: rest).foldlM step
        ⟨.object held last true :: outer, .commaOrClose, done⟩ =
      rest.foldlM step ((⟨outer, .commaOrClose, done⟩ : Building).put (.object (held.reverse ++ members))) := by
  induction members generalizing held last with
  | nil =>
    have stepped : step ⟨.object held last true :: outer, .commaOrClose, done⟩ .closeObject =
        some ((⟨outer, .commaOrClose, done⟩ : Building).put (closed outer.length (.object held last true))) := rfl
    rw [closed_object fits] at stepped
    rw [memberTokens, List.nil_append, foldlM_cons_of_step stepped, List.append_nil]
  | cons member members ih =>
    obtain ⟨name, value⟩ := member
    have comma : step ⟨.object held last true :: outer, .commaOrClose, done⟩ .comma
        = some ⟨.object held last true :: outer, .name, done⟩ := rfl
    have named : step ⟨.object held last true :: outer, .name, done⟩ (.text (some name))
        = some ⟨.object held name true :: outer, .colon, done⟩ := rfl
    have colon : step ⟨.object held name true :: outer, .colon, done⟩ .colon
        = some ⟨.object held name true :: outer, .value, done⟩ := rfl
    have first := each (name, value) List.mem_cons_self ⟨.object held name true :: outer, .value, done⟩
      (memberTokens members ++ .closeObject :: rest) (.inl rfl) fits
    have later := ih (fun member here => each member (List.mem_cons_of_mem _ here)) ((name, value) :: held) name
    rw [List.reverse_cons, List.append_assoc, List.singleton_append] at later
    simp only [memberTokens, List.cons_append, List.append_assoc]
    rw [foldlM_cons_of_step comma, foldlM_cons_of_step named, foldlM_cons_of_step colon, first]
    exact later

end Building

section

open Building

variable {height : Nat}

theorem builds_array {items : List Json} (each : ∀ item ∈ items, item.Builds height) :
    (array items).Builds (height + 1) := by
  intro building rest awaits fits
  have opened : building.step .openArray
      = some ⟨.array [] :: building.pending, .valueOrClose, building.done⟩ := awaits.step (by decide)
  replace fits : building.pending.length + 1 + height ≤ depthLimit := by omega
  cases items with
  | nil =>
    have closing : step ⟨.array [] :: building.pending, .valueOrClose, building.done⟩ .closeArray = some
        ((⟨building.pending, .valueOrClose, building.done⟩ : Building).put
          (closed building.pending.length (.array []))) := rfl
    rw [closed_array fits, put_next building .valueOrClose] at closing
    exact (foldlM_cons_of_step opened).trans (foldlM_cons_of_step closing)
  | cons item items =>
    have first := each item List.mem_cons_self ⟨.array [] :: building.pending, .valueOrClose, building.done⟩
      (itemTokens items ++ .closeArray :: rest) (.inr rfl) fits
    have later := foldlM_itemTokens fits (fun item here => each item (List.mem_cons_of_mem _ here)) [item]
      building.done rest
    rw [put_next building .commaOrClose] at later
    simp only [tokens, List.cons_append, List.append_assoc, List.nil_append]
    rw [foldlM_cons_of_step opened, first]
    exact later

theorem builds_object {members : List (String × Json)} (each : ∀ member ∈ members, member.2.Builds height) :
    (object members).Builds (height + 1) := by
  intro building rest awaits fits
  have opened : building.step .openObject
      = some ⟨.object [] "" true :: building.pending, .nameOrClose, building.done⟩ := awaits.step (by decide)
  replace fits : building.pending.length + 1 + height ≤ depthLimit := by omega
  cases members with
  | nil =>
    have closing : step ⟨.object [] "" true :: building.pending, .nameOrClose, building.done⟩ .closeObject = some
        ((⟨building.pending, .nameOrClose, building.done⟩ : Building).put
          (closed building.pending.length (.object [] "" true))) := rfl
    rw [closed_object fits, put_next building .nameOrClose] at closing
    exact (foldlM_cons_of_step opened).trans (foldlM_cons_of_step closing)
  | cons member members =>
    obtain ⟨name, value⟩ := member
    have named : step ⟨.object [] "" true :: building.pending, .nameOrClose, building.done⟩ (.text (some name))
        = some ⟨.object [] name true :: building.pending, .colon, building.done⟩ := rfl
    have colon : step ⟨.object [] name true :: building.pending, .colon, building.done⟩ .colon
        = some ⟨.object [] name true :: building.pending, .value, building.done⟩ := rfl
    have first := each (name, value) List.mem_cons_self
      ⟨.object [] name true :: building.pending, .value, building.done⟩
      (memberTokens members ++ .closeObject :: rest) (.inl rfl) fits
    have later := foldlM_memberTokens fits (fun member here => each member (List.mem_cons_of_mem _ here))
      [(name, value)] name building.done rest
    rw [put_next building .commaOrClose] at later
    simp only [tokens, List.cons_append, List.append_assoc, List.nil_append]
    rw [foldlM_cons_of_step opened, foldlM_cons_of_step named, foldlM_cons_of_step colon, first]
    exact later

theorem Plain.builds {json : Json} (plain : json.Plain height) : json.Builds height := by
  induction plain with
  | null =>
    intro building rest awaits fits
    exact foldlM_cons_of_step (awaits.step (by decide))
  | bool height value =>
    intro building rest awaits fits
    cases value with
    | true => exact foldlM_cons_of_step (awaits.step (by decide))
    | false => exact foldlM_cons_of_step (awaits.step (by decide))
  | int height small =>
    intro building rest awaits fits
    refine foldlM_cons_of_step ((awaits.step Token.noConfusion).trans ?_)
    rw [startValue, literal?_decimal small]
    rfl
  | text height value =>
    intro building rest awaits fits
    exact foldlM_cons_of_step (awaits.step Token.noConfusion)
  | array _ ih => exact builds_array ih
  | object _ ih => exact builds_object ih

end

/-- A written tree that is plain and not too high is read as the same tree. -/
theorem Plain.parse?_toLines {height : Nat} {json : Json} (plain : json.Plain height) (low : height ≤ depthLimit) :
    parse? json.toLines = some json := by
  have built := plain.builds {} [] (.inl rfl) (by simpa using low)
  rw [List.append_nil] at built
  rw [parse?, toLines, String.toList_ofList, plain.tokens?_lines, Option.bind_some, ofTokens?, built]
  rfl

end NetProfile.Json
