import NetProfile.Json.Printer
import NetProfile.Json.Token
import NetProfile.Proofs.Json.Number
import NetProfile.Proofs.Json.Reordered

/-!
The tokens of a written tree. A pass over a text has no end of its own for words and numbers: it
learns of it by the character that follows. So each part is passed over together with the rest of the
text, which must not go on with the part.
-/

namespace NetProfile.Json

mutual

def tokens : Json → List Token
  | null | unreadable => [.literal ['n', 'u', 'l', 'l']]
  | bool true => [.literal ['t', 'r', 'u', 'e']]
  | bool false => [.literal ['f', 'a', 'l', 's', 'e']]
  | int n => [.literal (Numeral.decimal n).toList]
  | real literal => [.literal literal.toList]
  | text value => [.text (some value)]
  | array [] => [.openArray, .closeArray]
  | array (item :: items) => .openArray :: tokens item ++ itemTokens items ++ [.closeArray]
  | object [] => [.openObject, .closeObject]
  | object ((name, value) :: members) =>
    .openObject :: .text (some name) :: .colon :: tokens value ++ memberTokens members ++ [.closeObject]

def itemTokens : List Json → List Token
  | [] => []
  | item :: items => .comma :: tokens item ++ itemTokens items

def memberTokens : List (String × Json) → List Token
  | [] => []
  | (name, value) :: members => .comma :: .text (some name) :: .colon :: tokens value ++ memberTokens members

end

def Pass.tokensOver (pass : Pass) (text : List Char) : Option (List Token) := (text.foldlM step pass).bind finish

def Free (text : List Char) : Prop := ∀ c ∈ text.head?, isLiteralChar c = false

theorem not_isJsonBlank {c : Char} (literal : isLiteralChar c = true) : isJsonBlank c = false ∧ c ≠ '"' := by
  refine ⟨Bool.eq_false_iff.2 fun blank => ?_, ?_⟩
  · simp only [isJsonBlank, Bool.or_eq_true, beq_iff_eq] at blank
    rcases blank with ((rfl | rfl) | rfl) | rfl <;> exact absurd literal (by decide)
  · rintro rfl
    exact absurd literal (by decide)

theorem isLiteralChar_of_mem_decimal {n : Int} {c : Char} (here : c ∈ (Numeral.decimal n).toList) :
    isLiteralChar c = true := by
  have digit : ∀ m : Nat, c ∈ (Numeral.decimalDigits m).toList → isLiteralChar c = true := by
    intro m inside
    rw [Numeral.decimalDigits, String.toList_ofList] at inside
    simp [isLiteralChar, isAsciiDigit_of_mem_toDigits inside]
  cases n with
  | ofNat m => exact digit m here
  | negSucc m =>
    rw [Numeral.decimal, String.toList_append, List.mem_append] at here
    rcases here with minus | inside
    · rw [List.mem_singleton.1 minus]
      rfl
    · exact digit (m + 1) inside

namespace Pass

variable {found : List Token} {rest : List Char}

theorem tokensOver_cons {pass next : Pass} {c : Char} (stepped : pass.step c = some next) :
    pass.tokensOver (c :: rest) = next.tokensOver rest := by
  rw [tokensOver, List.foldlM_cons, stepped]
  rfl

theorem tokensOver_punctuation {c : Char} (token : Token) (mark : punctuation? c = some token)
    (notText : c ≠ '"') (free : isLiteralChar c = false) (notBlank : isJsonBlank c = false) :
    tokensOver { tokens := found } (c :: rest) = tokensOver { tokens := token :: found } rest := by
  apply tokensOver_cons
  simp [step, stepOutside, mark, notText, free, notBlank]

theorem tokensOver_blanks {blanks : List Char} (blank : ∀ c ∈ blanks, isJsonBlank c = true) :
    tokensOver { tokens := found } (blanks ++ rest) = tokensOver { tokens := found } rest := by
  induction blanks with
  | nil => rfl
  | cons c blanks ih =>
    have stepped : step { tokens := found } c = some { tokens := found } := by
      simp [step, stepOutside, blank c List.mem_cons_self]
    rw [List.cons_append, tokensOver_cons stepped]
    exact ih fun d here => blank d (List.mem_cons_of_mem _ here)

theorem tokensOver_newLine (depth : Nat) :
    tokensOver { tokens := found } (newLine depth ++ rest) = tokensOver { tokens := found } rest := by
  refine tokensOver_blanks fun c here => ?_
  rcases List.mem_cons.1 here with rfl | space
  · rfl
  · rw [List.eq_of_mem_replicate space]
    rfl

theorem tokensOver_colon :
    tokensOver { tokens := found } (':' :: ' ' :: rest) = tokensOver { tokens := .colon :: found } rest :=
  rfl

theorem tokensOver_literalChars {chars before : List Char} (literal : ∀ c ∈ chars, isLiteralChar c = true) :
    tokensOver { place := .literal before, tokens := found } (chars ++ rest) =
      tokensOver { place := .literal (chars.reverse ++ before), tokens := found } rest := by
  induction chars generalizing before with
  | nil => rfl
  | cons c chars ih =>
    have stepped : step { place := .literal before, tokens := found } c
        = some { place := .literal (c :: before), tokens := found } := by
      simp [step, literal c List.mem_cons_self]
    rw [List.cons_append, tokensOver_cons stepped, ih fun d here => literal d (List.mem_cons_of_mem _ here)]
    simp

theorem tokensOver_afterLiteral {chars : List Char} (free : Free rest) :
    tokensOver { place := .literal chars, tokens := found } rest =
      tokensOver { tokens := .literal chars.reverse :: found } rest := by
  cases rest with
  | nil => rfl
  | cons c rest =>
    have other : isLiteralChar c = false := free c rfl
    rw [tokensOver, tokensOver, List.foldlM_cons, List.foldlM_cons]
    simp [step, other]

theorem tokensOver_literal (chars : List Char) (notEmpty : chars ≠ []) (literal : ∀ c ∈ chars, isLiteralChar c = true)
    (free : Free rest) :
    tokensOver { tokens := found } (chars ++ rest) = tokensOver { tokens := .literal chars :: found } rest := by
  obtain ⟨c, chars, rfl⟩ := List.exists_cons_of_ne_nil notEmpty
  have first := literal c List.mem_cons_self
  have stepped : step { tokens := found } c = some { place := .literal [c], tokens := found } := by
    simp [step, stepOutside, first, not_isJsonBlank first]
  rw [List.cons_append, tokensOver_cons stepped,
    tokensOver_literalChars fun d here => literal d (List.mem_cons_of_mem _ here),
    tokensOver_afterLiteral free]
  simp

variable {chars : List Char}

def inside (chars : List Char) (found : List Token) : Pass :=
  { place := .quoted { chars }, tokens := found }

theorem tokensOver_shortEscape {letter c : Char} (short : escaped? letter = some c) (notUnit : letter ≠ 'u') :
    (inside chars found).tokensOver ('\\' :: letter :: rest) = (inside (c :: chars) found).tokensOver rest := by
  have slash : step (inside chars found) '\\' = some { place := .escape { chars }, tokens := found } := rfl
  have stepped : step { place := .escape { chars }, tokens := found } letter = some (inside (c :: chars) found) := by
    simp only [step, if_neg notUnit, short]
    rfl
  rw [tokensOver_cons slash, tokensOver_cons stepped]

theorem isHexDigit_digitChar {d : Nat} (small : d < 16) : Text.isHexDigit (Nat.digitChar d) = true := by
  have all : ∀ d : Fin 16, Text.isHexDigit (Nat.digitChar d) = true := by decide
  exact all ⟨d, small⟩

theorem tokensOver_unitEscape {c : Char} (control : c.toNat < 0x20) :
    (inside chars found).tokensOver ('\\' :: 'u' :: '0' :: '0' :: Nat.digitChar (c.toNat / 16)
      :: Nat.digitChar (c.toNat % 16) :: rest) = (inside (c :: chars) found).tokensOver rest := by
  have high : c.toNat / 16 < 16 := by omega
  have low : c.toNat % 16 < 16 := Nat.mod_lt _ (by decide)
  have zeros : (inside chars found).tokensOver ('\\' :: 'u' :: '0' :: '0' :: Nat.digitChar (c.toNat / 16)
      :: Nat.digitChar (c.toNat % 16) :: rest)
      = tokensOver { place := .unit { chars } 2 0, tokens := found } (Nat.digitChar (c.toNat / 16)
        :: Nat.digitChar (c.toNat % 16) :: rest) := rfl
  have third : step { place := .unit { chars } 2 0, tokens := found } (Nat.digitChar (c.toNat / 16))
      = some { place := .unit { chars } 3 (c.toNat / 16), tokens := found } := by
    simp [step, isHexDigit_digitChar high, Numeral.digitValue_digitChar high]
  have whole : c.toNat / 16 * 16 + c.toNat % 16 = c.toNat := Nat.div_add_mod' ..
  have pushed : Quoted.pushUnit { chars } c.toNat = { chars := c :: chars } := by
    have noLead : Quoted.isLead c.toNat = false := by simp [Quoted.isLead]; omega
    have noTrail : Quoted.isTrail c.toNat = false := by simp [Quoted.isTrail]; omega
    simp [Quoted.pushUnit, noLead, noTrail, Quoted.push, Quoted.settle]
  have fourth : step { place := .unit { chars } 3 (c.toNat / 16), tokens := found } (Nat.digitChar (c.toNat % 16))
      = some (inside (c :: chars) found) := by
    simp [step, isHexDigit_digitChar low, Numeral.digitValue_digitChar low, whole, pushed, inside]
  rw [zeros, tokensOver_cons third, tokensOver_cons fourth]

theorem escape_short : ∀ c ∈ ['"', '\\', '\x08', '\x0c', '\n', '\r', '\t'],
    (match escape c with
      | ['\\', letter] => decide (letter ≠ 'u' ∧ escaped? letter = some c)
      | _ => false) = true := by
  refine List.all_eq_true.1 ?_
  decide

theorem tokensOver_escape (c : Char) :
    (inside chars found).tokensOver (escape c ++ rest) = (inside (c :: chars) found).tokensOver rest := by
  by_cases short : c ∈ ['"', '\\', '\x08', '\x0c', '\n', '\r', '\t']
  · have escaped := escape_short c short
    split at escaped
    · next letter shape =>
      obtain ⟨notUnit, letterOf⟩ := of_decide_eq_true escaped
      rw [shape]
      exact tokensOver_shortEscape letterOf notUnit
    · cases escaped
  · simp only [List.mem_cons, List.not_mem_nil, or_false, not_or] at short
    obtain ⟨notQuote, notSlash, notBackspace, notFeed, notLine, notReturn, notTab⟩ := short
    simp only [escape, if_neg notQuote, if_neg notSlash, if_neg notBackspace, if_neg notFeed, if_neg notLine,
      if_neg notReturn, if_neg notTab]
    split
    · next control => exact tokensOver_unitEscape control
    · next shown =>
      have stepped : step (inside chars found) c = some (inside (c :: chars) found) := by
        simp only [step, inside, if_neg notQuote, if_neg notSlash, if_neg shown]
        rfl
      exact tokensOver_cons stepped

theorem tokensOver_escapes (cs : List Char) :
    (inside chars found).tokensOver (cs.flatMap escape ++ '"' :: rest) =
      tokensOver { tokens := .text (some (String.ofList (chars.reverse ++ cs))) :: found } rest := by
  induction cs generalizing chars with
  | nil =>
    have closed : step (inside chars found) '"'
        = some { tokens := .text (some (String.ofList chars.reverse)) :: found } := rfl
    rw [List.flatMap_nil, List.nil_append, tokensOver_cons closed, List.append_nil]
  | cons c cs ih =>
    rw [List.flatMap_cons, List.append_assoc, tokensOver_escape, ih]
    simp

theorem tokensOver_quote (text : String) :
    tokensOver { tokens := found } (quote text ++ rest) = tokensOver { tokens := .text (some text) :: found } rest := by
  have opened : step { tokens := found } '"' = some (inside [] found) := rfl
  rw [quote, List.append_assoc, List.cons_append, tokensOver_cons opened]
  rw [List.singleton_append, tokensOver_escapes, List.reverse_nil, List.nil_append, String.ofList_toList]

end Pass

def Scans (json : Json) : Prop :=
  ∀ (depth : Nat) (found : List Token) (rest : List Char), Free rest →
    Pass.tokensOver { tokens := found } (json.lines depth ++ rest) =
      Pass.tokensOver { tokens := json.tokens.reverse ++ found } rest

theorem free_cons {c : Char} {rest : List Char} (other : isLiteralChar c = false) : Free (c :: rest) := by
  rintro d ⟨⟩
  exact other

theorem free_newLine {depth : Nat} {rest : List Char} : Free (newLine depth ++ rest) := free_cons rfl

theorem free_itemLines {depth : Nat} {rest : List Char} (free : Free rest) (items : List Json) :
    Free (itemLines depth items ++ rest) := by
  cases items with
  | nil => exact free
  | cons => exact free_cons rfl

theorem free_memberLines {depth : Nat} {rest : List Char} (free : Free rest) (members : List (String × Json)) :
    Free (memberLines depth members ++ rest) := by
  cases members with
  | nil => exact free
  | cons => exact free_cons rfl

theorem tokensOver_itemLines {items : List Json} (each : ∀ item ∈ items, item.Scans) (depth : Nat)
    (found : List Token) {rest : List Char} (free : Free rest) :
    Pass.tokensOver { tokens := found } (itemLines depth items ++ rest) =
      Pass.tokensOver { tokens := (itemTokens items).reverse ++ found } rest := by
  induction items generalizing found with
  | nil => rfl
  | cons item items ih =>
    have first := each item List.mem_cons_self
    have later := ih fun item here => each item (List.mem_cons_of_mem _ here)
    simp only [itemLines, List.append_assoc, List.cons_append]
    rw [Pass.tokensOver_punctuation .comma rfl (by decide) rfl rfl, Pass.tokensOver_newLine,
      first _ _ _ (free_itemLines free items), later]
    simp [itemTokens]

theorem tokensOver_memberLines {members : List (String × Json)}
    (each : ∀ member ∈ members, member.2.Scans) (depth : Nat)
    (found : List Token) {rest : List Char} (free : Free rest) :
    Pass.tokensOver { tokens := found } (memberLines depth members ++ rest) =
      Pass.tokensOver { tokens := (memberTokens members).reverse ++ found } rest := by
  induction members generalizing found with
  | nil => rfl
  | cons member members ih =>
    obtain ⟨name, value⟩ := member
    have first : value.Scans := each (name, value) List.mem_cons_self
    have later := ih fun member here => each member (List.mem_cons_of_mem _ here)
    simp only [memberLines, List.append_assoc, List.cons_append, List.nil_append]
    rw [Pass.tokensOver_punctuation .comma rfl (by decide) rfl rfl, Pass.tokensOver_newLine, Pass.tokensOver_quote,
      Pass.tokensOver_colon, first _ _ _ (free_memberLines free members), later]
    simp [memberTokens]

theorem scans_array {items : List Json} (each : ∀ item ∈ items, item.Scans) : (array items).Scans := by
  intro depth found rest free
  cases items with
  | nil =>
    rw [lines, List.cons_append, List.singleton_append,
      Pass.tokensOver_punctuation .openArray rfl (by decide) rfl rfl,
      Pass.tokensOver_punctuation .closeArray rfl (by decide) rfl rfl]
    rfl
  | cons item items =>
    have first := each item List.mem_cons_self
    have later := tokensOver_itemLines (fun item here => each item (List.mem_cons_of_mem _ here)) (depth + 1)
    simp only [lines, List.append_assoc, List.cons_append, List.nil_append]
    rw [Pass.tokensOver_punctuation .openArray rfl (by decide) rfl rfl, Pass.tokensOver_newLine,
      first _ _ _ (free_itemLines free_newLine items), later _ free_newLine, Pass.tokensOver_newLine,
      Pass.tokensOver_punctuation .closeArray rfl (by decide) rfl rfl]
    simp [tokens]

theorem scans_object {members : List (String × Json)} (each : ∀ member ∈ members, member.2.Scans) :
    (object members).Scans := by
  intro depth found rest free
  cases members with
  | nil =>
    rw [lines, List.cons_append, List.singleton_append,
      Pass.tokensOver_punctuation .openObject rfl (by decide) rfl rfl,
      Pass.tokensOver_punctuation .closeObject rfl (by decide) rfl rfl]
    rfl
  | cons member members =>
    obtain ⟨name, value⟩ := member
    have first : value.Scans := each (name, value) List.mem_cons_self
    have later := tokensOver_memberLines (fun member here => each member (List.mem_cons_of_mem _ here)) (depth + 1)
    simp only [lines, List.append_assoc, List.cons_append, List.nil_append]
    rw [Pass.tokensOver_punctuation .openObject rfl (by decide) rfl rfl, Pass.tokensOver_newLine,
      Pass.tokensOver_quote, Pass.tokensOver_colon, first _ _ _ (free_memberLines free_newLine members),
      later _ free_newLine, Pass.tokensOver_newLine,
      Pass.tokensOver_punctuation .closeObject rfl (by decide) rfl rfl]
    simp [tokens]

theorem Plain.scans {height : Nat} {json : Json} (plain : json.Plain height) : json.Scans := by
  induction plain with
  | null =>
    intro depth found rest free
    exact Pass.tokensOver_literal ['n', 'u', 'l', 'l'] (by decide) (List.all_eq_true.1 rfl) free
  | bool height value =>
    intro depth found rest free
    cases value with
    | true => exact Pass.tokensOver_literal ['t', 'r', 'u', 'e'] (by decide) (List.all_eq_true.1 rfl) free
    | false => exact Pass.tokensOver_literal ['f', 'a', 'l', 's', 'e'] (by decide) (List.all_eq_true.1 rfl) free
  | @int height n small =>
    intro depth found rest free
    refine Pass.tokensOver_literal _ (Numeral.decimal_ne_nil n) (fun c here => ?_) free
    exact isLiteralChar_of_mem_decimal here
  | text height value =>
    intro depth found rest free
    exact Pass.tokensOver_quote value
  | array _ ih => exact scans_array ih
  | object _ ih => exact scans_object ih

theorem Plain.tokens?_lines {height : Nat} {json : Json} (plain : json.Plain height) :
    tokens? (json.lines 0) = some json.tokens := by
  have scanned := plain.scans 0 [] [] (by rintro c ⟨⟩)
  rw [List.append_nil, List.append_nil] at scanned
  refine scanned.trans ?_
  simp [Pass.tokensOver, Pass.finish]

end NetProfile.Json
