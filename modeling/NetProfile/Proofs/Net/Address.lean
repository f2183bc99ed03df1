import NetProfile.Net.Address
import NetProfile.Proofs.Numeral
import NetProfile.Proofs.Text.Fields

/-!
Addresses and their texts. An address is read back from its text in either family, whichever run of
zeros the text leaves out, and a text that is an address has no characters but digits, dots and
colons.
-/

namespace NetProfile

def isAddressChar (c : Char) : Bool := Numeral.isDigitOf 16 c || c == '.' || c == ':'

theorem not_isBlank_of_isAddressChar {c : Char} (stands : isAddressChar c = true) :
    Text.isBlank c = false := by
  simp only [isAddressChar, Bool.or_eq_true, beq_iff_eq] at stands
  rcases stands with (digit | dot) | colon
  · exact Numeral.not_isBlank_of_isDigitOf digit
  · subst dot
    decide
  · subst colon
    decide

namespace IPv4

theorem octet?_toDigits (octet : UInt8) : octet? (Nat.toDigits 10 octet.toNat) = some octet := by
  have bound : octet.toNat < 256 := octet.toNat_lt
  have size : (Nat.toDigits 10 octet.toNat).length ≤ 3 :=
    (Nat.length_toDigits_le_iff (by decide) (by decide)).2 (by omega)
  have single : (Nat.toDigits 10 octet.toNat).head? = some '0' →
      (Nat.toDigits 10 octet.toNat).length = 1 := by
    intro zero
    rcases Nat.eq_zero_or_pos octet.toNat with zero | positive
    · rw [zero, Numeral.toDigits_zero 10 (by decide)]
      rfl
    · exact absurd zero (Numeral.head?_toDigits (by decide) (by decide) positive)
  unfold octet?
  rw [if_pos ⟨size, single⟩, Numeral.value?_toDigits (by decide) (by decide)]
  simp only [if_pos bound, UInt8.ofNat_toNat]

theorem piecesOf_toChars (address : IPv4) :
    Text.piecesOf (· == '.') address.toChars =
      [Nat.toDigits 10 address.a.toNat, Nat.toDigits 10 address.b.toNat,
        Nat.toDigits 10 address.c.toNat, Nat.toDigits 10 address.d.toNat] := by
  have clean : ∀ n, ∀ c ∈ Nat.toDigits 10 n, (c == '.') = false := by
    intro n c here
    exact Numeral.ne_of_mem_toDigits (by decide) (by decide) (by decide) here
  unfold toChars
  simp only [List.append_assoc, List.cons_append]
  rw [Text.piecesOf_append_cons (clean _) rfl, Text.piecesOf_append_cons (clean _) rfl,
    Text.piecesOf_append_cons (clean _) rfl, Text.piecesOf_of_clean (clean _)]

theorem ofChars?_toChars (address : IPv4) : ofChars? address.toChars = some address := by
  unfold ofChars?
  rw [piecesOf_toChars]
  simp only [List.map_cons, List.map_nil, octet?_toDigits]

theorem mem_toChars {address : IPv4} {c : Char} (here : c ∈ address.toChars) :
    Numeral.isDigitOf 10 c = true ∨ c = '.' := by
  have digit : ∀ n, c ∈ Nat.toDigits 10 n → Numeral.isDigitOf 10 c = true := fun n member =>
    Numeral.isDigitOf_of_mem_toDigits (by decide) (by decide) member
  unfold toChars at here
  simp only [List.mem_append, List.mem_cons] at here
  rcases here with ((first | dot | second) | dot | third) | dot | fourth
  · exact .inl (digit _ first)
  · exact .inr dot
  · exact .inl (digit _ second)
  · exact .inr dot
  · exact .inl (digit _ third)
  · exact .inr dot
  · exact .inl (digit _ fourth)

theorem ne_colon_of_mem_toChars {address : IPv4} {c : Char} (here : c ∈ address.toChars) :
    (c == ':') = false := by
  rw [beq_eq_false_iff_ne]
  rintro rfl
  rcases mem_toChars here with digit | dot
  · exact absurd digit (by decide)
  · exact absurd dot (by decide)

theorem dot_mem_toChars (address : IPv4) : '.' ∈ address.toChars := by
  unfold toChars
  simp only [List.mem_append, List.mem_cons, true_or, or_true]

theorem mem_of_ofChars? {cs : List Char} {address : IPv4} (read : ofChars? cs = some address) {c : Char}
    (here : c ∈ cs) : Numeral.isDigitOf 10 c = true ∨ c = '.' := by
  rcases Text.mem_piecesOf_of_mem (· == '.') here with dot | ⟨piece, member, inside⟩
  · exact .inr (by simpa using dot)
  · have octets : ∃ octet, octet? piece = some octet := by
      unfold ofChars? at read
      split at read
      · next shape =>
        have found : octet? piece ∈ (Text.piecesOf (· == '.') cs).map octet? :=
          List.mem_map_of_mem member
        rw [shape] at found
        simp only [List.mem_cons, List.not_mem_nil, or_false] at found
        rcases found with same | same | same | same <;> exact ⟨_, same⟩
      · cases read
    obtain ⟨octet, octetRead⟩ := octets
    unfold octet? at octetRead
    split at octetRead
    · split at octetRead
      · next n value => exact .inl (Numeral.isDigitOf_of_value? value c inside)
      · cases octetRead
    · cases octetRead

theorem isAddressChar_of_ofChars? {cs : List Char} {address : IPv4}
    (read : ofChars? cs = some address) {c : Char} (here : c ∈ cs) : isAddressChar c = true := by
  rcases mem_of_ofChars? read here with ten | rfl
  · simp [isAddressChar, Numeral.isDigitOf_mono (show 10 ≤ 16 by decide) ten]
  · decide

/-- Without a dot there are too few octets. -/
theorem ofChars?_of_clean {cs : List Char} (dots : ∀ c ∈ cs, (c == '.') = false) :
    ofChars? cs = none := by
  unfold ofChars?
  rw [Text.piecesOf_of_clean dots]
  simp

theorem toGroups_ofGroups (high low : UInt16) : (ofGroups high low).toGroups = [high, low] := by
  have joined : ∀ group : UInt16,
      (group >>> 8).toUInt8.toUInt16 <<< 8 ||| group.toUInt8.toUInt16 = group := by
    intro group
    have bound : group.toNat < 65536 := group.toNat_lt
    apply UInt16.toNat_inj.1
    simp only [UInt16.toNat_or, UInt16.toNat_shiftLeft, UInt16.toNat_shiftRight, UInt8.toNat_toUInt16,
      UInt16.toNat_toUInt8, UInt16.reduceToNat, Nat.reduceMod, Nat.reducePow]
    have high : group.toNat >>> 8 % 256 = group.toNat / 256 := by
      rw [Nat.shiftRight_eq_div_pow]
      omega
    rw [high, Nat.mod_eq_of_lt (by rw [Nat.shiftLeft_eq]; omega),
      ← Nat.shiftLeft_add_eq_or_of_lt (by omega), Nat.shiftLeft_eq]
    omega
  unfold toGroups ofGroups
  rw [joined, joined]

end IPv4

namespace IPv6

theorem group?_toDigits (group : UInt16) : group? (Nat.toDigits 16 group.toNat) = some group := by
  have bound : group.toNat < 65536 := group.toNat_lt
  have size : (Nat.toDigits 16 group.toNat).length ≤ 4 :=
    (Nat.length_toDigits_le_iff (by decide) (by decide)).2 (by omega)
  unfold group?
  rw [if_pos size, Numeral.value?_toDigits (by decide) (by decide), Option.map_some,
    UInt16.ofNat_toNat]

theorem groupList?_cons {dotted : Bool} {digits : List Char} {pieces : List (List Char)}
    {group : UInt16} {groups : List UInt16} (first : group? digits = some group)
    (others : groupList? dotted pieces = some groups) :
    groupList? dotted (digits :: pieces) = some (group :: groups) := by
  cases pieces with
  | nil =>
    cases others
    simp [groupList?, first]
  | cons next rest => simp [groupList?, first, others]

theorem groupList?_toDigits (dotted : Bool) (groups : List UInt16) :
    groupList? dotted (groups.map fun group => Nat.toDigits 16 group.toNat) = some groups := by
  induction groups with
  | nil => rfl
  | cons group groups ih => exact groupList?_cons (group?_toDigits group) ih

theorem ne_colon_of_mem_toDigits {n : Nat} {c : Char} (here : c ∈ Nat.toDigits 16 n) :
    (c == ':') = false := Numeral.ne_of_mem_toDigits (by decide) (by decide) (by decide) here

theorem groupChars_cons_cons (group next : UInt16) (groups : List UInt16) :
    groupChars (group :: next :: groups) =
      Nat.toDigits 16 group.toNat ++ ':' :: groupChars (next :: groups) := by
  simp [groupChars, List.intercalate]

theorem groupChars_singleton (group : UInt16) : groupChars [group] = Nat.toDigits 16 group.toNat := by
  simp [groupChars, List.intercalate]

theorem groups?_groupChars (dotted : Bool) (groups : List UInt16) :
    groups? dotted (groupChars groups) = some groups := by
  cases groups with
  | nil => rfl
  | cons group rest =>
    have notEmpty : groupChars (group :: rest) ≠ [] := by
      cases rest with
      | nil =>
        rw [groupChars_singleton]
        exact Nat.toDigits_ne_nil
      | cons next rest =>
        rw [groupChars_cons_cons]
        simp
    unfold groups?
    rw [if_neg notEmpty, groupChars, Text.piecesOf_intercalate (by simp) ?_ rfl]
    · exact groupList?_toDigits dotted _
    · intro piece here c inside
      obtain ⟨group, -, rfl⟩ := List.mem_map.1 here
      exact ne_colon_of_mem_toDigits inside

theorem cutDouble_append {piece : List Char} (clean : ∀ c ∈ piece, (c == ':') = false)
    (rest : List Char) :
    cutDouble (piece ++ rest) = (cutDouble rest).map fun (before, after) => (piece ++ before, after) := by
  induction piece with
  | nil => simp
  | cons c cs ih =>
    have different : c ≠ ':' := beq_eq_false_iff_ne.1 (clean c List.mem_cons_self)
    have tail := ih fun d here => clean d (List.mem_cons_of_mem _ here)
    rw [List.cons_append, cutDouble, tail, Option.map_map]
    · rfl
    · intro other same
      exact absurd same different

theorem cutDouble_colon {c : Char} (different : c ≠ ':') (rest : List Char) :
    cutDouble (':' :: c :: rest) =
      (cutDouble (c :: rest)).map fun (before, after) => (':' :: before, after) := by
  rw [cutDouble]
  intro other same shape
  exact absurd (List.cons.inj shape).1 different

theorem cutDouble_groupChars (groups : List UInt16) (rest : List Char) :
    cutDouble (groupChars groups ++ rest) =
      (cutDouble rest).map fun (before, after) => (groupChars groups ++ before, after) := by
  induction groups with
  | nil => simp [groupChars]
  | cons group groups ih =>
    have digits : ∀ n, ∀ c ∈ Nat.toDigits 16 n, (c == ':') = false := fun n c here =>
      ne_colon_of_mem_toDigits here
    cases groups with
    | nil =>
      rw [groupChars_singleton]
      exact cutDouble_append (digits _) rest
    | cons next groups =>
      -- the next group starts with a digit, so the colon in front of it is no double one
      obtain ⟨c, cs, shape⟩ : ∃ c cs, groupChars (next :: groups) = c :: cs ∧ c ≠ ':' := by
        obtain ⟨c, cs, front⟩ := List.exists_cons_of_ne_nil
          (Nat.toDigits_ne_nil (n := next.toNat) (b := 16))
        have digit := digits next.toNat c (by rw [front]; exact List.mem_cons_self)
        have different := beq_eq_false_iff_ne.1 digit
        cases groups with
        | nil => exact ⟨c, cs, by rw [groupChars_singleton, front], different⟩
        | cons third groups =>
          exact ⟨c, _, by rw [groupChars_cons_cons, front, List.cons_append], different⟩
      obtain ⟨start, different⟩ := shape
      rw [groupChars_cons_cons, List.append_assoc, List.cons_append, cutDouble_append (digits _)]
      rw [start] at ih ⊢
      rw [List.cons_append, cutDouble_colon different, ← List.cons_append, ih, Option.map_map,
        Option.map_map]
      cases cutDouble rest <;> simp

theorem leadingZeros_spec (groups : List UInt16) :
    ∃ back, groups = List.replicate (leadingZeros groups) 0 ++ back := by
  induction groups with
  | nil => exact ⟨[], rfl⟩
  | cons group groups ih =>
    obtain ⟨back, whole⟩ := ih
    unfold leadingZeros
    split
    · next zero =>
      refine ⟨back, ?_⟩
      rw [zero, List.replicate_succ, List.cons_append, ← whole]
    · exact ⟨group :: groups, rfl⟩

theorem longestZeros_spec (groups : List UInt16) :
    ∃ front back, groups = front ++ List.replicate (longestZeros groups).2 0 ++ back ∧
      front.length = (longestZeros groups).1 := by
  induction groups with
  | nil => exact ⟨[], [], rfl, rfl⟩
  | cons group groups ih =>
    simp only [longestZeros]
    split
    · obtain ⟨back, whole⟩ := leadingZeros_spec (group :: groups)
      exact ⟨[], back, by simpa using whole, rfl⟩
    · obtain ⟨front, back, whole, place⟩ := ih
      refine ⟨group :: front, back, ?_, ?_⟩
      · rw [List.cons_append, List.cons_append, ← whole]
      · rw [List.length_cons, place]

theorem ofGroups?_toList (address : IPv6) : ofGroups? address.groups.toList = some address := by
  unfold ofGroups?
  rw [dif_pos address.groups.length_toList]
  rfl

/-- Two lists of groups that make eight with the zeros between them. -/
theorem ofChars?_double (address : IPv6) {cs before after : List Char}
    (cut : cutDouble cs = some (before, after)) (front back : List UInt16) (length : Nat)
    (whole : address.groups.toList = front ++ List.replicate length 0 ++ back) (positive : 0 < length)
    (first : groups? false before = some front) (last : groups? true after = some back) :
    ofChars? cs = some address := by
  have eight : front.length + length + back.length = 8 := by
    have size := address.groups.length_toList
    rw [whole] at size
    simpa [Nat.add_assoc] using size
  have between : 8 - front.length - back.length = length := by omega
  unfold ofChars?
  rw [cut]
  simp only [first, last]
  rw [if_pos (by omega), between, ← whole, ofGroups?_toList]

/-- An address with dots is no group of digits. -/
theorem group?_toChars (address : IPv4) : group? address.toChars = none := by
  unfold group?
  split
  · rw [Option.map_eq_none_iff, Option.eq_none_iff_forall_ne_some]
    intro n value
    have digit := Numeral.isDigitOf_of_value? value '.' (IPv4.dot_mem_toChars address)
    exact absurd digit (by decide)
  · rfl

/-- Five zeros, the mark of a mapped address, and the address with dots. -/
theorem ofChars?_mapped (address : IPv6) {high low : UInt16}
    (shape : address.groups.toList = [0, 0, 0, 0, 0, 0xFFFF, high, low]) :
    ofChars? ("::ffff:".toList ++ (IPv4.ofGroups high low).toChars) = some address := by
  have clean : ∀ c ∈ (IPv4.ofGroups high low).toChars, (c == ':') = false :=
    fun c here => IPv4.ne_colon_of_mem_toChars here
  have cut : cutDouble ("::ffff:".toList ++ (IPv4.ofGroups high low).toChars)
      = some ([], "ffff:".toList ++ (IPv4.ofGroups high low).toChars) := rfl
  have pieces : Text.piecesOf (· == ':') ("ffff:".toList ++ (IPv4.ofGroups high low).toChars)
      = ["ffff".toList, (IPv4.ofGroups high low).toChars] := by
    rw [← Text.piecesOf_of_clean clean]
    rfl
  have last : groupList? true [(IPv4.ofGroups high low).toChars] = some [high, low] := by
    simp [groupList?, group?_toChars, IPv4.ofChars?_toChars, IPv4.toGroups_ofGroups]
  refine ofChars?_double address cut [] [0xFFFF, high, low] 5 shape (by decide) rfl ?_
  unfold groups?
  rw [if_neg (by simp), pieces]
  exact groupList?_cons (by decide) last

theorem ofChars?_groupChars (address : IPv6) :
    ofChars? (groupChars address.groups.toList) = some address := by
  have single : cutDouble (groupChars address.groups.toList) = none := by
    have cut := cutDouble_groupChars address.groups.toList []
    rwa [List.append_nil] at cut
  unfold ofChars?
  rw [single]
  simp only [groups?_groupChars, Option.bind_some]
  exact ofGroups?_toList address

theorem ofChars?_toChars (address : IPv6) : ofChars? address.toChars = some address := by
  unfold toChars
  split
  · next inner mapped =>
    unfold mapped? at mapped
    split at mapped
    · next high low shape =>
      cases mapped
      exact ofChars?_mapped address shape
    · cases mapped
  · obtain ⟨front, back, whole, place⟩ := longestZeros_spec address.groups.toList
    simp only
    generalize longestZeros address.groups.toList = run at whole place ⊢
    obtain ⟨start, length⟩ := run
    simp only at whole place ⊢
    split
    · exact ofChars?_groupChars address
    · next two =>
      have taken : address.groups.toList.take start = front := by
        rw [whole, ← place, List.append_assoc, List.take_left']
        rfl
      have dropped : address.groups.toList.drop (start + length) = back := by
        rw [whole, List.drop_left']
        simp [place]
      rw [taken, dropped]
      have cut : cutDouble (groupChars front ++ ':' :: ':' :: groupChars back)
          = some (groupChars front, groupChars back) := by
        rw [cutDouble_groupChars]
        simp [cutDouble]
      exact ofChars?_double address cut front back length whole (by omega)
        (groups?_groupChars false front) (groups?_groupChars true back)

theorem colon_mem_toChars (address : IPv6) : ':' ∈ address.toChars := by
  have eight : address.groups.toList.length = 8 := address.groups.length_toList
  unfold toChars
  split
  · exact List.mem_append_left _ (by decide)
  · simp only
    split
    · match address.groups.toList, eight with
      | group :: next :: rest, _ =>
        rw [groupChars_cons_cons]
        exact List.mem_append_right _ List.mem_cons_self
    · exact List.mem_append_right _ List.mem_cons_self

theorem mem_of_cutDouble {cs before after : List Char} (cut : cutDouble cs = some (before, after))
    {c : Char} (here : c ∈ cs) : c ∈ before ∨ c = ':' ∨ c ∈ after := by
  fun_induction cutDouble cs generalizing before with
  | case1 => cases cut
  | case2 rest =>
    cases cut
    simpa using here
  | case3 d rest _ ih =>
    obtain ⟨⟨front, back⟩, found, same⟩ := Option.map_eq_some_iff.1 cut
    cases same
    rcases List.mem_cons.1 here with rfl | later
    · exact .inl List.mem_cons_self
    · exact (ih found later).imp_left (List.mem_cons_of_mem _)

theorem isAddressChar_of_group? {digits : List Char} {group : UInt16}
    (read : group? digits = some group) {c : Char} (here : c ∈ digits) : isAddressChar c = true := by
  unfold group? at read
  split at read
  · obtain ⟨n, value, -⟩ := Option.map_eq_some_iff.1 read
    simp [isAddressChar, Numeral.isDigitOf_of_value? value c here]
  · cases read

theorem isAddressChar_of_groupList? {dotted : Bool} {pieces : List (List Char)} {groups : List UInt16}
    (read : groupList? dotted pieces = some groups) {piece : List Char} (member : piece ∈ pieces)
    {c : Char} (here : c ∈ piece) : isAddressChar c = true := by
  fun_induction groupList? dotted pieces generalizing groups with
  | case1 => cases member
  | case2 last group found =>
    rw [List.mem_singleton] at member
    subst member
    exact isAddressChar_of_group? found here
  | case3 last address found =>
    rw [List.mem_singleton] at member
    subst member
    exact IPv4.isAddressChar_of_ofChars? found here
  | case4 | case5 => cases read
  | case6 digits rest _ group others othersRead found ih =>
    rcases List.mem_cons.1 member with rfl | later
    · exact isAddressChar_of_group? found here
    · exact ih othersRead later
  | case7 => cases read

theorem isAddressChar_of_groups? {dotted : Bool} {cs : List Char} {groups : List UInt16}
    (read : groups? dotted cs = some groups) {c : Char} (here : c ∈ cs) : isAddressChar c = true := by
  unfold groups? at read
  split at read
  · next empty =>
    subst empty
    cases here
  · rcases Text.mem_piecesOf_of_mem (· == ':') here with colon | ⟨piece, member, inside⟩
    · simp_all [isAddressChar]
    · exact isAddressChar_of_groupList? read member inside

theorem isAddressChar_of_ofChars? {cs : List Char} {address : IPv6}
    (read : ofChars? cs = some address) {c : Char} (here : c ∈ cs) : isAddressChar c = true := by
  unfold ofChars? at read
  split at read
  · obtain ⟨groups, groupsRead, -⟩ := Option.bind_eq_some_iff.1 read
    exact isAddressChar_of_groups? groupsRead here
  · next before after cut =>
    split at read
    · next front back first last =>
      rcases mem_of_cutDouble cut here with front | colon | back
      · exact isAddressChar_of_groups? first front
      · subst colon
        decide
      · exact isAddressChar_of_groups? last back
    · cases read

/-- Without a colon there are too few groups. -/
theorem ofChars?_of_clean {cs : List Char} (colons : ∀ c ∈ cs, (c == ':') = false)
    (dots : ∀ c ∈ cs, (c == '.') = false) : ofChars? cs = none := by
  have noDouble : cutDouble cs = none := by
    have cut := cutDouble_append colons []
    rwa [List.append_nil] at cut
  unfold ofChars?
  rw [noDouble, Option.bind_eq_none_iff]
  intro groups read
  unfold groups? at read
  split at read
  · cases read
    rfl
  · rw [Text.piecesOf_of_clean colons] at read
    simp only [groupList?] at read
    split at read
    · cases read
      rfl
    · next address _ found =>
      rw [IPv4.ofChars?_of_clean dots] at found
      cases found
    · cases read

end IPv6

namespace Address

/-- An address is read back from its text, as one of its own family. -/
theorem ofFamily?_toText (address : Address) :
    ofFamily? address.family address.toText = some address := by
  cases address with
  | v4 address => simp [ofFamily?, family, toText, IPv4.ofChars?_toChars]
  | v6 address => simp [ofFamily?, family, toText, IPv6.ofChars?_toChars]

theorem readServer_toText {family : Family} {text : String} {address : Address}
    (read : readServer family text = .ok address) : readServer family address.toText = .ok address := by
  unfold readServer at read ⊢
  split at read
  · next parsed =>
    cases read
    have own := ofFamily?_toText address
    rw [family_of_ofFamily? parsed] at own
    rw [own]
  · cases read

theorem parse?_toText (address : Address) : parse? address.toText = some address := by
  cases address with
  | v4 address =>
    have own : ofFamily? .v4 (v4 address).toText = some (v4 address) := ofFamily?_toText (.v4 address)
    rw [parse?, own]
  | v6 address =>
    have own : ofFamily? .v6 (v6 address).toText = some (v6 address) := ofFamily?_toText (.v6 address)
    have other : ofFamily? .v4 (v6 address).toText = none := by
      rw [ofFamily?, Option.map_eq_none_iff, Option.eq_none_iff_forall_ne_some]
      intro found read
      rw [toText, String.toList_ofList] at read
      rcases IPv4.mem_of_ofChars? read (IPv6.colon_mem_toChars address) with digit | dot
      · exact absurd digit (by decide)
      · exact absurd dot (by decide)
    rw [parse?, other]
    exact own

theorem isAddressChar_of_ofFamily? {family : Family} {text : String} {address : Address}
    (read : ofFamily? family text = some address) {c : Char} (here : c ∈ text.toList) :
    isAddressChar c = true := by
  cases family with
  | v4 =>
    obtain ⟨inner, found, -⟩ := Option.map_eq_some_iff.1 read
    exact IPv4.isAddressChar_of_ofChars? found here
  | v6 =>
    obtain ⟨inner, found, -⟩ := Option.map_eq_some_iff.1 read
    exact IPv6.isAddressChar_of_ofChars? found here

theorem isAddressChar_of_mem_toText {address : Address} {c : Char} (here : c ∈ address.toText.toList) :
    isAddressChar c = true := isAddressChar_of_ofFamily? (ofFamily?_toText address) here

theorem ofFamily?_eq_none {family : Family} {text : String} {c : Char} (here : c ∈ text.toList)
    (other : isAddressChar c = false) : ofFamily? family text = none := by
  rw [Option.eq_none_iff_forall_ne_some]
  intro address read
  rw [isAddressChar_of_ofFamily? read here] at other
  cases other

/-- A written number is no address: it has neither dots nor colons. -/
theorem ofFamily?_of_readSigned (family : Family) {text : String} {n : Int}
    (read : Numeral.readSigned (.fixed 10) text = some n) : ofFamily? family text = none := by
  have clean : ∀ separator, separator = '.' ∨ separator = ':' →
      ∀ c ∈ text.toList, (c == separator) = false := by
    intro separator either c here
    rw [beq_eq_false_iff_ne]
    rintro rfl
    have stands := Numeral.mem_of_readSigned read here
    rcases either with rfl | rfl <;> exact absurd stands (by decide)
  have dots := clean '.' (.inl rfl)
  cases family with
  | v4 => exact Option.map_eq_none_iff.2 (IPv4.ofChars?_of_clean dots)
  | v6 => exact Option.map_eq_none_iff.2 (IPv6.ofChars?_of_clean (clean ':' (.inr rfl)) dots)

theorem toText_ne_nil (address : Address) : address.toText.toList ≠ [] := by
  intro empty
  have read := ofFamily?_toText address
  have nothing : ∀ family, ofFamily? family (String.ofList []) = .none := by
    intro family
    cases family <;> decide
  have empty : address.toText = String.ofList [] := by
    rw [← String.toList_inj, empty, String.toList_ofList]
  rw [empty, nothing] at read
  cases read

end Address

end NetProfile
