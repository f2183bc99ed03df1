import NetProfile.Proofs.Record.Qdisc

/-!
The grammar of queueing disciplines. Clauses stand before the kind, in any order: one for the parent
and at most one for the handle, each handle the word `root` or two halves of plain digits. Something
more is read. A half may have a plus sign in front, and the handle may be given again as long as all
handles before it are zero, since zero is also what stands for no handle at all.
-/

namespace NetProfile

namespace Handle

def IsHalf (text : String) (n : Nat) : Prop :=
  Numeral.value? 16 text.toList = some n ∧ n ≤ 0xffff

def IsSignedHalf (text : String) (n : Nat) : Prop :=
  IsHalf text n ∨ ∃ digits, text = "+" ++ digits ∧ IsHalf digits n

inductive Spells (half : String → Nat → Prop) : String → UInt32 → Prop
  | root : Spells half "root" root
  | major {major : String} {high : Nat} (first : half major high) :
      Spells half (major ++ ":") (UInt32.ofNat (high * 65536))
  | both {major minor : String} {high low : Nat} (first : half major high) (second : half minor low) :
      Spells half (major ++ ":" ++ minor) (UInt32.ofNat (high * 65536 + low))

theorem half?_eq_some_iff {text : String} {n : Nat} : half? text.toList = some n ↔ IsSignedHalf text n := by
  have bounded : half? text.toList = some n ↔ Numeral.unsigned? 16 text.toList = some n ∧ n ≤ 0xffff := by
    unfold half?
    cases Numeral.unsigned? 16 text.toList with
    | none => simp
    | some m =>
      simp only [Option.some.injEq]
      split <;> constructor <;> simp <;> omega
  rw [bounded]
  constructor
  · rintro ⟨read, small⟩
    unfold Numeral.unsigned? at read
    split at read
    · next digits shape =>
      right
      refine ⟨String.ofList digits, ?_, ?_, small⟩
      · rw [← String.toList_inj, String.toList_append, String.toList_ofList, shape]
        simp
      · rwa [String.toList_ofList]
    · exact .inl ⟨read, small⟩
  · rintro (half | ⟨digits, rfl, value, small⟩)
    · refine ⟨?_, half.2⟩
      unfold Numeral.unsigned?
      split
      · next digits shape =>
        have sign := Numeral.isDigitOf_of_value? half.1 '+' (shape ▸ List.mem_cons_self)
        exact absurd sign (by decide)
      · exact half.1
    · exact ⟨by rwa [String.toList_append], small⟩

theorem ne_empty_of_half? {text : String} {n : Nat} (read : half? text.toList = some n) : text ≠ "" := by
  rintro rfl
  cases read

theorem parse?_eq_some_iff {text : String} {handle : UInt32} :
    parse? text = some handle ↔ Spells IsSignedHalf text handle := by
  constructor
  · intro read
    unfold parse? at read
    split at read
    · next atRoot =>
      cases read
      exact atRoot ▸ .root
    · split at read
      · cases read
      · next major minor cut =>
        obtain ⟨glued, -⟩ := Text.cutOnce_eq_some_iff.1 cut
        have whole : text = major ++ ":" ++ minor := by
          rw [← String.toList_inj, glued]
          simp
        split at read
        · next high low first second =>
          cases read
          rw [half?_eq_some_iff] at first
          split at second
          · next noMinor =>
            cases second
            rw [whole, noMinor, String.append_empty, Nat.add_zero]
            exact .major first
          · exact whole ▸ .both first (half?_eq_some_iff.1 second)
        · cases read
  · intro spelled
    cases spelled with
    | root => exact if_pos rfl
    | @major major high first =>
      have read := @parse?_halves major "" high 0 (half?_eq_some_iff.2 first) rfl
      rwa [String.append_empty, Nat.add_zero] at read
    | both first second =>
      have written := half?_eq_some_iff.2 second
      exact parse?_halves (half?_eq_some_iff.2 first) ((if_neg (ne_empty_of_half? written)).trans written)

theorem parse_eq_ok_iff {text : String} {handle : UInt32} :
    parse text = .ok handle ↔ Spells IsSignedHalf text handle := by
  rw [← parse?_eq_some_iff, parse]
  cases parse? text <;> simp

namespace Spells

variable {half : String → Nat → Prop} {token : String} {handle : UInt32}

theorem signed (plain : Spells IsHalf token handle) : Spells IsSignedHalf token handle := by
  cases plain with
  | root => exact .root
  | major first => exact .major (.inl first)
  | both first second => exact .both (.inl first) (.inl second)

theorem plain (spelled : Spells IsSignedHalf token handle) (unsigned : '+' ∉ token.toList) :
    Spells IsHalf token handle := by
  have plainHalf : ∀ {text n}, '+' ∉ text.toList → IsSignedHalf text n → IsHalf text n := by
    rintro text n absent (half | ⟨digits, rfl, -⟩)
    · exact half
    · simp at absent
  cases spelled with
  | root => exact .root
  | major first =>
    simp only [String.toList_append, List.mem_append, not_or] at unsigned
    exact .major (plainHalf unsigned.1 first)
  | both first second =>
    simp only [String.toList_append, List.mem_append, not_or] at unsigned
    exact .both (plainHalf unsigned.1.1 first) (plainHalf unsigned.2 second)

theorem unsigned (plain : Spells IsHalf token handle) : '+' ∉ token.toList := by
  have digits : ∀ {text n}, IsHalf text n → '+' ∉ text.toList := fun half sign =>
    absurd (Numeral.isDigitOf_of_value? half.1 '+' sign) (by decide)
  cases plain with
  | root => decide
  | major first => simpa using digits first
  | both first second => simpa using ⟨digits first, digits second⟩

/-- No handle is written like the word that announces one. -/
theorem ne_handle (spelled : Spells half token handle) : token ≠ "handle" := by
  cases spelled with
  | root => decide
  | major | both =>
    intro same
    have colon : ':' ∈ ("handle" : String).toList := by
      rw [← same]
      simp
    exact absurd colon (by decide)

end Spells

end Handle

namespace Qdisc

inductive Clause where
  | parent (handle : UInt32)
  | handle (handle : UInt32)

def Clause.parent? : Clause → Option UInt32
  | .parent given => some given
  | .handle _ => none

def Clause.handle? : Clause → Option UInt32
  | .parent _ => none
  | .handle given => some given

def parents (clauses : List Clause) : List UInt32 := clauses.filterMap Clause.parent?

def handles (clauses : List Clause) : List UInt32 := clauses.filterMap Clause.handle?

section

variable (given : UInt32) (clauses : List Clause)

@[simp]
theorem parents_parent : parents (.parent given :: clauses) = given :: parents clauses := rfl

@[simp]
theorem parents_handle : parents (.handle given :: clauses) = parents clauses := rfl

@[simp]
theorem handles_parent : handles (.parent given :: clauses) = handles clauses := rfl

@[simp]
theorem handles_handle : handles (.handle given :: clauses) = given :: handles clauses := rfl

end

inductive SpellPlace (half : String → Nat → Prop) : List String → List Clause → Prop
  | nil : SpellPlace half [] []
  | root {words : List String} {clauses : List Clause} (rest : SpellPlace half words clauses) :
      SpellPlace half ("root" :: words) (.parent Handle.root :: clauses)
  | parent {token : String} {handle : UInt32} {words : List String} {clauses : List Clause}
      (spelled : Handle.Spells half token handle) (rest : SpellPlace half words clauses) :
      SpellPlace half ("parent" :: token :: words) (.parent handle :: clauses)
  | handle {token : String} {handle : UInt32} {words : List String} {clauses : List Clause}
      (spelled : Handle.Spells half token handle) (rest : SpellPlace half words clauses) :
      SpellPlace half ("handle" :: token :: words) (.handle handle :: clauses)

inductive Spells (half : String → Nat → Prop) (clauses : List Clause) (kind : String) : List String → Prop
  | line {place : List String} (spelled : SpellPlace half place clauses) (free : kind ∉ placeWords) :
      Spells half clauses kind (place ++ [kind])

/-- The discipline has what the clauses give: their only parent, and their last handle or zero. -/
structure Makes (clauses : List Clause) (qdisc : Qdisc) : Prop where
  parent : parents clauses = [qdisc.parent]
  handle : qdisc.handle = (handles clauses).getLast?.getD 0

def Documented (words : List String) (qdisc : Qdisc) : Prop :=
  ∃ clauses, Spells Handle.IsHalf clauses qdisc.kind words ∧ Makes clauses qdisc ∧
    (handles clauses).length ≤ 1

def Taken (words : List String) (qdisc : Qdisc) : Prop :=
  ∃ clauses, Spells Handle.IsSignedHalf clauses qdisc.kind words ∧ Makes clauses qdisc ∧
    ∀ earlier ∈ (handles clauses).dropLast, earlier = 0

namespace SpellPlace

variable {half : String → Nat → Prop} {words : List String} {clauses : List Clause}

theorem signed (plain : SpellPlace Handle.IsHalf words clauses) :
    SpellPlace Handle.IsSignedHalf words clauses := by
  induction plain with
  | nil => exact .nil
  | root rest ih => exact .root ih
  | parent spelled rest ih => exact .parent spelled.signed ih
  | handle spelled rest ih => exact .handle spelled.signed ih

theorem plain (spelled : SpellPlace Handle.IsSignedHalf words clauses)
    (unsigned : ∀ word ∈ words, '+' ∉ word.toList) : SpellPlace Handle.IsHalf words clauses := by
  induction spelled with
  | nil => exact .nil
  | root rest ih => exact .root (ih (List.forall_mem_cons.1 unsigned).2)
  | parent spelled rest ih =>
    obtain ⟨-, token, later⟩ := (List.forall_mem_cons.1 unsigned).imp_right List.forall_mem_cons.1
    exact .parent (spelled.plain token) (ih later)
  | handle spelled rest ih =>
    obtain ⟨-, token, later⟩ := (List.forall_mem_cons.1 unsigned).imp_right List.forall_mem_cons.1
    exact .handle (spelled.plain token) (ih later)

theorem unsigned (plain : SpellPlace Handle.IsHalf words clauses) : ∀ word ∈ words, '+' ∉ word.toList := by
  induction plain with
  | nil => simp
  | root rest ih => exact List.forall_mem_cons.2 ⟨by decide, ih⟩
  | parent spelled rest ih | handle spelled rest ih =>
    exact List.forall_mem_cons.2 ⟨by decide, List.forall_mem_cons.2 ⟨spelled.unsigned, ih⟩⟩

theorem count_handle (spelled : SpellPlace half words clauses) :
    words.count "handle" = (handles clauses).length := by
  induction spelled with
  | nil => rfl
  | root rest ih => simpa using ih
  | parent spelled rest ih => simpa [spelled.ne_handle] using ih
  | handle spelled rest ih => simpa [spelled.ne_handle] using ih

end SpellPlace

/-- Clauses for which a draft has room, one after the other. A handle of zero leaves room for
another. -/
inductive Draft.Takes : Draft → List Clause → Draft → Prop
  | nil (draft : Draft) : Takes draft [] draft
  | parent {draft last : Draft} {handle : UInt32} {clauses : List Clause} (free : draft.parent = none)
      (rest : Takes { draft with parent := some handle } clauses last) :
      Takes draft (.parent handle :: clauses) last
  | handle {draft last : Draft} {handle : UInt32} {clauses : List Clause}
      (free : draft.handle = Handle.unset) (rest : Takes { draft with handle } clauses last) :
      Takes draft (.handle handle :: clauses) last

theorem readPlace_eq_ok_iff {draft last : Draft} {words left : List String} :
    readPlace draft words = .ok (last, left) ↔ ∃ place clauses, words = place ++ left ∧
      SpellPlace Handle.IsSignedHalf place clauses ∧ draft.Takes clauses last ∧
        ∀ word, left.head? = some word → word ∉ placeWords := by
  constructor
  · intro read
    have free := (left_of_readPlace read).2
    fun_induction readPlace draft words with
    | case1 | case3 | case4 | case6 | case7 | case8 | case10 => cases read
    | case2 draft rest room ih =>
      obtain ⟨place, clauses, rfl, spelled, takes, -⟩ := ih read
      exact ⟨_, _, rfl, .root spelled, .parent (by simpa using room) takes, free⟩
    | case5 draft room value rest parent given ih =>
      obtain ⟨place, clauses, rfl, spelled, takes, -⟩ := ih read
      exact ⟨_, _, rfl, .parent (Handle.parse_eq_ok_iff.1 given) spelled, .parent (by simpa using room) takes, free⟩
    | case9 draft room value rest handle given ih =>
      obtain ⟨place, clauses, rfl, spelled, takes, -⟩ := ih read
      exact ⟨_, _, rfl, .handle (Handle.parse_eq_ok_iff.1 given) spelled, .handle (by simpa using room) takes, free⟩
    | case11 draft words noRoot noParent noHandle =>
      cases read
      exact ⟨[], [], rfl, .nil, .nil _, free⟩
  · rintro ⟨place, clauses, rfl, spelled, takes, free⟩
    induction spelled generalizing draft with
    | nil =>
      cases takes
      exact readPlace_of_free free _
    | root rest ih =>
      cases takes with
      | parent room takes => simp [readPlace, room, ih takes]
    | parent spelled rest ih =>
      cases takes with
      | parent room takes => simp [readPlace, room, Handle.parse_eq_ok_iff.2 spelled, ih takes]
    | handle spelled rest ih =>
      cases takes with
      | handle room takes => simp [readPlace, room, Handle.parse_eq_ok_iff.2 spelled, ih takes]

namespace Draft

variable {draft last : Draft} {given : UInt32} {clauses : List Clause}

theorem takes_parent : draft.Takes (.parent given :: clauses) last ↔
    draft.parent = none ∧ { draft with parent := some given }.Takes clauses last := by
  constructor
  · intro takes
    cases takes with
    | parent free rest => exact ⟨free, rest⟩
  · rintro ⟨free, rest⟩
    exact .parent free rest

theorem takes_handle : draft.Takes (.handle given :: clauses) last ↔
    draft.handle = 0 ∧ { draft with handle := given }.Takes clauses last := by
  constructor
  · intro takes
    cases takes with
    | handle free rest => exact ⟨free, rest⟩
  · rintro ⟨free, rest⟩
    exact .handle free rest

/-- Clauses are taken if they give no second parent and if all handles but the last are zero. -/
theorem takes_iff : draft.Takes clauses last ↔
    draft.parent.toList ++ parents clauses = last.parent.toList ∧
      last.handle = (handles clauses).getLast?.getD draft.handle ∧
      ∀ earlier ∈ (draft.handle :: handles clauses).dropLast, earlier = 0 := by
  induction clauses generalizing draft with
  | nil =>
    constructor
    · intro takes
      cases takes
      simp [parents, handles]
    · rintro ⟨parent, handle, -⟩
      have sameParent : draft.parent = last.parent := by simpa [parents] using congrArg List.head? parent
      have sameHandle : draft.handle = last.handle := handle.symm
      obtain rfl : draft = last := by
        cases draft
        cases last
        rw [Draft.mk.injEq]
        exact ⟨sameParent, sameHandle⟩
      exact .nil draft
  | cons clause clauses ih =>
    cases clause with
    | parent given =>
      rw [takes_parent, ih]
      cases draft.parent with
      | none => simp
      | some first => cases last.parent <;> simp
    | handle given =>
      rw [takes_handle, ih]
      simp only [parents_handle, handles_handle, List.getLast?_cons, Option.getD_some,
        List.dropLast_cons_cons, List.forall_mem_cons]
      tauto

end Draft

theorem parse_eq_ok_iff {text : String} {qdisc : Qdisc} :
    parse text = .ok qdisc ↔ ∃ draft, readPlace {} (Text.tokens text) = .ok (draft, [qdisc.kind]) ∧
      draft.parent = some qdisc.parent ∧ draft.handle = qdisc.handle := by
  unfold parse
  constructor
  · intro read
    obtain ⟨⟨draft, rest⟩, place, read⟩ := Reading.bind_eq_ok read
    simp only at read
    split at read
    · cases read
    · next parent given =>
      split at read
      · cases read
      · next kind =>
        cases read
        exact ⟨draft, place, given, rfl⟩
      · cases read
  · rintro ⟨draft, place, parent, handle⟩
    rw [place]
    simp only [bind, Except.bind, parent, handle]

theorem parse_eq_ok_iff_taken {text : String} {qdisc : Qdisc} :
    parse text = .ok qdisc ↔ Taken (Text.tokens text) qdisc := by
  -- the unset handle of the first draft is zero, so it is no exception
  have zeros : ∀ given : List UInt32, (∀ earlier ∈ (Handle.unset :: given).dropLast, earlier = 0) ↔
      ∀ earlier ∈ given.dropLast, earlier = 0 := by
    intro given
    cases given with
    | nil => simp
    | cons first rest => simp [Handle.unset]
  rw [parse_eq_ok_iff]
  constructor
  · rintro ⟨draft, read, parent, handle⟩
    obtain ⟨place, clauses, whole, spelled, takes, free⟩ := readPlace_eq_ok_iff.1 read
    obtain ⟨parents, handles, earlier⟩ := Draft.takes_iff.1 takes
    rw [parent] at parents
    rw [handle] at handles
    exact ⟨clauses, whole ▸ .line spelled (free _ rfl), ⟨parents, handles⟩, (zeros _).1 earlier⟩
  · rintro ⟨clauses, words, made, earlier⟩
    generalize Text.tokens text = all at words ⊢
    cases words with
    | @line place spelled free =>
      refine ⟨⟨some qdisc.parent, qdisc.handle⟩, ?_, rfl, rfl⟩
      refine readPlace_eq_ok_iff.2 ⟨place, clauses, rfl, spelled, ?_, by simpa using free⟩
      exact Draft.takes_iff.2 ⟨made.parent, made.handle, (zeros _).2 earlier⟩

/-- The documented lines of words are those with at most one handle and without signs. -/
theorem documented_iff {words : List String} {qdisc : Qdisc} :
    Documented words qdisc ↔ Taken words qdisc ∧
      words.dropLast.count "handle" ≤ 1 ∧ ∀ word ∈ words.dropLast, '+' ∉ word.toList := by
  constructor
  · rintro ⟨clauses, line, made, once⟩
    cases line with
    | @line place spelled free =>
      have alone : (handles clauses).dropLast = [] := by
        apply List.eq_nil_of_length_eq_zero
        rw [List.length_dropLast]
        omega
      rw [List.dropLast_concat, spelled.count_handle]
      exact ⟨⟨clauses, .line spelled.signed free, made, by simp [alone]⟩, once, spelled.unsigned⟩
  · rintro ⟨⟨clauses, line, made, -⟩, once, unsigned⟩
    cases line with
    | @line place spelled free =>
      rw [List.dropLast_concat] at once unsigned
      rw [spelled.count_handle] at once
      exact ⟨clauses, .line (spelled.plain unsigned) free, made, once⟩

/-- A text is read exactly if its tokens are clauses and then a kind, where a handle may follow
handles of zero and halves may have a plus sign. So the documented grammar is what is read of the texts
with the word for a handle once at most and with no plus sign before the kind. -/
theorem parse_iff_grammar (text : String) (qdisc : Qdisc) :
    (parse text = .ok qdisc ↔ Taken (Text.tokens text) qdisc) ∧
      (Documented (Text.tokens text) qdisc ↔ parse text = .ok qdisc ∧
        (Text.tokens text).dropLast.count "handle" ≤ 1 ∧
          ∀ token ∈ (Text.tokens text).dropLast, '+' ∉ token.toList) := by
  refine ⟨parse_eq_ok_iff_taken, ?_⟩
  rw [documented_iff, parse_eq_ok_iff_taken]

/-- A second handle is read after one of zero, and so are handles with a plus sign. -/
theorem undocumented_accepted :
    let twice := "root handle 0: handle 1: sfq"
    let signed := "root handle +1: sfq"
    (parse twice = .ok ⟨"sfq", 0x10000, Handle.root⟩ ∧ ∀ qdisc, ¬Documented (Text.tokens twice) qdisc) ∧
      parse signed = .ok ⟨"sfq", 0x10000, Handle.root⟩ ∧ ∀ qdisc, ¬Documented (Text.tokens signed) qdisc := by
  intro twice signed
  refine ⟨⟨by decide +kernel, fun qdisc documented => ?_⟩, by decide +kernel, fun qdisc documented => ?_⟩
  · have once := (documented_iff.1 documented).2.1
    exact absurd once (by decide +kernel)
  · have unsigned := (documented_iff.1 documented).2.2
    exact absurd unsigned (by decide +kernel)

end Qdisc

end NetProfile
