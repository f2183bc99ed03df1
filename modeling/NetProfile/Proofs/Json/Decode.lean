import NetProfile.Proofs.Dict
import NetProfile.Proofs.Json.Reordered
import NetProfile.Proofs.Reading
import NetProfile.Value.Json

/-!
Readers that invert writers. A reader of trees has to give back what was written whatever the order
of the members is, so it is asked to do so for every tree that differs in that order only.
-/

namespace NetProfile

namespace Reading

variable {α β : Type}

/-- What is read from parts in another order is the same in another order. -/
theorem mapM_eq_some_of_perm {read : α → Option β} {parts others : List α} {results : List β}
    (all : parts.mapM read = some results) (moved : parts.Perm others) :
    ∃ moreResults, others.mapM read = some moreResults ∧ results.Perm moreResults := by
  obtain ⟨found, each, back⟩ := List.perm_comp_forall₂ moved.symm (mapM_eq_some_iff.1 all)
  exact ⟨found, mapM_eq_some_iff.2 each, back.symm⟩

end Reading

namespace Json

variable {α : Type} {read : Json → Option α} {write : α → Json}

/-- The reader gives back what the writer wrote, however members are ordered. -/
def Inverts (read : Json → Option α) (write : α → Json) : Prop :=
  ∀ value json, (write value).Reordered json → read json = some value

theorem Inverts.of_isLeaf (leaf : ∀ value, (write value).isLeaf = true)
    (back : ∀ value, read (write value) = some value) : Inverts read write := by
  intro value json reordered
  rw [reordered.eq_of_isLeaf (leaf value), back]

theorem inverts_text : Inverts text? .text := .of_isLeaf (fun _ => rfl) fun _ => rfl

theorem inverts_bool : Inverts bool? .bool := .of_isLeaf (fun _ => rfl) fun _ => rfl

theorem natural?_ofNatural {n limit : Nat} (fits : n ≤ limit) : natural? limit (ofNatural n) = some n := by
  have inside : (0 : Int) ≤ n ∧ (n : Int) ≤ limit := by omega
  simp only [natural?, ofNatural, if_pos inside, Int.toNat_natCast]

theorem integer?_int {n low high : Int} (above : low ≤ n) (below : n ≤ high) :
    integer? low high (.int n) = some n := by
  rw [integer?, if_pos ⟨above, below⟩]

theorem inverts_u8 : Inverts u8? fun n : UInt8 => .ofNatural n.toNat := by
  refine .of_isLeaf (fun _ => rfl) fun n => ?_
  have fits : n.toNat ≤ 255 := Nat.le_of_lt_succ n.toNat_lt
  rw [u8?, natural?_ofNatural fits, Option.map_some, UInt8.ofNat_toNat]

theorem inverts_u32 : Inverts u32? fun n : UInt32 => .ofNatural n.toNat := by
  refine .of_isLeaf (fun _ => rfl) fun n => ?_
  have fits : n.toNat ≤ 4294967295 := Nat.le_of_lt_succ n.toNat_lt
  rw [u32?, natural?_ofNatural fits, Option.map_some, UInt32.ofNat_toNat]

theorem inverts_i32 : Inverts i32? fun n : Int32 => .int n.toInt := by
  refine .of_isLeaf (fun _ => rfl) fun n => ?_
  have above : -2147483648 ≤ n.toInt := n.le_toInt
  have below : n.toInt ≤ 2147483647 := Int.le_of_lt_add_one n.toInt_lt
  rw [i32?, integer?_int above below, Option.map_some, Int32.ofInt_toInt]

theorem inverts_i64 : Inverts i64? fun n : Int64 => .int n.toInt := by
  refine .of_isLeaf (fun _ => rfl) fun n => ?_
  have above : -9223372036854775808 ≤ n.toInt := n.le_toInt
  have below : n.toInt ≤ 9223372036854775807 := Int.le_of_lt_add_one n.toInt_lt
  rw [i64?, integer?_int above below, Option.map_some, Int64.ofInt_toInt]

section

variable {height : Nat}

@[simp]
theorem plain_u8 (n : UInt8) : (ofNatural n.toNat).Plain height := by
  have small := n.toNat_lt
  exact .int height (by omega)

@[simp]
theorem plain_u32 (n : UInt32) : (ofNatural n.toNat).Plain height := by
  have small := n.toNat_lt
  exact .int height (by omega)

@[simp]
theorem plain_i32 (n : Int32) : (int n.toInt).Plain height := by
  have above : -2147483648 ≤ n.toInt := n.le_toInt
  have below := n.toInt_lt
  exact .int height (by omega)

@[simp]
theorem plain_i64 (n : Int64) : (int n.toInt).Plain height := by
  have above : -9223372036854775808 ≤ n.toInt := n.le_toInt
  have below := n.toInt_lt
  exact .int height (by omega)

theorem plain_ofNullable (plain : ∀ value, (write value).Plain height) (value : Option α) :
    (ofNullable write value).Plain height := by
  cases value with
  | none => exact plain_null
  | some value => exact plain value

theorem plain_map (plain : ∀ value, (write value).Plain height) (values : List α) :
    (array (values.map write)).Plain (height + 1) := by
  refine .array fun item here => ?_
  obtain ⟨value, -, rfl⟩ := List.mem_map.1 here
  exact plain value

theorem plain_ofDict (plain : ∀ value, (write value).Plain height) (dict : Dict α) :
    (ofDict write dict).Plain (height + 1) := by
  refine .object fun member here => ?_
  obtain ⟨entry, -, rfl⟩ := List.mem_map.1 here
  exact plain entry.2

@[simp]
theorem plain_ofAlternative {tagName contentName tag : String} {content : Json} :
    (ofAlternative tagName contentName tag content).Plain (height + 1) ↔ content.Plain height := by
  simp [ofAlternative]

end

theorem Inverts.mapM (inverts : Inverts read write) {values : List α} {others : List Json}
    (each : List.Forall₂ Reordered (values.map write) others) : others.mapM read = some values := by
  rw [Reading.mapM_eq_some_iff]
  rw [List.forall₂_map_left_iff] at each
  exact (each.imp fun value json reordered => inverts value json reordered).flip

theorem Inverts.list (inverts : Inverts read write) :
    Inverts (list? read) fun values => .array (values.map write) := by
  intro values json reordered
  obtain ⟨others, rfl, each⟩ := reordered.of_array
  exact inverts.mapM each

theorem Inverts.dict (inverts : Inverts read write) : Inverts (dict? read) (ofDict write) := by
  intro dict json reordered
  obtain ⟨changed, others, rfl, each, moved⟩ := reordered.of_object
  have inOrder : changed.mapM (fun member => (read member.2).map fun value => (member.1, value))
      = some dict.entries := by
    rw [Reading.mapM_eq_some_iff]
    rw [MembersReordered, List.forall₂_map_left_iff] at each
    refine (each.imp fun entry member related => ?_).flip
    have back := inverts entry.2 member.2 related.2
    show (read member.2).map (fun value => (member.1, value)) = some entry
    rw [back, Option.map_some, ← related.1]
  obtain ⟨entries, all, shuffled⟩ := Reading.mapM_eq_some_of_perm inOrder moved
  rw [dict?, all, Option.map_some, Dict.ofList_of_perm shuffled]

theorem Inverts.nullable (inverts : Inverts read write) (notNull : ∀ value, write value ≠ .null) :
    Inverts (nullable? read) (ofNullable write) := by
  intro value json reordered
  cases value with
  | none =>
    rw [reordered.eq_of_isLeaf rfl]
    rfl
  | some value =>
    have other : json ≠ .null := reordered.ne_null (notNull value)
    have back := inverts value json reordered
    unfold nullable?
    split
    · exact absurd rfl other
    · rw [back, Option.map_some]

theorem named_reordered (name : String) {members changed others : List (String × Json)}
    (each : MembersReordered members changed) (moved : changed.Perm others) :
    ∃ values, List.Forall₂ Reordered (named name members) values ∧ values.Perm (named name others) := by
  refine ⟨named name changed, ?_, moved.filterMap _⟩
  refine List.rel_filterMap ?_ each
  rintro ⟨own, value⟩ ⟨other, json⟩ ⟨rfl, reordered⟩
  by_cases same : own = name
  · simp only [same, if_true]
    exact .some reordered
  · simp only [same, if_false]
    exact .none

theorem member?_reordered (name : String) {members changed others : List (String × Json)}
    (each : MembersReordered members changed) (moved : changed.Perm others) :
    Option.Rel (Option.Rel Reordered) (member? name members) (member? name others) := by
  obtain ⟨values, related, shuffled⟩ := named_reordered name each moved
  unfold member?
  generalize named name members = before at related
  generalize named name others = after at shuffled
  cases related with
  | nil =>
    rw [List.nil_perm.1 shuffled]
    exact .some .none
  | cons first later =>
    cases later with
    | nil =>
      rw [← List.singleton_perm.1 shuffled]
      exact .some (.some first)
    | cons second later =>
      have long := shuffled.length_eq
      match after, long with
      | _ :: _ :: _, _ => exact .none

theorem named_cons (name : String) (member : String × Json) (members : List (String × Json)) :
    named name (member :: members) =
      if member.1 = name then member.2 :: named name members else named name members := by
  obtain ⟨other, value⟩ := member
  by_cases same : other = name <;> simp [named, same]

theorem named_eq_nil {name : String} {members : List (String × Json)} (absent : name ∉ members.map (·.1)) :
    named name members = [] := by
  refine List.filterMap_eq_nil_iff.2 fun member here => ?_
  have other : member.1 ≠ name := fun same => absent (same ▸ List.mem_map_of_mem here)
  exact if_neg other

theorem member?_of_mem {name : String} {value : Json} {members : List (String × Json)}
    (distinct : (members.map (·.1)).Nodup) (here : (name, value) ∈ members) :
    member? name members = some (some value) := by
  have single : named name members = [value] := by
    induction members with
    | nil => cases here
    | cons member members ih =>
      rw [List.map_cons, List.nodup_cons] at distinct
      rcases List.mem_cons.1 here with rfl | later
      · have nothing : named name members = [] := named_eq_nil distinct.1
        rw [named_cons, if_pos rfl, nothing]
      · have other : member.1 ≠ name := fun same => distinct.1 (same ▸ List.mem_map_of_mem later)
        rw [named_cons, if_neg other, ih distinct.2 later]
  rw [member?, single]

theorem named_of_member? {name : String} {value : Json} {members : List (String × Json)}
    (found : member? name members = some (some value)) : named name members = [value] := by
  unfold member? at found
  split at found
  · cases found
  · next shape =>
    cases found
    exact shape
  · cases found

theorem mem_of_member? {name : String} {value : Json} {members : List (String × Json)}
    (found : member? name members = some (some value)) : (name, value) ∈ members := by
  have single : value ∈ named name members := by
    rw [named_of_member? found]
    exact List.mem_singleton_self value
  obtain ⟨⟨other, held⟩, here, kept⟩ := List.mem_filterMap.1 single
  simp only [Option.ite_none_right_eq_some, Option.some.injEq] at kept
  obtain ⟨rfl, rfl⟩ := kept
  exact here

theorem mapM_member? {fields others : List (String × Json)}
    (found : ∀ field ∈ fields, ∃ held, member? field.1 others = some (some held) ∧ field.2.Reordered held) :
    ∃ values, (fields.map (·.1)).mapM (member? · others) = some (values.map some) ∧
      List.Forall₂ Reordered (fields.map (·.2)) values := by
  induction fields with
  | nil => exact ⟨[], rfl, .nil⟩
  | cons field fields ih =>
    obtain ⟨held, isHeld, related⟩ := found field List.mem_cons_self
    obtain ⟨values, all, each⟩ := ih fun other here => found other (List.mem_cons_of_mem _ here)
    refine ⟨held :: values, ?_, .cons related each⟩
    rw [List.map_cons, List.mapM_cons, isHeld, all]
    rfl

theorem record?_of_object {fields : List (String × Json)} (distinct : (fields.map (·.1)).Nodup) {json : Json}
    (reordered : (object fields).Reordered json) :
    ∃ values, json.record? (fields.map (·.1)) = some (values.map some) ∧
      List.Forall₂ Reordered (fields.map (·.2)) values := by
  obtain ⟨changed, others, rfl, each, moved⟩ := reordered.of_object
  refine mapM_member? fun field here => ?_
  have kept := member?_reordered field.1 each moved
  rw [member?_of_mem distinct here] at kept
  generalize member? field.1 others = found at kept
  cases kept with
  | some kept =>
    cases kept with
    | some related => exact ⟨_, rfl, related⟩

theorem caseTag?_text {tag : String} {tags : List String} (known : tag ∈ tags) (late : Bool) :
    (text tag).caseTag? tags late = some tag := by
  simp [caseTag?, caseName?, known]

/-- The tag and the content of an alternative. Only whether the content is read late depends on the
order of the two. -/
theorem tagged?_of_object {tagName contentName tag : String} {tags : List String} {members : List (String × Json)}
    {content : Option Json} (isTag : member? tagName members = some (some (.text tag)))
    (isContent : member? contentName members = some content) (known : tag ∈ tags) {height : Nat}
    (plain : (object members).Plain height) {json : Json} (reordered : (object members).Reordered json) (late : Bool) :
    ∃ held readLate, Option.Rel Reordered content held ∧
      json.tagged? tagName contentName tags late = some ⟨tag, held, readLate⟩ := by
  obtain ⟨changed, others, rfl, each, moved⟩ := reordered.of_object
  have tagKept := member?_reordered tagName each moved
  have contentKept := member?_reordered contentName each moved
  rw [isTag] at tagKept
  rw [isContent] at contentKept
  generalize foundTag : member? tagName others = label at tagKept
  generalize foundContent : member? contentName others = held at contentKept
  cases contentKept with
  | @some _ held related =>
    have readable : (held.getD .null).isReadable = true := by
      cases held with
      | none => rfl
      | some content =>
        have all := membersReadable_iff.1 (plain.reordered reordered).isReadable
        exact all _ (mem_of_member? foundContent)
    cases tagKept with
    | some tagKept =>
      cases tagKept with
      | some sameTag =>
        obtain rfl := sameTag.eq_of_isLeaf rfl
        simp only [tagged?, foundTag, foundContent, caseTag?_text known, readable, if_true]
        cases contentFirst tagName contentName others with
        | true => exact ⟨held, true, related, rfl⟩
        | false => exact ⟨held, late, related, rfl⟩

theorem tagged?_of_alternative {tagName contentName tag : String} {content json : Json}
    (reordered : (ofAlternative tagName contentName tag content).Reordered json) {height : Nat}
    (plain : (ofAlternative tagName contentName tag content).Plain height) (different : tagName ≠ contentName)
    {tags : List String} (known : tag ∈ tags) (late : Bool) :
    ∃ held readLate, content.Reordered held ∧
      json.tagged? tagName contentName tags late = some ⟨tag, some held, readLate⟩ := by
  have distinct : ([(tagName, Json.text tag), (contentName, content)].map (·.1)).Nodup := by simp [different]
  have isTag := member?_of_mem distinct List.mem_cons_self
  have isContent := member?_of_mem distinct (List.mem_cons_of_mem _ List.mem_cons_self)
  obtain ⟨held, readLate, related, read⟩ := tagged?_of_object isTag isContent known plain reordered late
  cases related with
  | some related => exact ⟨_, readLate, related, read⟩

end Json

end NetProfile
