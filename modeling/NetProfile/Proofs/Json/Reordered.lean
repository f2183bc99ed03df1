import Mathlib.Data.List.Perm.Basic
import NetProfile.Json

/-!
Trees that differ only in the order of the members of their objects, and plain trees, in which every
part can be written and read again.
-/

namespace NetProfile.Json

inductive Reordered : Json → Json → Prop
  | same (json : Json) : Reordered json json
  | array {items others : List Json} (each : List.Forall₂ Reordered items others) :
      Reordered (.array items) (.array others)
  | object {members changed others : List (String × Json)} (names : members.map (·.1) = changed.map (·.1))
      (each : List.Forall₂ Reordered (members.map (·.2)) (changed.map (·.2))) (moved : changed.Perm others) :
      Reordered (.object members) (.object others)

/-- Trees of at most the given height whose integers have at most 64 bits, without other numbers and
without parts that denote nothing. -/
inductive Plain : Nat → Json → Prop
  | null (height : Nat) : Plain height .null
  | bool (height : Nat) (value : Bool) : Plain height (.bool value)
  | int (height : Nat) {n : Int} (small : n.natAbs < 18446744073709551616) : Plain height (.int n)
  | text (height : Nat) (value : String) : Plain height (.text value)
  | array {height : Nat} {items : List Json} (each : ∀ item ∈ items, Plain height item) :
      Plain (height + 1) (.array items)
  | object {height : Nat} {members : List (String × Json)} (each : ∀ member ∈ members, Plain height member.2) :
      Plain (height + 1) (.object members)

def isLeaf : Json → Bool
  | array _ | object _ => false
  | _ => true

def MembersReordered (members others : List (String × Json)) : Prop :=
  List.Forall₂ (fun a b => a.1 = b.1 ∧ a.2.Reordered b.2) members others

namespace Reordered

variable {json other : Json}

theorem eq_of_isLeaf (leaf : json.isLeaf = true) (reordered : json.Reordered other) : other = json := by
  cases reordered with
  | same => rfl
  | array => cases leaf
  | object => cases leaf

theorem ne_null (reordered : json.Reordered other) (notNull : json ≠ .null) : other ≠ .null := by
  cases reordered with
  | same => exact notNull
  | array => exact Json.noConfusion
  | object => exact Json.noConfusion

theorem of_array {items : List Json} (reordered : (Json.array items).Reordered other) :
    ∃ others, other = .array others ∧ List.Forall₂ Reordered items others := by
  cases reordered with
  | same => exact ⟨items, rfl, List.forall₂_same.2 fun item _ => .same item⟩
  | array each => exact ⟨_, rfl, each⟩

theorem membersReordered {members changed : List (String × Json)}
    (names : members.map (·.1) = changed.map (·.1))
    (each : List.Forall₂ Reordered (members.map (·.2)) (changed.map (·.2))) : MembersReordered members changed := by
  induction members generalizing changed with
  | nil =>
    obtain rfl := List.map_eq_nil_iff.1 names.symm
    exact .nil
  | cons member members ih =>
    cases changed with
    | nil => cases names
    | cons other changed =>
      obtain ⟨name, names⟩ := List.cons.inj names
      cases each with
      | cons first later => exact .cons ⟨name, first⟩ (ih names later)

theorem of_object {members : List (String × Json)} (reordered : (Json.object members).Reordered other) :
    ∃ changed others, other = .object others ∧ MembersReordered members changed ∧ changed.Perm others := by
  cases reordered with
  | same =>
    exact ⟨members, members, rfl, List.forall₂_same.2 fun member _ => ⟨rfl, .same member.2⟩, .refl members⟩
  | object names each moved => exact ⟨_, _, rfl, membersReordered names each, moved⟩

theorem of_membersReordered {members changed others : List (String × Json)}
    (each : MembersReordered members changed) (moved : changed.Perm others) :
    (Json.object members).Reordered (.object others) := by
  refine .object ?_ ?_ moved
  · rw [← List.forall₂_eq_eq_eq, List.forall₂_map_left_iff, List.forall₂_map_right_iff]
    exact each.imp fun _ _ related => related.1
  · rw [List.forall₂_map_left_iff, List.forall₂_map_right_iff]
    exact each.imp fun _ _ related => related.2

theorem object_single (name : String) (reordered : json.Reordered other) :
    (Json.object [(name, json)]).Reordered (.object [(name, other)]) := by
  have each : MembersReordered [(name, json)] [(name, other)] := .cons ⟨rfl, reordered⟩ .nil
  exact of_membersReordered each (.refl _)

theorem object_swap (first second : String) {a b c d : Json} (left : a.Reordered b) (right : c.Reordered d) :
    (Json.object [(first, a), (second, c)]).Reordered (.object [(second, d), (first, b)]) := by
  have each : MembersReordered [(first, a), (second, c)] [(first, b), (second, d)] :=
    .cons ⟨rfl, left⟩ (.cons ⟨rfl, right⟩ .nil)
  exact of_membersReordered each (.swap ..)

theorem filter (keep : String → Bool) {members changed others : List (String × Json)}
    (each : MembersReordered members changed) (moved : changed.Perm others) :
    (Json.object (members.filter (keep ·.1))).Reordered (.object (others.filter (keep ·.1))) := by
  refine of_membersReordered (List.rel_filter ?_ each) (moved.filter _)
  rintro a b ⟨same, -⟩
  show keep a.1 = true ↔ keep b.1 = true
  rw [same]

end Reordered

section

variable {height : Nat}

@[simp]
theorem plain_null : null.Plain height := .null height

@[simp]
theorem plain_bool (value : Bool) : (bool value).Plain height := .bool height value

@[simp]
theorem plain_text (value : String) : (text value).Plain height := .text height value

@[simp]
theorem plain_object {members : List (String × Json)} :
    (object members).Plain (height + 1) ↔ ∀ member ∈ members, member.2.Plain height :=
  ⟨fun | .object each => each, .object⟩

end

theorem Plain.mono {low high : Nat} {json : Json} (plain : json.Plain low) (le : low ≤ high) : json.Plain high := by
  induction plain generalizing high with
  | null | bool | text => constructor
  | int _ small => exact .int high small
  | array _ ih =>
    obtain ⟨high, rfl⟩ := Nat.exists_eq_add_one_of_ne_zero (Nat.ne_of_gt (Nat.lt_of_lt_of_le (Nat.succ_pos _) le))
    exact .array fun item here => ih item here (Nat.le_of_succ_le_succ le)
  | object _ ih =>
    obtain ⟨high, rfl⟩ := Nat.exists_eq_add_one_of_ne_zero (Nat.ne_of_gt (Nat.lt_of_lt_of_le (Nat.succ_pos _) le))
    exact .object fun member here => ih member here (Nat.le_of_succ_le_succ le)

/-- What every item keeps however it is reordered holds of all items. -/
theorem forall_of_forall₂ {α β : Type} {relation : α → β → Prop} {holds : β → Prop} {items : List α}
    {others : List β} (kept : ∀ item ∈ items, ∀ other, relation item other → holds other)
    (each : List.Forall₂ relation items others) : ∀ other ∈ others, holds other := by
  induction each with
  | nil => simp
  | @cons item other items others related _ ih =>
    have first := kept item List.mem_cons_self other related
    have later := ih fun item here => kept item (List.mem_cons_of_mem _ here)
    exact List.forall_mem_cons.2 ⟨first, later⟩

theorem Plain.reordered {height : Nat} {json other : Json} (plain : json.Plain height)
    (reordered : json.Reordered other) : other.Plain height := by
  induction plain generalizing other with
  | null | bool | text =>
    obtain rfl := reordered.eq_of_isLeaf rfl
    constructor
  | int height small =>
    obtain rfl := reordered.eq_of_isLeaf rfl
    exact .int height small
  | array _ ih =>
    obtain ⟨others, rfl, each⟩ := reordered.of_array
    exact .array (forall_of_forall₂ (fun item here other => ih item here) each)
  | object _ ih =>
    obtain ⟨changed, others, rfl, each, moved⟩ := reordered.of_object
    have all := forall_of_forall₂ (fun member here other related => ih member here related.2) each
    exact .object fun member here => all member (moved.mem_iff.2 here)

theorem areReadable_iff {items : List Json} : areReadable items = true ↔ ∀ item ∈ items, item.isReadable = true := by
  induction items with
  | nil => simp [areReadable]
  | cons item items ih => simp [areReadable, ih]

theorem membersReadable_iff {members : List (String × Json)} :
    membersReadable members = true ↔ ∀ member ∈ members, member.2.isReadable = true := by
  induction members with
  | nil => simp [membersReadable]
  | cons member members ih => simp [membersReadable, ih]

theorem Plain.isReadable {height : Nat} {json : Json} (plain : json.Plain height) : json.isReadable = true := by
  induction plain with
  | null | bool | int | text => rfl
  | array _ ih => exact areReadable_iff.2 ih
  | object _ ih => exact membersReadable_iff.2 ih

end NetProfile.Json
