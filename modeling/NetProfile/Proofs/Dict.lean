import Mathlib.Data.List.Induction
import Mathlib.Data.List.Nodup
import Mathlib.Data.List.Perm.Basic
import NetProfile.Dict

/-!
Dictionaries that are filled one entry after another. Entries that come in the order of their keys
are put at the end, so filling an empty dictionary with the entries of another gives that one back.
-/

namespace NetProfile.Dict

variable {α : Type}

theorem put_of_above {key : String} {value : α} {entries : List (String × α)}
    (above : ∀ entry ∈ entries, entry.1 < key) : put key value entries = entries ++ [(key, value)] := by
  induction entries with
  | nil => rfl
  | cons head rest ih =>
    have first : head.1 < key := above head List.mem_cons_self
    have later := ih fun entry here => above entry (List.mem_cons_of_mem _ here)
    have notLess : ¬key < head.1 := fun less => String.lt_irrefl _ (String.lt_trans first less)
    have different : key ≠ head.1 := fun same => String.lt_irrefl _ (same ▸ first)
    rw [put, if_neg notLess, if_neg different, later]
    rfl

theorem entries_foldl_insert (front : Dict α) {back : List (String × α)}
    (ascending : (front.entries ++ back).Pairwise fun a b => a.1 < b.1) :
    (back.foldl (fun dict entry => dict.insert entry.1 entry.2) front).entries
      = front.entries ++ back := by
  induction back generalizing front with
  | nil => simp
  | cons head rest ih =>
    have above : ∀ entry ∈ front.entries, entry.1 < head.1 := fun entry here =>
      (List.pairwise_append.1 ascending).2.2 entry here head List.mem_cons_self
    have next : (front.insert head.1 head.2).entries = front.entries ++ [head] := put_of_above above
    have regrouped : front.entries ++ head :: rest = (front.insert head.1 head.2).entries ++ rest := by
      rw [next, List.append_assoc]
      rfl
    rw [regrouped] at ascending ⊢
    exact ih (front.insert head.1 head.2) ascending

theorem foldl_insert_empty (dict : Dict α) :
    dict.entries.foldl (fun dict entry => dict.insert entry.1 entry.2) empty = dict :=
  ext (entries_foldl_insert empty dict.ascending)

theorem insert_insert (dict : Dict α) {first second : String} (different : first ≠ second) (a b : α) :
    (dict.insert first a).insert second b = (dict.insert second b).insert first a := by
  apply ext_get?
  intro key
  simp only [get?_insert]
  by_cases atSecond : key = second
  · simp [atSecond, different.symm]
  · simp [atSecond]

theorem nodup_keys (dict : Dict α) : (dict.entries.map (·.1)).Nodup :=
  List.pairwise_map.2 (dict.ascending.imp fun less => String.ne_of_lt less)

/-- The order of the entries that a dictionary is filled with does not matter. -/
theorem ofList_of_perm {dict : Dict α} {entries : List (String × α)} (moved : dict.entries.Perm entries) :
    ofList entries = dict := by
  refine Eq.trans (List.Perm.foldl_eq' moved ?_ empty).symm dict.foldl_insert_empty
  intro a first b second filled
  by_cases same : a.1 = b.1
  · rw [List.inj_on_of_nodup_map dict.nodup_keys first second same]
  · exact insert_insert filled same a.2 b.2

theorem isSome_find {key : String} {entries : List (String × α)} :
    (find key entries).isSome = true ↔ key ∈ entries.map (·.1) := by
  induction entries with
  | nil => simp [find]
  | cons head rest ih =>
    rw [List.map_cons, List.mem_cons, ← ih]
    by_cases same : key = head.1 <;> simp [find, same]

theorem contains_iff {dict : Dict α} {key : String} : dict.contains key = true ↔ key ∈ dict.keys :=
  isSome_find

theorem keys_mapValues {β : Type} (dict : Dict α) (change : String → α → β) :
    (dict.mapValues change).keys = dict.keys := by
  simp [keys, mapValues, Function.comp_def]

/-- The order of the keys is settled, so it says nothing that the set of keys does not say. -/
theorem keys_eq_iff {a b : Dict α} : a.keys = b.keys ↔ ∀ key, a.contains key = b.contains key := by
  constructor
  · intro same key
    rw [Bool.eq_iff_iff, contains_iff, contains_iff, same]
  · intro same
    have unlabelled : (a.mapValues fun _ _ => ()) = b.mapValues fun _ _ => () := by
      apply ext_get?
      intro key
      have present := same key
      rw [get?_mapValues, get?_mapValues]
      unfold contains at present
      cases first : a.get? key <;> cases second : b.get? key <;> simp_all
    rw [← keys_mapValues a, unlabelled, keys_mapValues]

theorem ofList_append_singleton (entries : List (String × α)) (entry : String × α) :
    ofList (entries ++ [entry]) = (ofList entries).insert entry.1 entry.2 := by
  simp [ofList, List.foldl_append]

theorem get?_ofList (entries : List (String × α)) (key : String) :
    (ofList entries).get? key = ((entries.filter (·.1 = key)).getLast?).map (·.2) := by
  induction entries using List.reverseRecOn with
  | nil => rfl
  | append_singleton entries entry ih =>
    rw [ofList_append_singleton, get?_insert, ih, List.filter_append]
    by_cases same : entry.1 = key
    · simp [same]
    · simp [same, Ne.symm same]

theorem isEmpty_ofList (entries : List (String × α)) : (ofList entries).isEmpty = entries.isEmpty := by
  rcases List.eq_nil_or_concat entries with rfl | ⟨before, last, rfl⟩
  · rfl
  -- the last entry is there, whatever the others are
  · have there : (ofList (before ++ [last])).contains last.1 = true := by
      rw [contains, ofList_append_singleton, get?_insert, if_pos rfl]
      rfl
    rw [contains_iff, keys] at there
    cases filled : (ofList (before ++ [last])).entries with
    | nil =>
      rw [filled] at there
      cases there
    | cons => simp [isEmpty, filled]

theorem perm_put {key : String} {value : α} {entries : List (String × α)}
    (absent : key ∉ entries.map (·.1)) : (put key value entries).Perm (entries ++ [(key, value)]) := by
  induction entries with
  | nil => exact .refl _
  | cons head rest ih =>
    rw [List.map_cons, List.mem_cons, not_or] at absent
    rw [put, if_neg absent.1]
    split
    · exact (List.perm_append_singleton _ _).symm
    · exact (ih absent.2).cons head

theorem perm_ofList {entries : List (String × α)} (different : (entries.map (·.1)).Nodup) :
    (ofList entries).entries.Perm entries := by
  induction entries using List.reverseRecOn with
  | nil => exact .refl _
  | append_singleton entries entry ih =>
    rw [List.map_append, List.nodup_append] at different
    have kept := ih different.1
    have absent : entry.1 ∉ (ofList entries).entries.map (·.1) := fun here =>
      different.2.2 _ ((kept.map _).mem_iff.1 here) _ (by simp) rfl
    rw [ofList_append_singleton]
    exact (perm_put absent).trans (kept.append_right _)

theorem mem_insert {dict : Dict α} {key : String} {value : α} {entry : String × α}
    (here : entry ∈ (dict.insert key value).entries) : entry = (key, value) ∨ entry ∈ dict.entries :=
  mem_put here

theorem mem_of_mem_erase {dict : Dict α} {key : String} {entry : String × α}
    (here : entry ∈ (dict.erase key).entries) : entry ∈ dict.entries :=
  (List.mem_filter.1 here).1

theorem mem_of_mem_foldl_erase {keys : List String} {dict : Dict α} {entry : String × α}
    (here : entry ∈ (keys.foldl erase dict).entries) : entry ∈ dict.entries := by
  induction keys generalizing dict with
  | nil => exact here
  | cons key keys ih => exact mem_of_mem_erase (ih here)

end NetProfile.Dict
