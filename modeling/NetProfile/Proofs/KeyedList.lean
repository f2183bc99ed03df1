import NetProfile.Proofs.MergePolicy

/-!
Lists whose items have keys, as maps in the order of insertion. An item that joins such a list takes
the place of the one with its key, and so a whole text of items replaces some and adds the others.
-/

namespace NetProfile

variable {α β κ : Type} [DecidableEq κ] {key : α → κ}

def putAll (key : α → κ) (held added : List α) : List α :=
  added.foldl (fun list item => putKeyed (fun other item => key other == key item) item list) held

/-- What a list is after items have been put into it: the keys that were there stay in their order and
new ones follow as they first come, and every key has the last of its new items, or else its old one. -/
structure KeyedMerge (key : α → κ) (held added after : List α) : Prop where
  keys : after.map key = held.map key ++ ((added.map key).filter (· ∉ held.map key)).eraseDups
  entries : ∀ wanted, after.find? (key · = wanted) =
    (added.reverse.find? (key · = wanted)).or (held.find? (key · = wanted))

theorem map_key_putKeyed (item : α) (list : List α) :
    (putKeyed (fun other item => key other == key item) item list).map key =
      MergePolicy.addUnique (list.map key) (key item) := by
  induction list with
  | nil => rfl
  | cons other list ih =>
    by_cases same : key other = key item
    · simp [putKeyed, MergePolicy.addUnique, same]
    · have inRest : key item ∈ (other :: list).map key ↔ key item ∈ list.map key := by
        rw [List.map_cons, List.mem_cons, or_iff_right (Ne.symm same)]
      simp only [putKeyed, beq_iff_eq, same, if_false, List.map_cons, ih, MergePolicy.addUnique] at inRest ⊢
      simp only [inRest]
      split <;> rfl

theorem find?_putKeyed (item : α) (list : List α) (wanted : κ) :
    (putKeyed (fun other item => key other == key item) item list).find? (key · = wanted) =
      if key item = wanted then some item else list.find? (key · = wanted) := by
  induction list with
  | nil => by_cases own : key item = wanted <;> simp [putKeyed, own]
  | cons other list ih =>
    by_cases same : key other = key item
    · by_cases own : key item = wanted <;> simp [putKeyed, same, own]
    · by_cases own : key item = wanted
      · have passed : key other ≠ wanted := fun there => same (there.trans own.symm)
        simp [putKeyed, own, ih, passed]
      · simp [putKeyed, same, own, ih, List.find?_cons]

/-- Items may be renamed as long as their keys are told apart in the same way. -/
theorem map_putKeyed {sameKey : α → α → Bool} (sameName : β → β → Bool) {rename : α → β}
    (told : ∀ other item, sameName (rename other) (rename item) = sameKey other item) (item : α) (list : List α) :
    (putKeyed sameKey item list).map rename = putKeyed sameName (rename item) (list.map rename) := by
  induction list with
  | nil => rfl
  | cons other list ih =>
    rw [List.map_cons, putKeyed, putKeyed, told]
    split
    · rfl
    · rw [List.map_cons, ih]

theorem map_putAll {ν : Type} [DecidableEq ν] (name : β → ν) {rename : α → β}
    (told : ∀ other item, name (rename other) = name (rename item) ↔ key other = key item)
    (held added : List α) : (putAll key held added).map rename = putAll name (held.map rename) (added.map rename) := by
  induction added generalizing held with
  | nil => rfl
  | cons item added ih =>
    have step := ih (putKeyed (fun other item => key other == key item) item held)
    have same : ∀ other item, (name (rename other) == name (rename item)) = (key other == key item) :=
      fun other item => Bool.eq_iff_iff.2 (by simpa using told other item)
    rw [map_putKeyed (fun other item => name other == name item) same] at step
    exact step

theorem map_key_putAll (held added : List α) :
    (putAll key held added).map key = MergePolicy.unique.merge (held.map key) (added.map key) := by
  induction added generalizing held with
  | nil => rfl
  | cons item added ih =>
    have step := ih (putKeyed (fun other item => key other == key item) item held)
    rw [map_key_putKeyed] at step
    exact step

theorem find?_putAll (held added : List α) (wanted : κ) :
    (putAll key held added).find? (key · = wanted) =
      (added.reverse.find? (key · = wanted)).or (held.find? (key · = wanted)) := by
  induction added generalizing held with
  | nil => rfl
  | cons item added ih =>
    have step := ih (putKeyed (fun other item => key other == key item) item held)
    rw [find?_putKeyed] at step
    refine step.trans ?_
    rw [List.reverse_cons, List.find?_append, Option.or_assoc]
    congr 1
    by_cases own : key item = wanted <;> simp [own]

theorem keyedMerge_putAll (held added : List α) : KeyedMerge key held added (putAll key held added) where
  keys := by rw [map_key_putAll, MergePolicy.unique_eq]
  entries := find?_putAll held added

theorem nodup_map_key_putAll {held : List α} (distinct : (held.map key).Nodup) (added : List α) :
    ((putAll key held added).map key).Nodup := by
  rw [map_key_putAll]
  exact MergePolicy.nodup_unique distinct _

end NetProfile
