import Mathlib.Data.List.Dedup
import NetProfile.MergePolicy
import NetProfile.Proofs.Reading
import NetProfile.Record.ResolverOptions

/-!
What the merge policies make of a list, each in one expression, and what follows for its members:
unless the new items replace the list, nothing is lost and nothing made up, and a list that something
was taken from has only items that it had before. Resolver options join as the items of a list do
that go to the end.
-/

namespace NetProfile

variable {α : Type}

/-- If each step adds nothing but its own item, all steps together add nothing but their items. -/
theorem inside_of_foldl {σ : Type} (inside : α → σ → Prop) {step : σ → α → σ}
    (each : ∀ state item other, inside other (step state item) → other = item ∨ inside other state)
    {held : σ} {added : List α} {other : α} (here : inside other (added.foldl step held)) :
    inside other held ∨ other ∈ added := by
  induction added generalizing held with
  | nil => exact .inl here
  | cons item rest ih =>
    rcases ih here with stepped | later
    · rcases each held item other stepped with same | earlier
      · exact .inr (same ▸ List.mem_cons_self)
      · exact .inl earlier
    · exact .inr (List.mem_cons_of_mem _ later)

theorem mem_putKeyed {sameKey : α → α → Bool} {item other : α} {list : List α}
    (here : other ∈ putKeyed sameKey item list) : other = item ∨ other ∈ list := by
  induction list with
  | nil => exact .inl (List.mem_singleton.1 here)
  | cons first rest ih =>
    simp only [putKeyed] at here
    split at here
    · rcases List.mem_cons.1 here with same | later
      · exact .inl same
      · exact .inr (List.mem_cons_of_mem _ later)
    · rcases List.mem_cons.1 here with same | later
      · exact .inr (same ▸ List.mem_cons_self)
      · exact (ih later).imp_right (List.mem_cons_of_mem _)

namespace MergePolicy

variable [DecidableEq α]

theorem nodup_addUnique {list : List α} (distinct : list.Nodup) (item : α) : (addUnique list item).Nodup := by
  unfold addUnique
  split
  · exact distinct
  · next absent => exact distinct.append (List.nodup_singleton item) (by simpa using absent)

theorem nodup_unique {held : List α} (distinct : held.Nodup) (added : List α) :
    (unique.merge held added).Nodup := by
  induction added generalizing held with
  | nil => exact distinct
  | cons item added ih => exact ih (nodup_addUnique distinct item)

/-- Items that are not yet there follow in the order in which each of them first comes. -/
theorem unique_eq (held added : List α) :
    unique.merge held added = held ++ (added.filter (· ∉ held)).eraseDups := by
  induction added generalizing held with
  | nil => exact (List.append_nil held).symm
  | cons item added ih =>
    have step : unique.merge held (item :: added) = unique.merge (addUnique held item) added := rfl
    rw [step, ih, addUnique]
    by_cases here : item ∈ held
    · simp [here]
    · have others : added.filter (· ∉ held ++ [item]) = (added.filter (· ∉ held)).filter (! · == item) := by
        rw [List.filter_filter]
        refine List.filter_congr fun other _ => ?_
        rw [Bool.eq_iff_iff]
        simp [and_comm]
      rw [if_neg here, others, List.filter_cons_of_pos (by simpa using here), List.eraseDups_cons]
      simp

/-- New items leave their former places and follow in the order in which each of them last comes. -/
theorem moveToEnd_eq (held added : List α) :
    moveToEnd.merge held added = held.filter (· ∉ added) ++ added.dedup := by
  induction added generalizing held with
  | nil => simp [merge]
  | cons item added ih =>
    have step : moveToEnd.merge held (item :: added) = moveToEnd.merge (addLast held item) added := rfl
    have others : (held.filter (· ≠ item)).filter (· ∉ added) = held.filter (· ∉ item :: added) := by
      rw [List.filter_filter]
      refine List.filter_congr fun other _ => ?_
      rw [Bool.eq_iff_iff]
      simp [and_comm]
    rw [step, ih, addLast, List.filter_append, others, List.append_assoc]
    -- the item just added stays only if it does not come again
    by_cases again : item ∈ added
    · simp [again]
    · simp [again]

theorem nodup_moveToEnd {held : List α} (distinct : held.Nodup) (added : List α) :
    (moveToEnd.merge held added).Nodup := by
  rw [moveToEnd_eq]
  refine (distinct.filter _).append (List.nodup_dedup added) fun item kept new => ?_
  have absent : item ∉ added := by simpa using (List.mem_filter.1 kept).2
  exact absent (List.mem_dedup.1 new)

theorem moveToEnd_of_nodup {held added : List α} (distinct : (held ++ added).Nodup) :
    moveToEnd.merge held added = held ++ added := by
  obtain ⟨-, different, apart⟩ := List.nodup_append'.1 distinct
  rw [moveToEnd_eq, different.dedup, List.filter_eq_self.2]
  exact fun item here => decide_eq_true (apart here)

theorem mem_merge_iff {policy : MergePolicy} (keeps : policy ≠ .replace) {held added : List α} {item : α} :
    item ∈ policy.merge held added ↔ item ∈ held ∨ item ∈ added := by
  cases policy with
  | append => exact List.mem_append
  | unique =>
    rw [unique_eq, List.mem_append, List.mem_eraseDups, List.mem_filter]
    by_cases here : item ∈ held <;> simp [here]
  | moveToEnd =>
    rw [moveToEnd_eq, List.mem_append, List.mem_dedup, List.mem_filter]
    by_cases new : item ∈ added <;> simp [new]
  | replace => exact absurd rfl keeps

theorem mem_merge {policy : MergePolicy} {held added : List α} {item : α}
    (here : item ∈ policy.merge held added) : item ∈ held ∨ item ∈ added := by
  by_cases replaced : policy = .replace
  · subst replaced
    exact .inr here
  · exact (mem_merge_iff replaced).1 here

/-- Unless the new items replace the list, it is the same to add them at once or one part after the
other. -/
theorem merge_append {policy : MergePolicy} (keeps : policy ≠ .replace) (held first second : List α) :
    policy.merge held (first ++ second) = policy.merge (policy.merge held first) second := by
  cases policy with
  | append => exact (List.append_assoc ..).symm
  | unique | moveToEnd => exact List.foldl_append
  | replace => exact absurd rfl keeps

end MergePolicy

namespace DnsOptions

theorem items_add (options : DnsOptions) (option : String) :
    (options.add option).items = MergePolicy.addLast options.items option :=
  items_ofItems _

theorem items_foldl_add (held : DnsOptions) (added : List String) :
    (added.foldl add held).items = MergePolicy.moveToEnd.merge held.items added := by
  induction added generalizing held with
  | nil => rfl
  | cons option added ih =>
    have step := ih (held.add option)
    rw [items_add] at step
    exact step

end DnsOptions

namespace MergePolicy

/-- What each policy makes of a list; of equal items `eraseDups` keeps the first and `dedup` the last.
Where items join only if they are new, or go to the end, no repetition comes about, nothing is lost
and nothing made up. Options of the resolver, added one after the other, go to the end. -/
theorem merge_closed_forms [DecidableEq α] (held added : List α) :
    append.merge held added = held ++ added ∧
      replace.merge held added = added ∧
      unique.merge held added = held ++ (added.filter (· ∉ held)).eraseDups ∧
      moveToEnd.merge held added = held.filter (· ∉ added) ++ added.dedup ∧
      (∀ policy ∈ [unique, moveToEnd],
        (held.Nodup → (policy.merge held added).Nodup) ∧
          ∀ item, item ∈ policy.merge held added ↔ item ∈ held ∨ item ∈ added) ∧
      ∀ (options : DnsOptions) (texts : List String),
        (texts.foldl DnsOptions.add options).items = moveToEnd.merge options.items texts := by
  have keeps : ∀ policy ∈ [unique, moveToEnd], policy ≠ .replace := by decide
  refine ⟨rfl, rfl, unique_eq held added, moveToEnd_eq held added, fun policy chosen => ⟨fun distinct => ?_, ?_⟩,
    DnsOptions.items_foldl_add⟩
  · rcases List.mem_pair.1 chosen with rfl | rfl
    · exact nodup_unique distinct added
    · exact nodup_moveToEnd distinct added
  · exact fun item => mem_merge_iff (keeps policy chosen)

/-- Two options come twice, and one of these is there already. -/
theorem merge_closed_forms_repeated :
    let held := ["ndots:1", "debug", "rotate"]
    let added := ["inet6", "debug", "inet6", "edns0", "debug"]
    held.Nodup ∧
      unique.merge held added = ["ndots:1", "debug", "rotate", "inet6", "edns0"] ∧
      (unique.merge held added).Nodup ∧
      moveToEnd.merge held added = ["ndots:1", "rotate", "inet6", "edns0", "debug"] ∧
      (moveToEnd.merge held added).Nodup ∧
      (added.foldl DnsOptions.add (.populated held)).items = moveToEnd.merge held added := by
  intro held added
  have distinct : held.Nodup := by decide
  obtain ⟨-, -, once, last, kept, options⟩ := merge_closed_forms held added
  exact ⟨distinct, once.trans (by decide), (kept unique (by decide)).1 distinct, last.trans (by decide),
    (kept moveToEnd (by decide)).1 distinct, options (.populated held) added⟩

end MergePolicy

theorem lt_of_position? {size index : Nat} {text : String} (found : position? size text = some index) :
    index < size := by
  unfold position? at found
  split at found
  · split at found
    · next inside =>
      cases found
      exact inside
    · cases found
  · cases found

theorem mem_of_removeOne [DecidableEq α] {read : String → Except Error α} {held left : List α}
    {text : String} (removed : removeOne read held text = .ok left) {other : α} (here : other ∈ left) :
    other ∈ held := by
  unfold removeOne at removed
  split at removed
  · cases removed
    exact List.mem_of_mem_eraseIdx here
  · obtain ⟨value, -, removed⟩ := Reading.bind_eq_ok removed
    cases removed
    exact List.mem_of_mem_erase here

end NetProfile
