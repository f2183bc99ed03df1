import NetProfile.Edit.Plan
import NetProfile.Proofs.Contract.Reads

/-!
Resolver options beside a plain list of texts. Apart from the state that tells unset options from
none at all, they are such a list: new options go to the end, an option leaves by its position or by
what it says, and a text without options empties the list. What is written out is read back.
-/

namespace NetProfile.DnsOptions

structure Tidy (options : DnsOptions) : Prop where
  settled : options ≠ .populated []
  legal : ∀ option ∈ options.items, isOption option = true
  distinct : options.items.Nodup

def ofPlain (isSet : Bool) (list : List String) : DnsOptions := if isSet then ofItems list else unset

/-- The plain list with the options of a text at its end; a text without options leaves none. -/
def addPlain (list : List String) (text : String) : Except Error (List String) := do
  let added ← readItems (plainSeparators.elem ·) check text
  return if added = [] then [] else MergePolicy.moveToEnd.merge list added

theorem isSet_ofItems (list : List String) : (ofItems list).isSet = true := by
  cases list <;> rfl

theorem ofItems_ne_populated (list : List String) : ofItems list ≠ populated [] := by
  cases list <;> simp [ofItems]

theorem isSet_eq_false {options : DnsOptions} : options.isSet = false ↔ options = unset := by
  cases options <;> simp [isSet]

theorem ofPlain_items {options : DnsOptions} (settled : options ≠ .populated []) :
    ofPlain options.isSet options.items = options := by
  cases options with
  | unset | empty => rfl
  | populated list =>
    cases list with
    | nil => exact absurd rfl settled
    | cons => rfl

theorem foldl_add {held : DnsOptions} {added : List String} (notEmpty : added ≠ []) :
    added.foldl add held = ofItems (MergePolicy.moveToEnd.merge held.items added) := by
  -- the last option decides on the state, those before it on the items
  rw [← List.dropLast_concat_getLast notEmpty, List.foldl_append, MergePolicy.merge_append (by decide),
    ← items_foldl_add]
  rfl

theorem addDnsOptions_eq (held : DnsOptions) (text : String) :
    Plan.addDnsOptions held text = (addPlain held.items text).map ofItems := by
  unfold Plan.addDnsOptions addPlain
  cases readItems (plainSeparators.elem ·) check text with
  | error error => rfl
  | ok added =>
    by_cases empty : added = []
    · subst empty
      rfl
    · show Except.ok _ = Except.ok _
      simp only [if_neg empty, foldl_add empty]

theorem removeDnsOption_eq {held : DnsOptions} (distinct : held.items.Nodup) (text : String) :
    Plan.removeDnsOption held text = (removeOne check held.items text).map (ofPlain held.isSet) := by
  unfold Plan.removeDnsOption removeOne
  cases found : position? held.items.length text with
  | some index =>
    have inside := lt_of_position? found
    have set : held.isSet = true := by
      cases held with
      | populated => rfl
      | unset | empty => exact absurd inside (Nat.not_lt_zero _)
    simp only [removeAt?, if_pos inside, Except.map, ofPlain, set, if_true, Option.getD_some]
  | none =>
    cases check (Text.trim text) with
    | error error => rfl
    | ok option =>
      show Except.ok (held.removeValue option) = Except.ok (ofPlain held.isSet (held.items.erase option))
      -- an option is there once at most, so the first one is the only one
      have once : held.items.erase option = held.items.filter (· ≠ option) := by
        rw [distinct.erase_eq_filter]
        congr
        funext other
        exact (decide_not ..).symm
      rw [once, removeValue, ofPlain]
      split
      · rfl
      · next free => exact congrArg Except.ok (isSet_eq_false.1 (by simpa using free))

theorem tidy_unset : Tidy .unset where
  settled := by simp
  legal := by simp [items]
  distinct := List.nodup_nil

theorem tidy_ofItems {list : List String} (legal : ∀ option ∈ list, isOption option = true)
    (distinct : list.Nodup) : Tidy (ofItems list) where
  settled := ofItems_ne_populated list
  legal := by rwa [items_ofItems]
  distinct := by rwa [items_ofItems]

theorem Tidy.addDnsOptions {held after : DnsOptions} (tidy : held.Tidy) {text : String}
    (added : Plan.addDnsOptions held text = .ok after) : after.Tidy := by
  have legal := isOption_of_add tidy.legal added
  rw [addDnsOptions_eq] at added
  obtain ⟨list, plain, rfl⟩ := Reading.map_eq_ok added
  obtain ⟨options, -, plain⟩ := Reading.bind_eq_ok plain
  rw [items_ofItems] at legal
  refine tidy_ofItems legal ?_
  cases plain
  split
  · exact List.nodup_nil
  · exact MergePolicy.nodup_moveToEnd tidy.distinct options

theorem Tidy.removeDnsOption {held left : DnsOptions} (tidy : held.Tidy) {text : String}
    (removed : Plan.removeDnsOption held text = .ok left) : left.Tidy := by
  have legal := isOption_of_remove tidy.legal removed
  rw [removeDnsOption_eq tidy.distinct] at removed
  obtain ⟨list, plain, rfl⟩ := Reading.map_eq_ok removed
  have distinct : list.Nodup := by
    unfold removeOne at plain
    split at plain
    · cases plain
      exact tidy.distinct.eraseIdx _
    · obtain ⟨option, -, plain⟩ := Reading.bind_eq_ok plain
      cases plain
      exact tidy.distinct.erase option
  unfold ofPlain at legal ⊢
  split
  · next set =>
    rw [if_pos set, items_ofItems] at legal
    exact tidy_ofItems legal distinct
  · exact tidy_unset

/-- An option has letters, digits, hyphens and a colon in it, and none of what lists are cut at. -/
theorem isOption_clean {option : String} (legal : isOption option = true) :
    option.toList ≠ [] ∧ ∀ c ∈ option.toList, plainSeparators.elem c = false := by
  have named : ∀ name ∈ names, name.toList ≠ [] ∧ ∀ c ∈ name.toList, plainSeparators.elem c = false := by
    have all : ∀ name ∈ names, name.toList ≠ [] ∧ (name.toList.all fun c => !plainSeparators.elem c) = true := by
      decide
    intro name here
    refine ⟨(all name here).1, fun c inside => ?_⟩
    simpa using List.all_eq_true.1 (all name here).2 c inside
  unfold isOption at legal
  split at legal
  · simp only [Bool.and_eq_true, List.contains_iff_mem] at legal
    exact named option legal.1
  · next name number cut =>
    obtain ⟨shape, -⟩ := Text.cutOnce_eq_some_iff.1 cut
    simp only [Bool.and_eq_true, List.contains_iff_mem] at legal
    obtain ⟨⟨numeric, -⟩, digits⟩ := legal
    have isName : name ∈ names := by
      have known : ∀ name ∈ numericNames, name ∈ names := by decide
      exact known name numeric
    rw [shape]
    refine ⟨by simp, fun c here => ?_⟩
    rcases List.mem_append.1 here with inName | inRest
    · exact (named name isName).2 c inName
    · rcases List.mem_cons.1 inRest with rfl | inNumber
      · decide
      · have digit := List.all_eq_true.1 digits c inNumber
        by_contra cuts
        simp only [Bool.not_eq_false, List.elem_eq_mem, decide_eq_true_eq, plainSeparators, List.mem_cons,
          List.not_mem_nil, or_false] at cuts
        rcases cuts with rfl | rfl | rfl <;> revert digit <;> decide

theorem readItems_intercalate_options {list : List String} (legal : ∀ option ∈ list, isOption option = true) :
    readItems (plainSeparators.elem ·) check (String.intercalate "," list) = .ok list := by
  have cut : Text.items (plainSeparators.elem ·) (String.intercalate "," list) = list :=
    Text.items_glued ',' rfl (fun option here => isOption_clean (legal option here)) (by decide)
  have checked : (list.map id).mapM check = .ok list :=
    Reading.mapM_map_eq_ok fun option here => by simp [check, legal option here]
  rw [readItems, cut]
  rwa [List.map_id] at checked

/-- Options that are set are read back from what is written of them. -/
theorem Tidy.addDnsOptions_intercalate {options : DnsOptions} (tidy : options.Tidy) (set : options ≠ .unset) :
    Plan.addDnsOptions .unset (String.intercalate "," options.items) = .ok options := by
  have plain : addPlain [] (String.intercalate "," options.items) = .ok options.items := by
    rw [addPlain, readItems_intercalate_options tidy.legal]
    show Except.ok _ = Except.ok _
    split
    · next empty => rw [empty]
    · rw [MergePolicy.moveToEnd_of_nodup (by simpa using tidy.distinct)]
      rfl
  have same : ofItems options.items = options := by
    have state := ofPlain_items tidy.settled
    have isSet : options.isSet = true := by
      by_contra free
      exact set (isSet_eq_false.1 (by simpa using free))
    rwa [isSet] at state
  rw [addDnsOptions_eq]
  show (addPlain [] _).map _ = _
  rw [plain, ← same]
  simp [Except.map, items_ofItems]

end NetProfile.DnsOptions
