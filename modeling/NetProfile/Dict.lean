/-!
Dictionaries with texts as keys, kept in the order of the keys. That order is part of the type, so
dictionaries with the same contents are equal (`Dict.ext_get?`).
-/

namespace NetProfile

structure Dict (α : Type) where
  entries : List (String × α)
  ascending : entries.Pairwise fun a b => a.1 < b.1

namespace Dict

variable {α β : Type}

theorem ext {a b : Dict α} (same : a.entries = b.entries) : a = b := by
  cases a; cases b; cases same; rfl

instance [DecidableEq α] : DecidableEq (Dict α) := fun a b =>
  if same : a.entries = b.entries then isTrue (ext same)
  else isFalse fun equal => same (equal ▸ rfl)

instance [Repr α] : Repr (Dict α) := ⟨fun dict precedence => reprPrec dict.entries precedence⟩

def empty : Dict α := ⟨[], .nil⟩

instance : Inhabited (Dict α) := ⟨empty⟩

def isEmpty (dict : Dict α) : Bool := dict.entries.isEmpty

def keys (dict : Dict α) : List String := dict.entries.map (·.1)

def find (key : String) : List (String × α) → Option α
  | [] => none
  | (k, value) :: rest => if key = k then some value else find key rest

def get? (dict : Dict α) (key : String) : Option α := find key dict.entries

def contains (dict : Dict α) (key : String) : Bool := (dict.get? key).isSome

def put (key : String) (value : α) : List (String × α) → List (String × α)
  | [] => [(key, value)]
  | (k, v) :: rest =>
    if key < k then (key, value) :: (k, v) :: rest
    else if key = k then (key, value) :: rest
    else (k, v) :: put key value rest

theorem mem_put {key : String} {value : α} {entries : List (String × α)} {entry : String × α}
    (here : entry ∈ put key value entries) : entry = (key, value) ∨ entry ∈ entries := by
  induction entries with
  | nil => simpa [put] using here
  | cons head rest ih =>
    obtain ⟨k, v⟩ := head
    simp only [put] at here
    split at here
    · simpa using here
    · split at here
      · rcases List.mem_cons.1 here with same | later
        · exact .inl same
        · exact .inr (List.mem_cons_of_mem _ later)
      · rcases List.mem_cons.1 here with same | later
        · exact .inr (same ▸ List.mem_cons_self)
        · exact (ih later).imp_right (List.mem_cons_of_mem _)

theorem lt_of_not_lt {a b : String} (notLess : ¬a < b) (different : a ≠ b) : b < a :=
  Decidable.byContradiction fun notGreater =>
    different (String.le_antisymm (String.not_lt.1 notGreater) (String.not_lt.1 notLess))

theorem ascending_put (key : String) (value : α) {entries : List (String × α)}
    (ascending : entries.Pairwise fun a b => a.1 < b.1) :
    (put key value entries).Pairwise fun a b => a.1 < b.1 := by
  induction ascending with
  | nil => exact List.pairwise_singleton _ _
  | @cons head rest below later ih =>
    obtain ⟨k, v⟩ := head
    simp only [put]
    split
    · next less =>
      refine .cons (fun entry here => ?_) (.cons below later)
      rcases List.mem_cons.1 here with same | here
      · exact same ▸ less
      · exact String.lt_trans less (below _ here)
    · next notLess =>
      split
      · next same => exact .cons (fun entry here => same ▸ below _ here) later
      · next different =>
        refine .cons (fun entry here => ?_) ih
        rcases mem_put here with same | here
        · exact same ▸ lt_of_not_lt notLess different
        · exact below _ here

/-- Gives `key` the value, whether it had one or not. -/
def insert (dict : Dict α) (key : String) (value : α) : Dict α :=
  ⟨put key value dict.entries, ascending_put key value dict.ascending⟩

/-- Keeps the entries that pass a test on key and value. -/
def filter (dict : Dict α) (keep : String → α → Bool) : Dict α :=
  ⟨dict.entries.filter fun (k, v) => keep k v, dict.ascending.sublist List.filter_sublist⟩

def erase (dict : Dict α) (key : String) : Dict α := dict.filter fun k _ => k ≠ key

def mapValues (dict : Dict α) (change : String → α → β) : Dict β :=
  ⟨dict.entries.map fun (k, v) => (k, change k v), by
    rw [List.pairwise_map]; exact dict.ascending⟩

/-- The entries of a list; of entries with one key the last one counts. -/
def ofList (entries : List (String × α)) : Dict α :=
  entries.foldl (fun dict (key, value) => dict.insert key value) empty

theorem find_put (key other : String) (value : α) (entries : List (String × α)) :
    find other (put key value entries) =
      if other = key then some value else find other entries := by
  induction entries with
  | nil => simp [put, find]
  | cons head rest ih =>
    obtain ⟨k, v⟩ := head
    simp only [put]
    split
    · simp [find]
    · split
      · next same => subst same; by_cases h : other = key <;> simp [find, h]
      · next different =>
        by_cases atKey : other = key
        · subst atKey; simp [find, ih, different]
        · simp [find, ih, atKey]

theorem get?_insert (dict : Dict α) (key other : String) (value : α) :
    (dict.insert key value).get? other = if other = key then some value else dict.get? other :=
  find_put key other value dict.entries

theorem find_eq_none {key : String} {entries : List (String × α)}
    (above : ∀ entry ∈ entries, key < entry.1) : find key entries = none := by
  induction entries with
  | nil => rfl
  | cons head rest ih =>
    have different : key ≠ head.1 := fun same =>
      String.lt_irrefl _ (same ▸ above head List.mem_cons_self)
    simp [find, different, ih fun entry here => above entry (List.mem_cons_of_mem _ here)]

theorem find_filter {keep : String → α → Bool} {key : String} {entries : List (String × α)}
    (ascending : entries.Pairwise fun a b => a.1 < b.1) :
    find key (entries.filter fun (k, v) => keep k v) = (find key entries).filter (keep key) := by
  induction ascending with
  | nil => rfl
  | @cons head rest below later ih =>
    obtain ⟨k, v⟩ := head
    by_cases same : key = k
    · subst same
      have gone : find key rest = none := find_eq_none below
      cases kept : keep key v <;> simp [find, kept, ih, gone, Option.filter]
    · cases kept : keep k v <;> simp [find, kept, ih, same]

theorem get?_filter (dict : Dict α) (keep : String → α → Bool) (key : String) :
    (dict.filter keep).get? key = (dict.get? key).filter (keep key) :=
  find_filter dict.ascending

theorem get?_erase (dict : Dict α) (key other : String) :
    (dict.erase key).get? other = if other = key then none else dict.get? other := by
  rw [erase, get?_filter]
  by_cases same : other = key
  · subst same; cases dict.get? other <;> simp [Option.filter]
  · cases dict.get? other <;> simp [Option.filter, same]

theorem get?_mapValues (dict : Dict α) (change : String → α → β) (key : String) :
    (dict.mapValues change).get? key = (dict.get? key).map (change key) := by
  obtain ⟨entries, ascending⟩ := dict
  show find key (entries.map _) = (find key entries).map _
  induction entries with
  | nil => rfl
  | cons head rest ih =>
    obtain ⟨k, v⟩ := head
    have ih := ih (List.pairwise_cons.1 ascending).2
    by_cases same : key = k
    · subst same; simp [find]
    · simp [find, same, ih]

theorem get?_empty (key : String) : (empty : Dict α).get? key = none := rfl

private theorem ext_find {a b : List (String × α)}
    (ascendingA : a.Pairwise fun x y => x.1 < y.1) (ascendingB : b.Pairwise fun x y => x.1 < y.1)
    (same : ∀ key, find key a = find key b) : a = b := by
  induction a generalizing b with
  | nil =>
    cases b with
    | nil => rfl
    | cons head rest => have := same head.1; simp [find] at this
  | cons headA restA ih =>
    cases b with
    | nil => have := same headA.1; simp [find] at this
    | cons headB restB =>
      obtain ⟨kA, vA⟩ := headA
      obtain ⟨kB, vB⟩ := headB
      have belowA := (List.pairwise_cons.1 ascendingA).1
      have belowB := (List.pairwise_cons.1 ascendingB).1
      have keys : kA = kB := by
        refine Decidable.byContradiction fun different => ?_
        by_cases less : kA < kB
        · have absent : find kA restB = none :=
            find_eq_none fun entry here => String.lt_trans less (belowB entry here)
          have := same kA
          simp [find, different, absent] at this
        · have greater := lt_of_not_lt less different
          have absent : find kB restA = none :=
            find_eq_none fun entry here => String.lt_trans greater (belowA entry here)
          have := same kB
          simp [find, Ne.symm different, absent] at this
      subst keys
      have values : vA = vB := by have := same kA; simpa [find] using this
      subst values
      have rests : restA = restB := by
        refine ih (List.pairwise_cons.1 ascendingA).2 (List.pairwise_cons.1 ascendingB).2 ?_
        intro key
        by_cases atHead : key = kA
        · subst atHead
          rw [find_eq_none belowA, find_eq_none belowB]
        · have := same key
          simpa [find, atHead] using this
      rw [rests]

theorem ext_get? {a b : Dict α} (same : ∀ key, a.get? key = b.get? key) : a = b :=
  ext (ext_find a.ascending b.ascending same)

end Dict

end NetProfile
