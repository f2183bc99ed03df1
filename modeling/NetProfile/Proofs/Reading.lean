import Mathlib.Data.List.Forall2
import NetProfile.MergePolicy

/-!
Readings that succeed, taken apart: what a step, a list of items and a run over tokens must have
read for the whole to give its result.
-/

namespace NetProfile.Reading

variable {α β γ ε : Type}

theorem bind_eq_ok {first : Except ε α} {next : α → Except ε β} {result : β}
    (read : (first >>= next) = .ok result) : ∃ value, first = .ok value ∧ next value = .ok result := by
  cases first with
  | error error => cases read
  | ok value => exact ⟨value, rfl, read⟩

theorem map_eq_ok {reading : Except ε α} {change : α → β} {result : β}
    (read : reading.map change = .ok result) : ∃ value, reading = .ok value ∧ change value = result := by
  cases reading with
  | error error => cases read
  | ok value => cases read; exact ⟨value, rfl, rfl⟩

theorem map_eq_ok_iff {reading : Except ε α} {change : α → β} {result : β} :
    reading.map change = .ok result ↔ ∃ value, reading = .ok value ∧ change value = result := by
  refine ⟨map_eq_ok, ?_⟩
  rintro ⟨value, rfl, rfl⟩
  rfl

/-- A whole that is read as a single value is so too when the value is changed. -/
theorem map_single_iff {whole : Except ε (List α)} {single : Except ε α}
    (alone : ∀ values, whole = .ok values ↔ ∃ value, single = .ok value ∧ [value] = values)
    (change : α → β) (results : List β) :
    whole.map (List.map change) = .ok results ↔
      ∃ result, single.map change = .ok result ∧ [result] = results := by
  simp only [map_eq_ok_iff, alone]
  constructor
  · rintro ⟨values, ⟨value, read, rfl⟩, rfl⟩
    exact ⟨change value, ⟨value, read, rfl⟩, rfl⟩
  · rintro ⟨result, ⟨value, read, rfl⟩, rfl⟩
    exact ⟨[value], ⟨value, read, rfl⟩, rfl⟩

theorem mapM_eq_ok_iff {read : α → Except ε β} {parts : List α} {results : List β} :
    parts.mapM read = .ok results ↔ List.Forall₂ (fun part result => read part = .ok result) parts results := by
  induction parts generalizing results with
  | nil =>
    constructor
    · intro outcome
      cases outcome
      exact .nil
    · intro outcome
      cases outcome
      rfl
  | cons part parts ih =>
    rw [List.mapM_cons]
    constructor
    · intro all
      obtain ⟨first, read, all⟩ := bind_eq_ok all
      obtain ⟨others, each, all⟩ := bind_eq_ok all
      cases all
      exact .cons read (ih.1 each)
    · intro all
      obtain ⟨first, others, read, each, rfl⟩ := List.forall₂_cons_left_iff.1 all
      rw [read, ih.2 each]
      rfl

/-- Every result of a list of readings was read from one of its parts. -/
theorem mem_of_mapM_eq_ok {read : α → Except ε β} {parts : List α} {results : List β}
    (all : parts.mapM read = .ok results) {result : β} (here : result ∈ results) :
    ∃ part ∈ parts, read part = .ok result := by
  induction parts generalizing results with
  | nil =>
    cases all
    cases here
  | cons part parts ih =>
    rw [List.mapM_cons] at all
    obtain ⟨first, firstRead, all⟩ := bind_eq_ok all
    obtain ⟨others, othersRead, all⟩ := bind_eq_ok all
    cases all
    rcases List.mem_cons.1 here with same | later
    · exact ⟨part, List.mem_cons_self, same ▸ firstRead⟩
    · obtain ⟨origin, member, found⟩ := ih othersRead later
      exact ⟨origin, List.mem_cons_of_mem _ member, found⟩

theorem mapM_eq_ok_map {read : α → Except ε β} {value : α → β} {parts : List α}
    (each : ∀ part ∈ parts, read part = .ok (value part)) : parts.mapM read = .ok (parts.map value) := by
  induction parts with
  | nil => rfl
  | cons part parts ih =>
    have first := each part List.mem_cons_self
    have others := ih fun other member => each other (List.mem_cons_of_mem _ member)
    rw [List.mapM_cons, first, others]
    rfl

theorem mapM_map_eq_ok {read : α → Except ε β} {write : β → α} {values : List β}
    (back : ∀ value ∈ values, read (write value) = .ok value) :
    (values.map write).mapM read = .ok values := by
  have all : values.mapM (read ∘ write) = .ok (values.map id) := mapM_eq_ok_map back
  rwa [List.map_id, ← List.mapM_map] at all

theorem mapM_congr {read other : α → Except ε β} {parts : List α}
    (same : ∀ part ∈ parts, read part = other part) : parts.mapM read = parts.mapM other := by
  induction parts with
  | nil => rfl
  | cons part parts ih =>
    have later := ih fun next here => same next (List.mem_cons_of_mem _ here)
    rw [List.mapM_cons, List.mapM_cons, same part List.mem_cons_self, later]

theorem mapM_eq_self_iff {read : α → Except ε α} {parts : List α} :
    parts.mapM read = .ok parts ↔ ∀ part ∈ parts, read part = .ok part := by
  constructor
  · intro all
    induction parts with
    | nil => simp
    | cons part parts ih =>
      rw [List.mapM_cons] at all
      obtain ⟨first, firstRead, all⟩ := bind_eq_ok all
      obtain ⟨others, othersRead, all⟩ := bind_eq_ok all
      obtain ⟨rfl, rfl⟩ := List.cons.inj (Except.ok.inj all)
      exact List.forall_mem_cons.2 ⟨firstRead, ih othersRead⟩
  · intro each
    have back : (parts.map id).mapM read = .ok parts := mapM_map_eq_ok each
    rwa [List.map_id] at back

theorem length_of_mapM_eq_ok {read : α → Except ε β} {parts : List α} {results : List β}
    (all : parts.mapM read = .ok results) : results.length = parts.length :=
  (mapM_eq_ok_iff.1 all).length_eq.symm

/-! The same for readings that give no reason when they fail. -/

theorem mapM_eq_some_iff {read : α → Option β} {parts : List α} {results : List β} :
    parts.mapM read = some results ↔ List.Forall₂ (fun part result => read part = some result) parts results := by
  induction parts generalizing results with
  | nil => simp [eq_comm]
  | cons part parts ih =>
    simp only [List.mapM_cons, Option.bind_eq_bind, Option.bind_eq_some_iff, List.forall₂_cons_left_iff, ih,
      Option.pure_def, Option.some.injEq]
    constructor
    · rintro ⟨first, read, others, each, rfl⟩
      exact ⟨first, others, read, each, rfl⟩
    · rintro ⟨first, others, read, each, rfl⟩
      exact ⟨first, read, others, each, rfl⟩

theorem mapM_map_eq_some {read : α → Option β} {write : β → α} {values : List β}
    (back : ∀ value ∈ values, read (write value) = some value) :
    (values.map write).mapM read = some values := by
  induction values with
  | nil => rfl
  | cons value values ih =>
    have first := back value List.mem_cons_self
    have others := ih fun other member => back other (List.mem_cons_of_mem _ member)
    rw [List.map_cons, List.mapM_cons, first, others]
    rfl

theorem length_of_mapM_eq_some {read : α → Option β} {parts : List α} {results : List β}
    (all : parts.mapM read = some results) : results.length = parts.length :=
  (mapM_eq_some_iff.1 all).length_eq.symm

theorem foldlM_invariant {step : α → β → Except ε α} (holds : α → Prop) {tokens : List β}
    {start last : α} (kept : ∀ state token next, holds state → step state token = .ok next → holds next)
    (run : tokens.foldlM step start = .ok last) (initially : holds start) : holds last := by
  induction tokens generalizing start with
  | nil =>
    cases run
    exact initially
  | cons token tokens ih =>
    rw [List.foldlM_cons] at run
    obtain ⟨next, stepped, run⟩ := bind_eq_ok run
    exact ih run (kept start token next initially stepped)

/-- A run over tokens, each of which stands for a value that the state takes in. -/
theorem foldlM_eq_ok_iff {step : α → β → Except ε α} {reads : β → γ → Prop} {take : α → γ → α}
    (each : ∀ state token next, step state token = .ok next ↔
      ∃ value, reads token value ∧ next = take state value)
    {tokens : List β} {start last : α} :
    tokens.foldlM step start = .ok last ↔
      ∃ values, List.Forall₂ reads tokens values ∧ last = values.foldl take start := by
  induction tokens generalizing start with
  | nil =>
    constructor
    · intro run
      cases run
      exact ⟨[], .nil, rfl⟩
    · rintro ⟨values, each, rfl⟩
      cases each
      rfl
  | cons token tokens ih =>
    rw [List.foldlM_cons]
    constructor
    · intro run
      obtain ⟨next, stepped, run⟩ := bind_eq_ok run
      obtain ⟨value, read, rfl⟩ := (each _ _ _).1 stepped
      obtain ⟨values, others, rfl⟩ := ih.1 run
      exact ⟨value :: values, .cons read others, rfl⟩
    · rintro ⟨all, spelled, rfl⟩
      obtain ⟨value, values, read, others, rfl⟩ := List.forall₂_cons_left_iff.1 spelled
      rw [(each start token _).2 ⟨value, read, rfl⟩]
      exact ih.2 ⟨values, others, rfl⟩

end NetProfile.Reading
