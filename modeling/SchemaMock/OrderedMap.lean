/-
# Tables that remember the order in which their keys first came

The order of a table is part of what it says: override rules are tried in it, documents are listed
in it and properties are written in it.  A table is therefore a list of named entries.  `put` is the
only way an entry gets in, and it gives the rule for a name that comes again: the name keeps its
first place and takes the last value.

Two layers.  `Entries` are bare lists, for trees whose members are lists of their own accord;
`OrderedMap` carries the proof that no name comes twice, for the tables that the library builds
itself.
-/
namespace SchemaMock

universe u v

/-! ## 1. Named entries -/

/-- Named values, in the order in which they are told. -/
abbrev Entries (α : Type u) := List (String × α)

namespace Entries

variable {α : Type u} {β : Type v}

/-- The value under `key`; of entries with one name the first counts. -/
def get? (key : String) : Entries α → Option α
  | [] => none
  | (k, a) :: rest => if k = key then some a else get? key rest

/-- The table with `value` under `key`: a known name keeps its place, a new one goes to the end. -/
def put (key : String) (value : α) : Entries α → Entries α
  | [] => [(key, value)]
  | (k, a) :: rest => if k = key then (key, value) :: rest else (k, a) :: put key value rest

/-- The names, in order. -/
def keys (entries : Entries α) : List String := entries.map Prod.fst

/-- The entries put one after another into `table`. -/
def putAll (table : Entries α) (entries : Entries α) : Entries α :=
  entries.foldl (fun t e => put e.1 e.2 t) table

theorem mem_keys_put {key k : String} {value : α} {entries : Entries α} :
    k ∈ keys (put key value entries) ↔ k = key ∨ k ∈ keys entries := by
  induction entries with
  | nil => simp [put, keys]
  | cons e rest ih =>
    obtain ⟨k', a⟩ := e
    simp only [put, keys] at ih ⊢
    split
    · next h => subst h; simp
    · simp only [List.map_cons, List.mem_cons, ih]
      constructor
      · rintro (h | h | h) <;> simp [h]
      · rintro (h | h | h) <;> simp [h]

theorem nodup_keys_put {key : String} {value : α} {entries : Entries α}
    (h : (keys entries).Nodup) : (keys (put key value entries)).Nodup := by
  induction entries with
  | nil => simp [put, keys]
  | cons e rest ih =>
    obtain ⟨k', a⟩ := e
    have h' : k' ∉ keys rest ∧ (keys rest).Nodup := List.nodup_cons.mp h
    unfold put
    split
    · next heq => subst heq; exact List.nodup_cons.mpr h'
    · next hne =>
      refine List.nodup_cons.mpr ⟨?_, ih h'.2⟩
      intro hm
      rcases mem_keys_put.mp hm with hk | hk
      · exact hne hk
      · exact h'.1 hk

theorem get?_put_self {key : String} {value : α} {entries : Entries α} :
    get? key (put key value entries) = some value := by
  induction entries with
  | nil => simp [put, get?]
  | cons e rest ih =>
    obtain ⟨k', a⟩ := e
    unfold put
    split
    · simp [get?]
    · next hne => simp [get?, hne, ih]

theorem get?_put_of_ne {key k : String} {value : α} {entries : Entries α} (h : k ≠ key) :
    get? k (put key value entries) = get? k entries := by
  induction entries with
  | nil => simp [put, get?, Ne.symm h]
  | cons e rest ih =>
    obtain ⟨k', a⟩ := e
    unfold put
    split
    · next heq => subst heq; simp [get?, Ne.symm h]
    · simp [get?, ih]

theorem mem_of_get? {key : String} {value : α} : ∀ {entries : Entries α},
    get? key entries = some value → (key, value) ∈ entries
  | (k, a) :: rest, h => by
    unfold get? at h
    split at h
    · next hk =>
      cases h
      rw [hk]
      exact List.mem_cons_self
    · exact List.mem_cons_of_mem _ (mem_of_get? h)

/-- Among entries without repetition every one is found. -/
theorem get?_of_mem {key : String} {value : α} {entries : Entries α} (h : (keys entries).Nodup)
    (hmem : (key, value) ∈ entries) : get? key entries = some value := by
  induction entries with
  | nil => cases hmem
  | cons e rest ih =>
    obtain ⟨k, a⟩ := e
    obtain ⟨hfresh, hrest⟩ : k ∉ keys rest ∧ (keys rest).Nodup := List.nodup_cons.mp h
    rw [get?]
    rcases List.mem_cons.mp hmem with heq | hmem
    · cases heq
      exact if_pos rfl
    · have hne : k ≠ key := by
        rintro rfl
        exact hfresh (List.mem_map_of_mem hmem)
      rw [if_neg hne]
      exact ih hrest hmem

theorem get?_eq_some_iff {key : String} {value : α} {entries : Entries α}
    (h : (keys entries).Nodup) : get? key entries = some value ↔ (key, value) ∈ entries :=
  ⟨mem_of_get?, get?_of_mem h⟩

theorem get?_eq_none_iff {key : String} {entries : Entries α} :
    get? key entries = none ↔ key ∉ keys entries := by
  induction entries with
  | nil => simp [get?, keys]
  | cons e rest ih =>
    obtain ⟨k, a⟩ := e
    rw [get?]
    split
    · next h => simp [keys, h]
    · next h =>
      rw [ih]
      simp [keys, Ne.symm h]

/-- A new name goes to the end. -/
theorem put_of_get?_eq_none {key : String} (value : α) : ∀ {entries : Entries α},
    get? key entries = none → put key value entries = entries ++ [(key, value)]
  | [], _ => rfl
  | (k, a) :: rest, h => by
    rw [get?] at h
    rw [put]
    split at h
    · cases h
    · next hne => rw [if_neg hne, put_of_get?_eq_none value h, List.cons_append]

/-- Among entries without repetition it does not matter where an entry stands. -/
theorem get?_perm {entries entries' : Entries α} (h : (keys entries).Nodup)
    (hperm : entries.Perm entries') (key : String) : get? key entries = get? key entries' := by
  have h' : (keys entries').Nodup := (hperm.map Prod.fst).nodup_iff.mp h
  refine Option.ext fun value => ?_
  rw [get?_eq_some_iff h, get?_eq_some_iff h', hperm.mem_iff]

end Entries

/-! ## 2. Tables without repetition -/

/-- A table in which no name comes twice. -/
structure OrderedMap (α : Type u) where
  /-- The entries, in the order in which their names first came. -/
  entries : Entries α
  /-- No name comes twice. -/
  nodup : (Entries.keys entries).Nodup

namespace OrderedMap

variable {α : Type u} {β : Type v}

/-- The table without entries. -/
def empty : OrderedMap α := ⟨[], List.nodup_nil⟩

instance : Inhabited (OrderedMap α) := ⟨empty⟩

instance : EmptyCollection (OrderedMap α) := ⟨empty⟩

/-- The value under `key`. -/
def get? (m : OrderedMap α) (key : String) : Option α := Entries.get? key m.entries

/-- Whether the table has an entry under `key`. -/
def contains (m : OrderedMap α) (key : String) : Bool := (m.get? key).isSome

/-- The names, in order. -/
def keys (m : OrderedMap α) : List String := Entries.keys m.entries

/-- The table with `value` under `key`: a known name keeps its place. -/
def put (m : OrderedMap α) (key : String) (value : α) : OrderedMap α :=
  ⟨Entries.put key value m.entries, Entries.nodup_keys_put m.nodup⟩

/-- The table of a list of entries, put in one after another. -/
def ofList (entries : Entries α) : OrderedMap α :=
  entries.foldl (fun m e => m.put e.1 e.2) empty

/-- Every value replaced, names and order kept. -/
def map (f : α → β) (m : OrderedMap α) : OrderedMap β where
  entries := m.entries.map fun e => (e.1, f e.2)
  nodup := by
    have h := m.nodup
    simpa [Entries.keys, List.map_map, Function.comp_def] using h

/-- New names with their values stand behind those of the table, in order. -/
theorem entries_foldl_put {entries : Entries α} {m : OrderedMap α}
    (h : (Entries.keys (m.entries ++ entries)).Nodup) :
    (entries.foldl (fun m e => m.put e.1 e.2) m).entries = m.entries ++ entries := by
  induction entries generalizing m with
  | nil => exact (List.append_nil _).symm
  | cons e rest ih =>
    obtain ⟨key, value⟩ := e
    have hfresh : Entries.get? key m.entries = none := by
      refine Entries.get?_eq_none_iff.mpr fun hmem => ?_
      rw [Entries.keys, List.map_append] at h
      exact (List.nodup_append.mp h).2.2 key hmem key List.mem_cons_self rfl
    have hput : (m.put key value).entries = m.entries ++ [(key, value)] :=
      Entries.put_of_get?_eq_none value hfresh
    have hassoc : m.entries ++ (key, value) :: rest = (m.put key value).entries ++ rest := by
      rw [hput, List.append_assoc, List.singleton_append]
    rw [hassoc] at h ⊢
    exact ih h

theorem eq_of_entries_eq {m m' : OrderedMap α} (h : m.entries = m'.entries) : m = m' := by
  cases m
  cases m'
  cases h
  rfl

/-- A table is made again of its entries. -/
theorem ofList_entries (m : OrderedMap α) : ofList m.entries = m :=
  eq_of_entries_eq (entries_foldl_put (m := empty) m.nodup)

end OrderedMap

end SchemaMock
