/-
# Flattened objects

The members of a combination are asked for with the names that have been emitted, and leave these
out by themselves.  What they would come to without those names is said here of expressions alone.

* `Entries.firsts` keeps the first entry of each name; merging comes to that, whatever has been left
  out of the members before (`Merge.properties_foldl_addProperty`).
* `Expression.without` leaves names out of every object that an expression can come to at its own
  place.  It goes through all that members are put together with: `null` beside an expression,
  properties in front of a variant, and a choice.
-/
import SchemaMock.Proofs.MockOrder
import SchemaMock.Proofs.Names

namespace SchemaMock

/-! ## 1. First entries -/

namespace Entries

variable {α : Type}

/-- The first entry of each name, in their order. -/
def firsts : Entries α → Entries α
  | [] => []
  | e :: rest => e :: (firsts rest).filter fun later => later.1 != e.1

/-- The entries but those of some names. -/
def without (names : List String) (entries : Entries α) : Entries α :=
  entries.filter fun e => !names.contains e.1

theorem mem_without {names : List String} {entries : Entries α} {e : String × α} :
    e ∈ without names entries ↔ e ∈ entries ∧ e.1 ∉ names := by
  simp [without]

theorem without_cons_of_mem {names : List String} {e : String × α} (h : e.1 ∈ names)
    (rest : Entries α) : without names (e :: rest) = without names rest :=
  List.filter_cons_of_neg (by simpa using h)

theorem without_cons_of_notMem {names : List String} {e : String × α} (h : e.1 ∉ names)
    (rest : Entries α) : without names (e :: rest) = e :: without names rest :=
  List.filter_cons_of_pos (by simpa using h)

theorem without_append (names : List String) (entries entries' : Entries α) :
    without names (entries ++ entries') = without names entries ++ without names entries' :=
  List.filter_append entries entries'

/-- More names, which no entry has, change nothing. -/
theorem without_congr {names names' : List String} {entries : Entries α}
    (h : ∀ e ∈ entries, e.1 ∈ names ↔ e.1 ∈ names') :
    without names entries = without names' entries := by
  refine List.filter_congr fun e he => ?_
  rw [Bool.not_inj_iff, Bool.eq_iff_iff, List.contains_iff_mem, List.contains_iff_mem]
  exact h e he

/-- One name that is left out before. -/
theorem without_filter_ne (names : List String) (key : String) (entries : Entries α) :
    without names (entries.filter fun e => e.1 != key) = without (names ++ [key]) entries := by
  rw [without, without, List.filter_filter]
  refine List.filter_congr fun e _ => ?_
  by_cases hsame : e.1 = key
  · simp [hsame]
  · simp [hsame]

/-- Names that are left out once more. -/
theorem without_without {names more : List String} (h : names ⊆ more) (entries : Entries α) :
    without more (without names entries) = without more entries := by
  rw [without, without, List.filter_filter]
  refine List.filter_congr fun e _ => ?_
  by_cases hmem : e.1 ∈ names
  · simp [hmem, h hmem]
  · simp [hmem]

end Entries

/-! ## 2. Merging -/

namespace Merge

open Entries (firsts without)

theorem emitted_subset_addProperty (merge : Merge) (property : String × Expression) :
    merge.emitted ⊆ (merge.addProperty property).emitted := by
  rw [addProperty]
  split
  · exact List.Subset.refl _
  · exact List.subset_append_left _ _

theorem addProperty_of_mem {merge : Merge} {property : String × Expression}
    (h : property.1 ∈ merge.emitted) : merge.addProperty property = merge := by
  rw [addProperty, if_pos (by simpa using h)]

/-- Properties whose names have been emitted can be left out before they are merged. -/
theorem foldl_addProperty_without {names : List String} {properties : Entries Expression}
    {merge : Merge} (h : names ⊆ merge.emitted) :
    (without names properties).foldl addProperty merge = properties.foldl addProperty merge := by
  induction properties generalizing merge with
  | nil => rfl
  | cons e rest ih =>
    by_cases hmem : e.1 ∈ names
    · rw [Entries.without_cons_of_mem hmem, List.foldl_cons, addProperty_of_mem (h hmem)]
      exact ih h
    · rw [Entries.without_cons_of_notMem hmem, List.foldl_cons, List.foldl_cons]
      exact ih (List.Subset.trans h (emitted_subset_addProperty merge e))

/-- **Merging keeps the first property of each name**, if the name had not been emitted before. -/
theorem properties_foldl_addProperty (properties : Entries Expression) (merge : Merge) :
    (properties.foldl addProperty merge).properties
      = merge.properties ++ without merge.emitted (firsts properties) := by
  induction properties generalizing merge with
  | nil => simp [firsts, without]
  | cons e rest ih =>
    rw [List.foldl_cons, ih, firsts]
    by_cases hmem : e.1 ∈ merge.emitted
    · have hsame : without (merge.emitted ++ [e.1]) (firsts rest)
          = without merge.emitted (firsts rest) := by
        refine Entries.without_congr fun later _ => ?_
        rw [List.mem_append, List.mem_singleton]
        exact ⟨fun h => h.elim id fun heq => heq ▸ hmem, Or.inl⟩
      rw [addProperty_of_mem hmem, Entries.without_cons_of_mem hmem, Entries.without_filter_ne,
        hsame]
    · rw [Entries.without_cons_of_notMem hmem, Entries.without_filter_ne, addProperty,
        if_neg (by simpa using hmem), List.append_assoc, List.singleton_append]

/-- Entries of different names in front of others: both are merged one after the other. -/
theorem without_firsts_append {own : Entries Expression} (hdiffer : (Entries.keys own).Nodup)
    (emitted : List String) (entries : Entries Expression) :
    without emitted (firsts (own ++ entries))
      = without emitted own
        ++ without (emitted ++ Entries.keys (without emitted own)) (firsts entries) := by
  have hown : own.foldl addProperty ⟨emitted, [], none, []⟩
      = ⟨emitted ++ Entries.keys (without emitted own), without emitted own, none, []⟩ :=
    foldl_addProperty_eq hdiffer _
  have hall := properties_foldl_addProperty (own ++ entries) ⟨emitted, [], none, []⟩
  rw [List.foldl_append, hown, properties_foldl_addProperty] at hall
  exact hall.symm

theorem other_foldl_addProperty (properties : Entries Expression) (merge : Merge) :
    (properties.foldl addProperty merge).other = merge.other := by
  induction properties generalizing merge with
  | nil => rfl
  | cons e rest ih =>
    rw [List.foldl_cons, ih, addProperty]
    split <;> rfl

end Merge

/-! ## 3. Names left out of expressions -/

namespace Expression

/-- The expression without properties of some names in the objects that it can come to at its own
place. -/
def without (names : List String) : Expression → Expression
  | .object properties => .object (Entries.without names properties)
  | .oneOf choices => .oneOf (choices.map (without names))
  | e => e

variable {names : List String}

theorem without_object (properties : Entries Expression) :
    (object properties).without names = .object (Entries.without names properties) := by
  rw [without]

theorem without_oneOf (choices : List Expression) :
    (oneOf choices).without names = .oneOf (choices.map (without names)) := by
  rw [without]

theorem without_primitive (text : String) : (primitive text).without names = .primitive text := by
  rw [without] <;> exact nofun

theorem without_null : null.without names = .null := by
  rw [without] <;> exact nofun

theorem without_undefined : undefined.without names = .undefined := by
  rw [without] <;> exact nofun

theorem without_array (item : Expression) (min max : UInt64) :
    (array item min max).without names = .array item min max := by
  rw [without] <;> exact nofun

theorem without_orNull (e : Expression) (nullable : Bool) :
    (e.orNull nullable).without names = (e.without names).orNull nullable := by
  rw [orNull, orNull]
  split
  · simp only [without_oneOf, List.map_cons, List.map_nil, without_null]
  · rfl

/-- What is taken out of an expression loses the names too. -/
theorem properties?_without {e : Expression} {properties : Entries Expression}
    (h : e.properties? = some properties) :
    (e.without names).properties? = some (Entries.without names properties) := by
  rcases eq_of_properties? h with rfl | rfl
  · rw [without_object]
    rfl
  · rw [without_oneOf, List.map_cons, List.map_cons, List.map_nil, without_object, without_null]
    rfl

/-- Names that are avoided can be left out for nothing. -/
theorem without_append_of_avoids {more : List String} {e : Expression} (h : e.Avoids more) :
    e.without (names ++ more) = e.without names := by
  induction e using without.induct with
  | case1 properties =>
    rw [without_object, without_object]
    refine congrArg _ (Entries.without_congr fun property hproperty => ?_)
    have hnot := avoids_object.mp h property.1 (List.mem_map_of_mem hproperty)
    rw [List.mem_append]
    exact ⟨fun hmem => hmem.resolve_right hnot, Or.inl⟩
  | case2 choices ih =>
    rw [without_oneOf, without_oneOf]
    exact congrArg _ (List.map_congr_left fun e he => ih e he (avoids_oneOf.mp h e he))
  | case3 e hobject honeOf =>
    rw [without, without] <;> assumption

/-- A variant behind the properties beside its combinator, none of whose names it has. -/
theorem without_behind {own : Entries Expression} {e : Expression}
    (h : e.Avoids (Entries.keys own)) :
    (e.behind own).without names
      = (e.without (names ++ Entries.keys (Entries.without names own))).behind
          (Entries.without names own) := by
  have hkeys : Entries.keys (Entries.without names own) ⊆ Entries.keys own :=
    List.map_subset _ (List.filter_subset_self own)
  rw [without_append_of_avoids (h.mono hkeys)]
  cases e with
  | object properties =>
    rw [behind, without_object, without_object, behind, Entries.without_append]
  | oneOf choices =>
    rw [without_oneOf]
    exact without_oneOf choices
  | primitive text =>
    rw [without_primitive]
    exact without_primitive text
  | null =>
    rw [without_null]
    exact without_null
  | undefined =>
    rw [without_undefined]
    exact without_undefined
  | array item min max =>
    rw [without_array]
    exact without_array item min max

theorem without_chosen (own : Entries Expression) (choices : List Expression) :
    (chosen own choices).without names
      = chosen (Entries.without names own) (choices.map (without names)) := by
  match choices with
  | [] => exact without_object own
  | [e] => rfl
  | first :: second :: rest => exact without_oneOf _

end Expression

end SchemaMock
