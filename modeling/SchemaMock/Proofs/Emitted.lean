/-
# Emitted names

A combination tells its members the names that have been emitted: those that it was told itself, and
those of the properties beside it.  Whatever a member comes to then, at its own place, has none of
these names (`resolver_avoids`).

Nothing is asked of the documents for this.  A name may be left out of a member although nobody has
put it anywhere; what becomes of such names is not said here.
-/
import SchemaMock.Proofs.Answers
import SchemaMock.Proofs.Expressions

namespace SchemaMock

open Resolve (Gives)

/-! ## 1. Expressions without some names -/

namespace Expression

/-- No object that an expression can come to at its own place has one of some names. -/
def Avoids (names : List String) (e : Expression) : Prop :=
  ∀ properties, Alternative (.object properties) e →
    ∀ key ∈ properties.map Prod.fst, key ∉ names

section Avoids

variable {names : List String}

theorem avoids_object {properties : List (String × Expression)} :
    Avoids names (.object properties) ↔ ∀ key ∈ properties.map Prod.fst, key ∉ names := by
  simp only [Avoids, alternative_object_iff, forall_eq]

theorem avoids_oneOf {choices : List Expression} :
    Avoids names (.oneOf choices) ↔ ∀ e ∈ choices, Avoids names e := by
  constructor
  · exact fun h e he properties halternative => h properties (.choice he halternative)
  · intro h properties halternative
    obtain ⟨e, he, halternative⟩ := alternative_oneOf_iff.mp halternative
    exact h e he properties halternative

theorem avoids_primitive {text : String} : Avoids names (.primitive text) := nofun

theorem avoids_null : Avoids names .null := nofun

theorem avoids_array {item : Expression} {min max : UInt64} :
    Avoids names (.array item min max) := nofun

theorem Avoids.mono {more : List String} {e : Expression} (h : Avoids more e)
    (hsubset : names ⊆ more) : Avoids names e :=
  fun properties halternative key hkey hmem => h properties halternative key hkey (hsubset hmem)

theorem Avoids.orNull {e : Expression} (h : Avoids names e) (nullable : Bool) :
    Avoids names (e.orNull nullable) :=
  fun properties halternative => h properties (alternative_orNull_iff.mp halternative)

/-- What is taken out of an expression has none of the names. -/
theorem Avoids.of_properties? {e : Expression} {properties : List (String × Expression)}
    (h : Avoids names e) (heq : e.properties? = some properties) :
    ∀ key ∈ properties.map Prod.fst, key ∉ names :=
  h properties ((alternative_iff_of_properties? heq).mpr rfl)

variable {own : List (String × Expression)}

theorem Avoids.behind (hown : Avoids names (.object own)) {e : Expression} (h : Avoids names e) :
    Avoids names (e.behind own) := by
  cases e with
  | object properties =>
    refine avoids_object.mpr fun key hkey => ?_
    rw [List.map_append] at hkey
    rcases List.mem_append.mp hkey with hkey | hkey
    · exact avoids_object.mp hown key hkey
    · exact avoids_object.mp h key hkey
  | primitive | null | undefined | oneOf | array => exact h

theorem Avoids.chosen (hown : Avoids names (.object own)) {choices : List Expression}
    (h : ∀ e ∈ choices, Avoids names e) : Avoids names (.chosen own choices) := by
  match choices, h with
  | [], _ => exact hown
  | [e], h => exact h e List.mem_cons_self
  | first :: second :: rest, h => exact avoids_oneOf.mpr h

/-- A schema without parts is no object. -/
theorem avoids_plainSchema (settings : Settings) (keywords : Keywords) :
    Avoids names (PlainSchema.expression settings keywords) := by
  rcases PlainSchema.expression_cases settings keywords with h | ⟨text, h, -⟩
  · rw [h]
    exact avoids_null
  · rw [h]
    exact avoids_primitive

end Avoids

end Expression

open Expression (Avoids avoids_object avoids_primitive avoids_array avoids_plainSchema)

/-! ## 2. What is put together -/

theorem keys_ownProperties (settings : Settings) (required : List String) (mocks : Entries Mock) :
    Entries.keys (ownProperties settings required mocks) = Entries.keys mocks := by
  rw [Entries.keys, ownProperties, List.map_map]
  rfl

/-- Members are merged without some names: the merged object has none of them, nor has the last
member that was no object. -/
structure Merge.Avoids (names : List String) (merge : Merge) : Prop where
  subset : names ⊆ merge.emitted
  object : Expression.Avoids names (.object merge.properties)
  other : ∀ e, merge.other = some e → Expression.Avoids names e

namespace Merge.Avoids

variable {names : List String} {merge : Merge}

/-- Only names that have not been emitted are put in. -/
theorem addProperty (h : merge.Avoids names) (property : String × Expression) :
    (merge.addProperty property).Avoids names := by
  rw [Merge.addProperty]
  split
  · exact h
  · next hemitted =>
    have hnew : property.1 ∉ merge.emitted := by simpa using hemitted
    refine ⟨List.subset_append_of_subset_left _ h.subset, ?_, h.other⟩
    refine avoids_object.mpr fun key hkey => ?_
    rw [List.map_append] at hkey
    rcases List.mem_append.mp hkey with hkey | hkey
    · exact avoids_object.mp h.object key hkey
    · rw [List.mem_singleton.mp hkey]
      exact fun hmem => hnew (h.subset hmem)

theorem addMember (h : merge.Avoids names) {mock : Mock}
    (hmock : mock.expression.Avoids names) : (merge.addMember mock).Avoids names := by
  refine Merge.addMember_invariant ⟨h.subset, h.object, h.other⟩ ?_ ?_
  · exact fun _ _ property _ m hm => hm.addProperty property
  · intro m hm
    refine ⟨hm.subset, hm.object, fun e he => ?_⟩
    rw [← Option.some.inj he]
    exact hmock

theorem expression (h : merge.Avoids names) : merge.expression.Avoids names := by
  rcases merge.expression_cases with hother | hproperties
  · exact h.other _ hother
  · rw [hproperties]
    exact h.object

end Merge.Avoids

/-! ## 3. The resolution -/

section Layers

variable {ask : Resolver} {env : Environment} {membership : Option Membership}
  {placed : PlacedSchema} {mock : Mock}

/-- The properties of a schema make an object without the names that had been emitted. -/
theorem avoids_own {emitted : List String} {site : Site} {properties : List (String × Schema)}
    {mocks : List (String × Mock)} (settings : Settings) (required : List String)
    (hmocks : AnswersProperties ask env emitted site properties mocks) :
    Avoids emitted (.object (ownProperties settings required mocks)) := by
  refine avoids_object.mpr fun key hkey => ?_
  have hkey : key ∈ Entries.keys (ownProperties settings required mocks) := hkey
  rw [keys_ownProperties, Entries.keys, hmocks.names_eq] at hkey
  obtain ⟨property, hproperty, rfl⟩ := List.mem_map.mp hkey
  simpa using (List.mem_filter.mp hproperty).2

variable (hask : ∀ env membership placed mock, (ask env membership placed).Gives mock →
  mock.expression.Avoids (emittedNames membership))

include hask

theorem avoids_of_makesOfParts (h : MakesOfParts ask env membership placed mock) :
    mock.expression.Avoids (emittedNames membership) := by
  cases h with
  | named | listed => exact avoids_primitive.orNull _
  | plain => exact (avoids_plainSchema _ _).orNull _
  | array => exact avoids_array.orNull _
  | object hmocks => exact (avoids_own _ _ hmocks).orNull _
  | merged hmocks hown hmerge =>
    have hobject := hown ▸ avoids_own _ _ hmocks
    refine (Merge.Avoids.expression ?_).orNull _
    refine hmerge.invariant (I := Merge.Avoids (emittedNames membership)) ?_ ?_
    · exact ⟨List.subset_append_left _ _, hobject, nofun⟩
    · exact fun _ _ _ _ hm hgives => hm.addMember ((hask _ _ _ _ hgives).mono hm.subset)
  | chosen _ hmocks hown hvariants =>
    have hobject := hown ▸ avoids_own _ _ hmocks
    refine (hobject.chosen fun e he => ?_).orNull _
    obtain ⟨variant, hvariant, rfl⟩ := List.mem_map.mp he
    obtain ⟨member, -, hgives⟩ := hvariants.gives variant hvariant
    exact hobject.behind ((hask _ _ _ _ hgives).mono (List.subset_append_left _ _))

theorem avoids_of_makes (h : Makes ask env membership placed mock) :
    mock.expression.Avoids (emittedNames membership) := by
  cases h with
  | asked h => exact hask _ _ _ _ h
  | overridden | constant => exact avoids_primitive.orNull _
  | made _ _ _ h => exact avoids_of_makesOfParts hask h

end Layers

/-- **What had been emitted is not emitted again**, at the place of a schema, by whatever it is
resolved to. -/
theorem resolver_avoids {env : Environment} {membership : Option Membership}
    {placed : PlacedSchema} {mock : Mock} (h : (resolver env membership placed).Gives mock) :
    mock.expression.Avoids (emittedNames membership) := by
  refine resolver_induction (P := fun _ membership _ mock =>
    mock.expression.Avoids (emittedNames membership)) ?_ ?_ ?_ h
  · intro env membership placed mock h
    rw [Schema.expression_typed]
    exact h
  · exact fun h => h
  · exact fun hask => avoids_of_makes hask

end SchemaMock
