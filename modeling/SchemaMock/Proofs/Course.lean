/-
# The course of a resolution

While a schema is resolved, others are: its parts, and what its references lead to.  `Question.Asks`
says which, with the names that have been emitted by then, and the course of a question is what it
asks, what that asks, and so on.  So one can point to a schema that is resolved on the way, which
the mock in the end need not tell.

* A question has one answer at most, and so have the properties and the members that a combination
  asks for, in turn (`AnswersProperties.unique`, `MembersInTurn.unique`).
* If a question has an answer, then so has what it asks, and it has the imports of that answer among
  its own (`Question.Asks.answered`).  So it is with its course (`Question.answered_of_course`).
-/
import Mathlib.Logic.Relation
import SchemaMock.Proofs.Members

namespace SchemaMock

open Relation (ReflTransGen)
open Resolve (Gives)

/-! ## 1. Questions -/

/-- What the properties beside a combinator begin a merge with. -/
def Merge.begun (env : Environment) (membership : Option Membership) (keywords : Keywords)
    (mocks : List (String × Mock)) : Merge :=
  let own := ownProperties env.settings (Keywords.required keywords) mocks
  ⟨emittedNames membership ++ own.map Prod.fst, own, none, importsOf (mocks.map Prod.snd)⟩

/-- A schema at its site, with all that it is resolved with. -/
structure Question where
  env : Environment
  membership : Option Membership
  placed : PlacedSchema

namespace Question

/-- A question comes to a mock. -/
def Answer (q : Question) (mock : Mock) : Prop :=
  (resolver q.env q.membership q.placed).Gives mock

/-- Answering a question asks another one.  Nothing is asked about the parts of a schema that is
settled before it is looked into, nor about a property whose name has been emitted. -/
inductive Asks : Question → Question → Prop
  | target {env : Environment} {membership : Option Membership} {reference : String} {site : Site}
      {definition : Option String} (hfresh : (env.target reference).address ∉ env.chain) :
      Asks ⟨env, membership, ⟨.reference reference, site, definition⟩⟩
        ⟨env.inside reference, membership, env.followed reference site⟩
  | item {env : Environment} {membership : Option Membership} {keywords : Keywords}
      {items : Schema} {site : Site} {definition : Option String}
      (hunsettled : env.Unsettled ⟨.array keywords items, site, definition⟩) :
      Asks ⟨env, membership, ⟨.array keywords items, site, definition⟩⟩
        ⟨env, none, ⟨items, site.item, none⟩⟩
  | property {env : Environment} {membership : Option Membership} {keywords : Keywords}
      {properties : List (String × Schema)} {key : String} {schema : Schema} {site : Site}
      {definition : Option String}
      (hunsettled : env.Unsettled ⟨.object keywords properties, site, definition⟩)
      (hproperty : (key, schema) ∈ properties) (hnew : key ∉ emittedNames membership) :
      Asks ⟨env, membership, ⟨.object keywords properties, site, definition⟩⟩
        ⟨env, none, ⟨schema, site.property key, none⟩⟩
  /-- Properties beside a combinator come before the members. -/
  | beside {env : Environment} {membership : Option Membership} {keywords : Keywords}
      {combinator : Combinator} {properties : List (String × Schema)} {members : List Schema}
      {key : String} {schema : Schema} {site : Site} {definition : Option String}
      (hunsettled :
        env.Unsettled ⟨.combined keywords combinator properties members, site, definition⟩)
      (hproperty : (key, schema) ∈ properties) (hnew : key ∉ emittedNames membership) :
      Asks ⟨env, membership, ⟨.combined keywords combinator properties members, site, definition⟩⟩
        ⟨env, none, ⟨schema, site.property key, none⟩⟩
  /-- One of the members that hold all at once is told the names of the properties beside it and of
  the members before. -/
  | member {env : Environment} {membership : Option Membership} {keywords : Keywords}
      {properties : List (String × Schema)} {front behind : List Schema} {member : Schema}
      {site : Site} {definition : Option String} {mocks : List (String × Mock)}
      {earlier : List Mock}
      (hunsettled : env.Unsettled
        ⟨.combined keywords .allOf properties (front ++ member :: behind), site, definition⟩)
      (hmocks : AnswersProperties resolver env (emittedNames membership) site properties mocks)
      (hearlier : MembersInTurn resolver env site front (.begun env membership keywords mocks)
        earlier) :
      Asks ⟨env, membership,
          ⟨.combined keywords .allOf properties (front ++ member :: behind), site, definition⟩⟩
        ⟨env, some ⟨.allOf, (earlier.foldl Merge.addMember
          (.begun env membership keywords mocks)).emitted⟩, ⟨member, site, none⟩⟩
  /-- One of the members of which one holds is told the names of the properties beside it. -/
  | variant {env : Environment} {membership : Option Membership} {keywords : Keywords}
      {combinator : Combinator} {properties : List (String × Schema)} {members : List Schema}
      {member : Schema} {site : Site} {definition : Option String}
      (hcombinator : combinator ≠ .allOf)
      (hunsettled :
        env.Unsettled ⟨.combined keywords combinator properties members, site, definition⟩)
      (hmember : member ∈ members) :
      Asks ⟨env, membership, ⟨.combined keywords combinator properties members, site, definition⟩⟩
        ⟨env, some ⟨combinator, emittedNames membership
          ++ Entries.keys (Entries.without (emittedNames membership) properties)⟩,
          ⟨member, site, none⟩⟩

/-- What is asked in the course of answering a question, itself among it. -/
def Course : Question → Question → Prop := ReflTransGen Asks

end Question

/-! ## 2. One answer at most -/

section Unique

variable {env : Environment} {membership : Option Membership} {placed : PlacedSchema} {site : Site}

theorem resolver_unique {mock mock' : Mock} (h : (resolver env membership placed).Gives mock)
    (h' : (resolver env membership placed).Gives mock') : mock = mock' :=
  (settles_of_gives h).unique h'

theorem AnswersProperties.unique {emitted : List String} {properties : List (String × Schema)}
    {mocks mocks' : List (String × Mock)}
    (h : AnswersProperties resolver env emitted site properties mocks)
    (h' : AnswersProperties resolver env emitted site properties mocks') : mocks = mocks' := by
  refine List.right_unique_forall₂' ?_ h h'
  rintro property mock mock' ⟨hname, hgives⟩ ⟨hname', hgives'⟩
  exact Prod.ext (hname.symm.trans hname') (resolver_unique hgives hgives')

theorem MembersInTurn.unique {members : List Schema} {merge : Merge} {mocks mocks' : List Mock}
    (h : MembersInTurn resolver env site members merge mocks)
    (h' : MembersInTurn resolver env site members merge mocks') : mocks = mocks' := by
  induction h generalizing mocks' with
  | done =>
    cases h'
    rfl
  | member hmember _ ih =>
    cases h' with
    | member hmember' hrest' =>
      cases resolver_unique hmember hmember'
      rw [ih hrest']

end Unique

/-! ## 3. Parts of answers -/

section Parts

variable {ask : Resolver} {env : Environment} {site : Site}

/-- A property whose name has not been emitted has an answer. -/
theorem AnswersProperties.answer_of_mem {emitted : List String}
    {properties : List (String × Schema)} {mocks : List (String × Mock)} {key : String}
    {schema : Schema} (h : AnswersProperties ask env emitted site properties mocks)
    (hproperty : (key, schema) ∈ properties) (hnew : key ∉ emitted) :
    ∃ mock ∈ mocks.map Prod.snd, (ask env none ⟨schema, site.property key, none⟩).Gives mock := by
  have hmem : (key, schema) ∈ properties.filter fun property => !emitted.contains property.1 :=
    List.mem_filter.mpr ⟨hproperty, by simpa using hnew⟩
  obtain ⟨named, hnamed, -, hgives⟩ := exists_of_forall₂ h.flip hmem
  exact ⟨named.2, List.mem_map_of_mem hnamed, hgives⟩

/-- An answer is about a property whose name has not been emitted. -/
theorem AnswersProperties.property_of_mem {emitted : List String}
    {properties : List (String × Schema)} {mocks : List (String × Mock)} {mock : Mock}
    (h : AnswersProperties ask env emitted site properties mocks)
    (hmock : mock ∈ mocks.map Prod.snd) :
    ∃ key schema, (key, schema) ∈ properties ∧ key ∉ emitted ∧
      (ask env none ⟨schema, site.property key, none⟩).Gives mock := by
  obtain ⟨named, hnamed, rfl⟩ := List.mem_map.mp hmock
  obtain ⟨property, hproperty, -, hgives⟩ := exists_of_forall₂ h hnamed
  obtain ⟨hmem, hnew⟩ := List.mem_filter.mp hproperty
  exact ⟨property.1, property.2, hmem, by simpa using hnew, hgives⟩

/-- Where the first members have been asked for, the next one has an answer. -/
theorem MembersInTurn.split {front behind : List Schema} {member : Schema} {merge : Merge}
    {mocks : List Mock}
    (h : MembersInTurn ask env site (front ++ member :: behind) merge mocks) :
    ∃ earlier mock later, mocks = earlier ++ mock :: later ∧
      MembersInTurn ask env site front merge earlier ∧
      (ask env (some ⟨.allOf, (earlier.foldl Merge.addMember merge).emitted⟩)
        ⟨member, site, none⟩).Gives mock := by
  induction front generalizing merge mocks with
  | nil =>
    cases h with
    | @member _ _ _ mock mocks hmember _ => exact ⟨[], mock, mocks, rfl, .done merge, hmember⟩
  | cons first front ih =>
    cases h with
    | @member _ _ _ mock mocks hfirst hrest =>
      obtain ⟨earlier, answer, later, rfl, hfront, hgives⟩ := ih hrest
      exact ⟨mock :: earlier, answer, later, rfl, .member hfirst hfront, hgives⟩

/-- What a member came to, it came to behind those that were asked for before. -/
theorem MembersInTurn.split_answers {members : List Schema} {merge : Merge}
    {earlier later : List Mock} {mock : Mock}
    (h : MembersInTurn ask env site members merge (earlier ++ mock :: later)) :
    ∃ front member behind, members = front ++ member :: behind ∧
      MembersInTurn ask env site front merge earlier ∧
      (ask env (some ⟨.allOf, (earlier.foldl Merge.addMember merge).emitted⟩)
        ⟨member, site, none⟩).Gives mock := by
  induction earlier generalizing merge members with
  | nil =>
    cases h with
    | @member member rest _ _ _ hmember _ => exact ⟨[], member, rest, rfl, .done merge, hmember⟩
  | cons first earlier ih =>
    cases h with
    | @member next rest _ _ _ hfirst hrest =>
      obtain ⟨front, member, behind, rfl, hfront, hgives⟩ := ih hrest
      exact ⟨next :: front, member, behind, rfl, .member hfirst hfront, hgives⟩

end Parts

/-! ## 4. Imports of parts -/

theorem imports_subset_importsOf {mocks : List Mock} {mock : Mock} (h : mock ∈ mocks) :
    mock.imports ⊆ importsOf mocks :=
  fun _ hi => mem_importsBehind.mpr (.inr ⟨mock, h, hi⟩)

theorem mem_imports_foldl_addMember {mocks : List Mock} {merge : Merge} {i : Import} :
    i ∈ (mocks.foldl Merge.addMember merge).imports ↔
      i ∈ merge.imports ∨ ∃ mock ∈ mocks, i ∈ mock.imports := by
  induction mocks generalizing merge with
  | nil => simp
  | cons mock rest ih =>
    rw [List.foldl_cons, ih, imports_addMember, mem_withImports, or_assoc, List.exists_mem_cons_iff]

namespace Question

/-- **What is asked has an answer, and its imports are among those of the whole.** -/
theorem Asks.answered {whole part : Question} {mock : Mock} (h : Asks whole part)
    (hmock : whole.Answer mock) : ∃ answer, part.Answer answer ∧ answer.imports ⊆ mock.imports := by
  cases h with
  | target => exact ⟨mock, (gives_target hmock).2, List.Subset.refl _⟩
  | item hunsettled =>
    obtain ⟨made, hmakes, -, himports⟩ := makesOfParts_of_gives rfl hunsettled hmock
    cases hmakes with
    | array hitem => exact ⟨_, hitem, himports ▸ List.Subset.refl _⟩
  | property hunsettled hproperty hnew =>
    obtain ⟨made, hmakes, -, himports⟩ := makesOfParts_of_gives rfl hunsettled hmock
    cases hmakes with
    | object hmocks =>
      obtain ⟨answer, hmem, hgives⟩ := hmocks.answer_of_mem hproperty hnew
      exact ⟨answer, hgives, himports ▸ imports_subset_importsOf hmem⟩
  | beside hunsettled hproperty hnew =>
    obtain ⟨made, hmakes, -, himports⟩ := makesOfParts_of_gives rfl hunsettled hmock
    cases hmakes with
    | merged hmocks _ hmerge =>
      obtain ⟨answer, hmem, hgives⟩ := hmocks.answer_of_mem hproperty hnew
      obtain ⟨answers, -, rfl⟩ := hmerge.inTurn
      refine ⟨answer, hgives, himports ▸ fun i hi => mem_imports_foldl_addMember.mpr (.inl ?_)⟩
      exact imports_subset_importsOf hmem hi
    | chosen _ hmocks =>
      obtain ⟨answer, hmem, hgives⟩ := hmocks.answer_of_mem hproperty hnew
      refine ⟨answer, hgives, himports ▸ fun i hi => mem_importsBehind.mpr (.inl ?_)⟩
      exact imports_subset_importsOf hmem hi
  | member hunsettled hmocks hearlier =>
    obtain ⟨made, hmakes, -, himports⟩ := makesOfParts_of_gives rfl hunsettled hmock
    cases hmakes with
    | merged hmocks' hown hmerge =>
      cases hmocks.unique hmocks'
      subst hown
      obtain ⟨answers, hanswers, rfl⟩ := hmerge.inTurn
      obtain ⟨earlier', answer, later, rfl, hearlier', hgives⟩ := hanswers.split
      cases hearlier.unique hearlier'
      refine ⟨answer, hgives, himports ▸ fun i hi => mem_imports_foldl_addMember.mpr (.inr ?_)⟩
      exact ⟨answer, by simp, hi⟩
    | chosen hcombinator => exact absurd rfl hcombinator
  | variant hcombinator hunsettled hmember =>
    obtain ⟨made, hmakes, -, himports⟩ := makesOfParts_of_gives rfl hunsettled hmock
    cases hmakes with
    | merged => exact absurd rfl hcombinator
    | chosen _ hmocks hown hvariants =>
      have hkeys := hown ▸ hmocks.keys_own _ _
      obtain ⟨answer, hmem, hgives⟩ := exists_of_forall₂ hvariants.flip hmember
      rw [← Entries.keys, hkeys] at hgives
      refine ⟨answer, hgives, himports ▸ fun i hi => mem_importsBehind.mpr (.inr ?_)⟩
      exact ⟨answer, hmem, hi⟩

/-- **What is asked in the course of a question has an answer, and its imports are among those of
the whole.** -/
theorem answered_of_course {whole part : Question} {mock : Mock} (h : whole.Course part)
    (hmock : whole.Answer mock) : ∃ answer, part.Answer answer ∧ answer.imports ⊆ mock.imports := by
  induction h with
  | refl => exact ⟨mock, hmock, List.Subset.refl _⟩
  | tail _ hasks ih =>
    obtain ⟨answer, hanswer, hsubset⟩ := ih
    obtain ⟨answer', hanswer', hsubset'⟩ := hasks.answered hanswer
    exact ⟨answer', hanswer', List.Subset.trans hsubset' hsubset⟩

end Question

end SchemaMock
