/-
# Imports that are not used

Every enumeration that a mock uses by its name is imported, but an import can be there in vain.  The
imports of a part are taken over as soon as the part has been resolved, and what it came to can be
dropped afterwards.  There are two ways (`Question.Discards`): a member that is no object gives way
to properties beside it, or to another such member behind it; and the properties beside a choice are
put into those variants only that are objects, so that they are lost if none is.

* Nothing else is dropped: what is imported is used, or it is used in something that has been
  discarded in the course of the resolution (`used_or_lost`).
* And what has been discarded leaves its imports behind (`Question.Loses.imported`).

So all imports are used exactly if whatever is lost is used elsewhere (`imports_are_used_iff`).
-/
import SchemaMock.Proofs.Course
import SchemaMock.Proofs.Enumerations

namespace SchemaMock

open Relation (ReflTransGen)

/-! ## 1. Names that are used -/

namespace Expression

/-- An enumeration is used by its name, somewhere in an expression. -/
def Uses (name : String) (e : Expression) : Prop :=
  Occurs (.primitive (namedEnumeration name)) e

section Uses

variable {name : String}

theorem not_uses_null : ¬ Expression.null.Uses name := nofun

theorem not_uses_undefined : ¬ Expression.undefined.Uses name := nofun

theorem uses_primitive_iff {text : String} :
    (primitive text).Uses name ↔ namedEnumeration name = text := by
  constructor
  · intro h
    cases h
    rfl
  · rintro rfl
    exact .here _

theorem uses_oneOf_iff {choices : List Expression} :
    (oneOf choices).Uses name ↔ ∃ e ∈ choices, e.Uses name := by
  constructor
  · intro h
    cases h with
    | choice hmem h => exact ⟨_, hmem, h⟩
  · rintro ⟨e, hmem, h⟩
    exact .choice hmem h

theorem uses_object_iff {properties : List (String × Expression)} :
    (object properties).Uses name ↔ ∃ property ∈ properties, property.2.Uses name := by
  constructor
  · intro h
    cases h with
    | property hmem h => exact ⟨_, hmem, h⟩
  · rintro ⟨property, hmem, h⟩
    exact .property hmem h

theorem uses_array_iff {item : Expression} {min max : UInt64} :
    (array item min max).Uses name ↔ item.Uses name := by
  constructor
  · intro h
    cases h with
    | item h => exact h
  · exact .item

/-- `null` beside an expression uses nothing. -/
theorem uses_orNull_iff {e : Expression} {nullable : Bool} :
    (e.orNull nullable).Uses name ↔ e.Uses name := by
  rw [orNull]
  split
  · rw [uses_oneOf_iff]
    simp [not_uses_null]
  · exact Iff.rfl

/-- `undefined` beside an expression uses nothing. -/
theorem uses_orUndefined_iff {e : Expression} {isOptional : Bool} :
    (e.orUndefined isOptional).Uses name ↔ e.Uses name := by
  rw [orUndefined]
  split
  · rw [uses_oneOf_iff]
    simp [not_uses_undefined]
  · exact Iff.rfl

/-- What an expression uses is used by the properties that are taken out of it. -/
theorem uses_iff_of_properties? {e : Expression} {properties : List (String × Expression)}
    (h : e.properties? = some properties) :
    e.Uses name ↔ ∃ property ∈ properties, property.2.Uses name := by
  rcases eq_of_properties? h with rfl | rfl
  · exact uses_object_iff
  · have hnull : Expression.oneOf [.object properties, .null]
        = (Expression.object properties).orNull true := rfl
    rw [hnull, uses_orNull_iff]
    exact uses_object_iff

/-- A variant uses what it used, behind whatever properties it is put. -/
theorem Uses.behind {e : Expression} (h : e.Uses name) (own : List (String × Expression)) :
    (e.behind own).Uses name := by
  cases e with
  | object properties =>
    obtain ⟨property, hproperty, h⟩ := uses_object_iff.mp h
    exact uses_object_iff.mpr ⟨property, List.mem_append_right _ hproperty, h⟩
  | primitive | null | undefined | oneOf | array => exact h

/-- A choice uses what one of its variants uses. -/
theorem Uses.chosen {e : Expression} (h : e.Uses name) (own : List (String × Expression))
    {choices : List Expression} (hmem : e ∈ choices) : (chosen own choices).Uses name := by
  match choices, hmem with
  | [_], hmem =>
    cases List.mem_singleton.mp hmem
    exact h
  | _ :: _ :: _, hmem => exact uses_oneOf_iff.mpr ⟨e, hmem, h⟩

end Uses

end Expression

open Expression (uses_orNull_iff uses_orUndefined_iff uses_object_iff uses_array_iff
  uses_iff_of_properties?)

/-- The properties of a schema use what their mocks use. -/
theorem uses_ownProperties {settings : Settings} {required : List String}
    {mocks : List (String × Mock)} {mock : Mock} {name : String} (hmock : mock ∈ mocks.map Prod.snd)
    (h : mock.expression.Uses name) :
    ∃ property ∈ ownProperties settings required mocks, property.2.Uses name := by
  obtain ⟨named, hnamed, rfl⟩ := List.mem_map.mp hmock
  exact ⟨_, List.mem_map_of_mem hnamed, uses_orUndefined_iff.mpr h⟩

/-! ## 2. Merged members -/

/-- A merged object uses what one of its properties uses. -/
theorem Merge.uses_expression {merge : Merge} {name : String}
    (h : ∃ property ∈ merge.properties, property.2.Uses name) : merge.expression.Uses name := by
  obtain ⟨property, hproperty, huses⟩ := h
  rw [expression_of_ne_nil (List.ne_nil_of_mem hproperty)]
  exact uses_object_iff.mpr ⟨property, hproperty, huses⟩

/-- An object of different names, none of which had been emitted, is merged as a whole. -/
theorem Merge.object_subset_addMember {merge : Merge} {mock : Mock}
    {object : Entries Expression} (hobject : mock.expression.properties? = some object)
    (hnames : mock.expression.NamesApart merge.emitted) :
    object ⊆ (merge.addMember mock).properties := by
  intro property hproperty
  have hnew : property.1 ∉ merge.emitted :=
    hnames.avoids.of_properties? hobject _ (List.mem_map_of_mem hproperty)
  rw [addMember_of_object hobject, foldl_addProperty_eq (hnames.nodup_of_properties? hobject)]
  exact List.mem_append_right _ (List.mem_filter.mpr ⟨hproperty, by simpa using hnew⟩)

/-- **A member that is merged loses no property.** -/
theorem MembersInTurn.object_subset {env : Environment} {site : Site} {members : List Schema}
    {merge : Merge} {mocks : List Mock} (h : MembersInTurn resolver env site members merge mocks)
    (hstore : env.store.Distinct) (hmembers : ∀ member ∈ members, member.DistinctNames) :
    ∀ mock ∈ mocks, ∀ object, mock.expression.properties? = some object →
      object ⊆ (mocks.foldl Merge.addMember merge).properties := by
  induction h with
  | done => exact List.forall_mem_nil _
  | member hmember hrest ih =>
    obtain ⟨hfirst, hothers⟩ := List.forall_mem_cons.mp hmembers
    refine List.forall_mem_cons.mpr ⟨fun object hobject => ?_, ih hothers⟩
    have hnames := resolver_keepsNamesApart hmember hstore hfirst
    exact List.Subset.trans (Merge.object_subset_addMember hobject hnames) hrest.properties_subset

/-! ## 3. What is discarded -/

namespace Question

/-- What a schema comes to has nothing in it of something that was asked for. -/
inductive Discards : Question → Mock → Prop
  /-- A member that is no object gives way to properties, or to another one behind it. -/
  | member {env : Environment} {membership : Option Membership} {keywords : Keywords}
      {properties : List (String × Schema)} {members : List Schema} {site : Site}
      {definition : Option String} {mocks : List (String × Mock)} {earlier later : List Mock}
      {mock : Mock}
      (hunsettled : env.Unsettled ⟨.combined keywords .allOf properties members, site, definition⟩)
      (hmocks : AnswersProperties resolver env (emittedNames membership) site properties mocks)
      (hmembers : MembersInTurn resolver env site members (.begun env membership keywords mocks)
        (earlier ++ mock :: later))
      (hother : mock.expression.properties? = none)
      (hlost : ((earlier ++ mock :: later).foldl Merge.addMember
          (.begun env membership keywords mocks)).properties ≠ [] ∨
        ∃ other ∈ later, other.expression.properties? = none) :
      Discards ⟨env, membership, ⟨.combined keywords .allOf properties members, site, definition⟩⟩
        mock
  /-- A property beside variants is put into objects only. -/
  | beside {env : Environment} {membership : Option Membership} {keywords : Keywords}
      {combinator : Combinator} {properties : List (String × Schema)} {members : List Schema}
      {site : Site} {definition : Option String} {mocks : List (String × Mock)}
      {variants : List Mock} {mock : Mock} (hcombinator : combinator ≠ .allOf)
      (hunsettled :
        env.Unsettled ⟨.combined keywords combinator properties members, site, definition⟩)
      (hmocks : AnswersProperties resolver env (emittedNames membership) site properties mocks)
      (hvariants : AnswersVariants resolver env ⟨combinator, emittedNames membership
        ++ Entries.keys (Entries.without (emittedNames membership) properties)⟩ site members
        variants)
      (hsome : variants ≠ [])
      (hnone : ∀ variant ∈ variants, ∀ object, variant.expression ≠ .object object)
      (hmock : mock ∈ mocks.map Prod.snd) :
      Discards ⟨env, membership, ⟨.combined keywords combinator properties members, site,
        definition⟩⟩ mock

/-- What is discarded is what something came to that was asked for. -/
theorem Discards.asked {whole : Question} {mock : Mock} (h : whole.Discards mock) :
    ∃ part, whole.Asks part ∧ part.Answer mock := by
  cases h with
  | member hunsettled hmocks hmembers =>
    obtain ⟨front, member, behind, rfl, hearlier, hgives⟩ := hmembers.split_answers
    exact ⟨_, .member hunsettled hmocks hearlier, hgives⟩
  | beside hcombinator hunsettled hmocks _ _ _ hmock =>
    obtain ⟨key, schema, hproperty, hnew, hgives⟩ := hmocks.property_of_mem hmock
    exact ⟨_, .beside hunsettled hproperty hnew, hgives⟩

/-- In the course of a question something is discarded that uses an enumeration by its name. -/
def Loses (whole : Question) (name : String) : Prop :=
  ∃ part mock, whole.Course part ∧ part.Discards mock ∧ mock.expression.Uses name

theorem Loses.of_asks {whole part : Question} {name : String} (hasks : whole.Asks part)
    (h : part.Loses name) : whole.Loses name := by
  obtain ⟨inner, mock, hcourse, hdiscards, huses⟩ := h
  exact ⟨inner, mock, .head hasks hcourse, hdiscards, huses⟩

/-- Every import of an answer is used, there or in something that has been discarded. -/
def Keeps (whole : Question) (mock : Mock) : Prop :=
  ∀ i ∈ mock.imports, mock.expression.Uses i.name ∨ whole.Loses i.name

/-- What a part keeps is lost by the whole if it is lost by the part, and otherwise used by what the
part came to. -/
theorem Keeps.of_asks {whole part : Question} {mock : Mock} (h : part.Keeps mock)
    (hasks : whole.Asks part) {i : Import} (hi : i ∈ mock.imports) :
    mock.expression.Uses i.name ∨ whole.Loses i.name :=
  (h i hi).imp_right (Loses.of_asks hasks)

end Question

open Question (Keeps Loses)

/-! ## 4. Nothing else is lost -/

section Parts

/-- What is asked for about some parts loses nothing but what is discarded in its course. -/
def PartsKeep (env : Environment) (parts : List Schema) : Prop :=
  ∀ part ∈ parts, ∀ membership site mock,
    (resolver env membership ⟨part, site, none⟩).Gives mock →
      Keeps ⟨env, membership, ⟨part, site, none⟩⟩ mock

variable {env : Environment} {membership : Option Membership} {site : Site}
  {definition : Option String} {keywords : Keywords} {properties : List (String × Schema)}
  {members : List Schema} {mocks : List (String × Mock)}

/-- The import of a mock of a property is used by one of them, unless it is lost. -/
theorem used_or_lost_of_properties {whole : Question}
    (hkeeps : ∀ key schema mock, (key, schema) ∈ properties → key ∉ emittedNames membership →
      (resolver env none ⟨schema, site.property key, none⟩).Gives mock → ∀ i ∈ mock.imports,
        mock.expression.Uses i.name ∨ whole.Loses i.name)
    (hmocks : AnswersProperties resolver env (emittedNames membership) site properties mocks)
    {i : Import} (hi : i ∈ importsOf (mocks.map Prod.snd)) :
    (∃ mock ∈ mocks.map Prod.snd, mock.expression.Uses i.name) ∨ whole.Loses i.name := by
  obtain ⟨mock, hmock, hi⟩ := (mem_importsBehind.mp hi).resolve_left List.not_mem_nil
  obtain ⟨key, schema, hproperty, hnew, hgives⟩ := hmocks.property_of_mem hmock
  exact (hkeeps key schema mock hproperty hnew hgives i hi).imp_left fun huses =>
    ⟨mock, hmock, huses⟩

/-- The import of a mock of a property beside a combinator is used by one of them, unless it is
lost. -/
theorem used_or_lost_beside {combinator : Combinator}
    (hkeeps : PartsKeep env (properties.map Prod.snd ++ members))
    (hunsettled :
      env.Unsettled ⟨.combined keywords combinator properties members, site, definition⟩)
    (hmocks : AnswersProperties resolver env (emittedNames membership) site properties mocks)
    {i : Import} (hi : i ∈ importsOf (mocks.map Prod.snd)) :
    (∃ mock ∈ mocks.map Prod.snd, mock.expression.Uses i.name) ∨ Loses ⟨env, membership,
      ⟨.combined keywords combinator properties members, site, definition⟩⟩ i.name := by
  refine used_or_lost_of_properties (fun key schema mock hproperty hnew hgives j hj => ?_) hmocks hi
  have hpart := hkeeps schema (List.mem_append_left _ (List.mem_map_of_mem hproperty))
  exact (hpart none _ mock hgives).of_asks (.beside hunsettled hproperty hnew) hj

/-- Members that hold all at once lose nothing but what they discard. -/
theorem keeps_merged {merge : Merge} (hstore : env.store.Distinct)
    (hmembersDiffer : ∀ member ∈ members, member.DistinctNames)
    (hkeeps : PartsKeep env (properties.map Prod.snd ++ members))
    (hunsettled : env.Unsettled ⟨.combined keywords .allOf properties members, site, definition⟩)
    (hmocks : AnswersProperties resolver env (emittedNames membership) site properties mocks)
    (hmerge : AnswersMerged resolver env site members (.begun env membership keywords mocks)
      merge) {i : Import} (himport : i ∈ merge.imports) :
    merge.expression.Uses i.name ∨ Loses ⟨env, membership,
      ⟨.combined keywords .allOf properties members, site, definition⟩⟩ i.name := by
  obtain ⟨answers, hanswers, rfl⟩ := hmerge.inTurn
  rcases mem_imports_foldl_addMember.mp himport with hi | ⟨answer, hanswer, hi⟩
  · refine (used_or_lost_beside hkeeps hunsettled hmocks hi).imp_left fun ⟨mock, hmock, huses⟩ => ?_
    obtain ⟨property, hproperty, huses⟩ := uses_ownProperties hmock huses
    exact Merge.uses_expression ⟨property, hanswers.properties_subset hproperty, huses⟩
  · have hsubset := hanswers.object_subset hstore hmembersDiffer answer hanswer
    obtain ⟨earlier, later, rfl⟩ := List.append_of_mem hanswer
    obtain ⟨front, member, behind, rfl, hearlier, hgives⟩ := hanswers.split_answers
    have hpart := hkeeps member (List.mem_append_right _ (by simp)) _ _ answer hgives
    rcases hpart.of_asks (.member hunsettled hmocks hearlier) hi with huses | hlost
    · cases hobject : answer.expression.properties? with
      | some object =>
        obtain ⟨property, hproperty, huses⟩ := (uses_iff_of_properties? hobject).mp huses
        exact .inl (Merge.uses_expression ⟨property, hsubset object hobject hproperty, huses⟩)
      | none =>
        by_cases hlost : ((earlier ++ answer :: later).foldl Merge.addMember
            (.begun env membership keywords mocks)).properties ≠ [] ∨
          ∃ other ∈ later, other.expression.properties? = none
        · exact .inr ⟨_, answer, .refl, .member hunsettled hmocks hanswers hobject hlost, huses⟩
        · obtain ⟨hproperties, hlater⟩ := not_or.mp hlost
          rw [Merge.expression_of_last hobject (fun other hother hnone =>
            hlater ⟨other, hother, hnone⟩) (not_not.mp hproperties)]
          exact .inl huses
    · exact .inr hlost

/-- Members of which one holds lose nothing but the properties beside them. -/
theorem keeps_chosen {combinator : Combinator} {own : List (String × Expression)}
    {variants : List Mock} (hcombinator : combinator ≠ .allOf)
    (hkeeps : PartsKeep env (properties.map Prod.snd ++ members))
    (hunsettled :
      env.Unsettled ⟨.combined keywords combinator properties members, site, definition⟩)
    (hmocks : AnswersProperties resolver env (emittedNames membership) site properties mocks)
    (hown : own = ownProperties env.settings (Keywords.required keywords) mocks)
    (hvariants : AnswersVariants resolver env ⟨combinator, emittedNames membership
      ++ Entries.keys (Entries.without (emittedNames membership) properties)⟩ site members variants)
    {i : Import} (hi : i ∈ importsBehind (importsOf (mocks.map Prod.snd)) variants) :
    (Expression.chosen own (variants.map fun mock => mock.expression.behind own)).Uses i.name ∨
      Loses ⟨env, membership,
        ⟨.combined keywords combinator properties members, site, definition⟩⟩ i.name := by
  rcases mem_importsBehind.mp hi with hi | ⟨variant, hvariant, hi⟩
  · rcases used_or_lost_beside hkeeps hunsettled hmocks hi with ⟨mock, hmock, huses⟩ | hlost
    · obtain ⟨property, hproperty, hpropertyUses⟩ := uses_ownProperties hmock huses
      rw [← hown] at hproperty
      cases variants with
      | nil => exact .inl (uses_object_iff.mpr ⟨property, hproperty, hpropertyUses⟩)
      | cons first rest =>
        by_cases hobject : ∃ variant ∈ first :: rest, ∃ object,
            variant.expression = .object object
        · obtain ⟨variant, hvariant, object, hobject⟩ := hobject
          have hbehind : (variant.expression.behind own).Uses i.name := by
            rw [hobject, Expression.behind]
            exact uses_object_iff.mpr ⟨property, List.mem_append_left _ hproperty, hpropertyUses⟩
          exact .inl (hbehind.chosen own (List.mem_map_of_mem hvariant))
        · refine .inr ⟨_, mock, .refl, .beside hcombinator hunsettled hmocks hvariants
            (List.cons_ne_nil _ _) (fun variant hvariant object heq => ?_) hmock, huses⟩
          exact hobject ⟨variant, hvariant, object, heq⟩
    · exact .inr hlost
  · obtain ⟨member, hmember, hgives⟩ := hvariants.gives variant hvariant
    have hpart := hkeeps member (List.mem_append_right _ hmember) _ _ variant hgives
    refine (hpart.of_asks (.variant hcombinator hunsettled hmember) hi).imp_left fun huses => ?_
    exact (huses.behind own).chosen own (List.mem_map_of_mem hvariant)

/-- What is made of its parts loses nothing but what it discards. -/
theorem keeps_of_makesOfParts {placed : PlacedSchema} {mock : Mock} (hstore : env.store.Distinct)
    (hdiffer : placed.schema.DistinctNames)
    (hkeeps : PartsKeep env placed.schema.parts) (hunsettled : env.Unsettled placed)
    (h : MakesOfParts resolver env membership placed mock) :
    Keeps ⟨env, membership, placed⟩ mock := by
  intro i hi
  cases h with
  | named =>
    cases List.mem_singleton.mp hi
    exact .inl (uses_orNull_iff.mpr (Expression.uses_primitive_iff.mpr rfl))
  | listed | plain => cases hi
  | array hitem =>
    refine ((hkeeps _ List.mem_cons_self _ _ _ hitem).of_asks (.item hunsettled) hi).imp_left ?_
    exact fun huses => uses_orNull_iff.mpr (uses_array_iff.mpr huses)
  | object hmocks =>
    refine (used_or_lost_of_properties (fun key schema mock hproperty hnew hgives j hj => ?_) hmocks
      hi).imp_left fun ⟨mock, hmock, huses⟩ => ?_
    · have hpart := hkeeps schema (List.mem_map_of_mem hproperty)
      exact (hpart none _ mock hgives).of_asks (.property hunsettled hproperty hnew) hj
    · exact uses_orNull_iff.mpr (uses_object_iff.mpr (uses_ownProperties hmock huses))
  | merged hmocks hown hmerge =>
    subst hown
    refine (keeps_merged hstore ?_ hkeeps hunsettled hmocks hmerge hi).imp_left uses_orNull_iff.mpr
    exact fun member hmember => hdiffer.part (List.mem_append_right _ hmember)
  | chosen hcombinator hmocks hown hvariants =>
    have hkeys := hown ▸ hmocks.keys_own env.settings (Keywords.required _)
    rw [← Entries.keys, hkeys] at hvariants
    exact (keeps_chosen hcombinator hkeeps hunsettled hmocks hown hvariants hi).imp_left
      uses_orNull_iff.mpr

end Parts

/-- **What is imported is used**, in what a question comes to or in something that has been
discarded in its course. -/
theorem used_or_lost (env : Environment) (placed : PlacedSchema) :
    ∀ membership mock, (resolver env membership placed).Gives mock → env.rules.inOrder = [] →
      env.store.Distinct → placed.schema.DistinctNames → Keeps ⟨env, membership, placed⟩ mock := by
  induction env, placed using questions_induction with
  | inline env placed hinline ih =>
    intro membership mock h hrules hstore hdiffer
    rw [resolver_eq_typed] at h
    obtain ⟨made, hmade, rfl⟩ := h.of_map
    rw [Keeps, Schema.imports_typed, Schema.expression_typed]
    cases makes_of_gives hmade with
    | asked => cases hinline
    | overridden _ hrule =>
      rw [hrules] at hrule
      cases hrule
    | constant => exact List.forall_mem_nil _
    | made _ hrule hconstant hmakes =>
      have hunsettled : env.Unsettled placed :=
        ⟨by rw [ActiveRules.mock?_eq, hrule, Option.map_none], hconstant⟩
      refine keeps_of_makesOfParts hstore hdiffer ?_ hunsettled hmakes
      exact fun part hpart membership site mock hgives =>
        ih part hpart site membership mock hgives hrules hstore (hdiffer.part hpart)
  | follows env reference site definition ih =>
    intro membership mock h hrules hstore _ i hi
    obtain ⟨hfresh, htarget⟩ := gives_target h
    exact (ih hfresh membership mock htarget hrules hstore (hstore.schemaAt _)).of_asks
      (.target hfresh) hi

/-! ## 5. What is lost is imported -/

namespace Question

variable {whole part : Question}

/-- Whatever is asked for is asked for with the same documents, settings and rules. -/
theorem Asks.same (h : whole.Asks part) :
    part.env.store = whole.env.store ∧ part.env.settings = whole.env.settings ∧
      part.env.rules = whole.env.rules := by
  cases h <;> exact ⟨rfl, rfl, rfl⟩

theorem Course.same (h : whole.Course part) :
    part.env.store = whole.env.store ∧ part.env.settings = whole.env.settings ∧
      part.env.rules = whole.env.rules := by
  induction h with
  | refl => exact ⟨rfl, rfl, rfl⟩
  | tail _ hasks ih =>
    obtain ⟨hstore, hsettings, hrules⟩ := hasks.same
    exact ⟨hstore.trans ih.1, hsettings.trans ih.2.1, hrules.trans ih.2.2⟩

/-- Only the target of a reference has the name of a definition. -/
theorem Asks.ledTo (h : whole.Asks part) : LedTo part.env part.placed := by
  cases h with
  | @target env _ reference site => exact ledTo_followed env reference site
  | item | property | beside | member | variant => exact ledTo_none _ _ _

/-- **What is lost leaves its import behind.** -/
theorem Loses.imported {name : String} {mock : Mock} (hrules : whole.env.rules.inOrder = [])
    (hformats : whole.env.settings.formats.entries = []) (hmock : whole.Answer mock)
    (h : whole.Loses name) : ∃ i ∈ mock.imports, i.name = name := by
  obtain ⟨inner, dropped, hcourse, hdiscards, huses⟩ := h
  obtain ⟨part, hasks, hdropped⟩ := hdiscards.asked
  have hpart : whole.Course part := hcourse.tail hasks
  obtain ⟨answer, hanswer, hsubset⟩ := answered_of_course hpart hmock
  cases resolver_unique hanswer hdropped
  obtain ⟨-, hsettings, hsame⟩ := hpart.same
  obtain ⟨hused, -⟩ := resolver_importsWhatItUses hdropped (hsame ▸ hrules) (hsettings ▸ hformats)
    hasks.ledTo
  obtain ⟨i, hi, hname, -⟩ := hused _ huses name rfl
  exact ⟨i, hsubset hi, hname⟩

end Question

/-- **All imports of a mock are used exactly if nothing is lost.**  Where no rule and no format of
the settings puts in a text of its own, and no document repeats a name, the names that a mock
imports are those that it uses and those that are used in something discarded in the course of its
making.  So every import is used if and only if every enumeration that is lost there is used
elsewhere; and a mock that uses no enumeration by its name has no imports if and only if none was
lost. -/
theorem imports_are_used_iff (env : Environment) (membership : Option Membership)
    (placed : PlacedSchema) (node : Json) (trace after : Trace) (mock : Mock)
    (hrules : env.rules.inOrder = []) (hformats : env.settings.formats.entries = [])
    (hdefinition : placed.definition = none) (hstore : env.store.Distinct) (hnode : node.Distinct)
    (hschema : placed.schema = .ofJson node)
    (hok : (placed.resolve mockResolver env membership).outcome trace = (.ok mock, after)) :
    (∀ name, (∃ i ∈ mock.imports, i.name = name) ↔
      mock.expression.Uses name ∨ Loses ⟨env, membership, placed⟩ name) ∧
    ((∀ i ∈ mock.imports, mock.expression.Uses i.name) ↔
      ∀ name, Loses ⟨env, membership, placed⟩ name → mock.expression.Uses name) ∧
    ((∀ name, ¬ mock.expression.Uses name) →
      (mock.imports = [] ↔ ∀ name, ¬ Loses ⟨env, membership, placed⟩ name)) := by
  have hgives : (resolver env membership placed).Gives mock := ⟨trace, after, hok⟩
  have hled : LedTo env placed := by
    intro name hname
    rw [hdefinition] at hname
    cases hname
  have hkeeps : Keeps ⟨env, membership, placed⟩ mock := by
    refine used_or_lost env placed membership mock hgives hrules hstore ?_
    exact hschema ▸ Schema.distinctNames_ofJson node hnode
  have hanswer : Question.Answer ⟨env, membership, placed⟩ mock := hgives
  have himported : ∀ name, Loses ⟨env, membership, placed⟩ name →
      ∃ i ∈ mock.imports, i.name = name := fun _ hlost => hlost.imported hrules hformats hanswer
  refine ⟨fun name => ⟨?_, ?_⟩, ⟨fun hall name hlost => ?_, fun hall i hi => ?_⟩, fun hnone => ?_⟩
  · rintro ⟨i, hi, rfl⟩
    exact hkeeps i hi
  · rintro (huses | hlost)
    · obtain ⟨i, hi, hname, -⟩ :=
        (resolver_importsWhatItUses hgives hrules hformats hled).used _ huses name rfl
      exact ⟨i, hi, hname⟩
    · exact himported name hlost
  · obtain ⟨i, hi, rfl⟩ := himported name hlost
    exact hall i hi
  · exact (hkeeps i hi).elim id (hall i.name)
  · constructor
    · intro hnil name hlost
      obtain ⟨i, hi, -⟩ := himported name hlost
      rw [hnil] at hi
      cases hi
    · intro hkept
      refine List.eq_nil_iff_forall_not_mem.mpr fun i hi => ?_
      exact (hkeeps i hi).elim (hnone i.name) (hkept i.name)

/-- A document with a status, and nothing else. -/
def switchDocument : Json :=
  .obj [("Status", .obj [("enum", .arr [.str "on", .str "off"])])]

/-- The document of the status at hand. -/
def switchEnvironment : Environment :=
  { listEnvironment with store := .ofList [("api.json", switchDocument)] }

/-- Something with an identifier that is a status as well. -/
def identifiedStatus : Json := allOfThese [identified, referenceNode "#/Status"]

theorem switchEnvironment_distinct : switchEnvironment.store.Distinct := by
  refine .ofList (List.forall_mem_singleton.mpr ?_)
  simp [switchDocument, Json.Distinct, Json.DistinctMembers, Json.DistinctItems, Entries.keys]

theorem identifiedStatus_distinct : identifiedStatus.Distinct := by
  simp [identifiedStatus, allOfThese, identified, referenceNode, Json.Distinct,
    Json.DistinctMembers, Json.DistinctItems, Entries.keys]

/-- An identifier uses no status. -/
theorem identifier_uses_nothing (name : String) :
    ¬ (Expression.object [("id", .primitive "faker.number.int()")]).Uses name := by
  rw [uses_object_iff]
  rintro ⟨property, hproperty, huses⟩
  cases List.mem_singleton.mp hproperty
  have hbegins : BeginsOtherwise "faker.number.int()" := by decide
  exact hbegins.ne name (Expression.uses_primitive_iff.mp huses).symm

theorem imports_are_used_iff_status :
    ∃ mock after, ((PlacedSchema.ofJson identifiedStatus ⟨"thing", none⟩).resolve mockResolver
        switchEnvironment none).outcome .empty = (.ok mock, after) ∧
      mock.imports = [statusImport] ∧
      Loses ⟨switchEnvironment, none, .ofJson identifiedStatus ⟨"thing", none⟩⟩ "Status" := by
  have hok : ((PlacedSchema.ofJson identifiedStatus ⟨"thing", none⟩).resolve mockResolver
      switchEnvironment none).outcome .empty = (.ok _, _) := rfl
  obtain ⟨hnames, -⟩ := imports_are_used_iff switchEnvironment none _ identifiedStatus .empty _ _
    rfl rfl rfl switchEnvironment_distinct identifiedStatus_distinct rfl hok
  have hused := (hnames "Status").mp ⟨statusImport, List.mem_cons_self, rfl⟩
  exact ⟨_, _, hok, rfl, hused.resolve_left (identifier_uses_nothing "Status")⟩

/-- **An import can be there in vain.**  It is not so that every import of a mock is used in it: a
member that gives way to properties leaves its import behind. -/
theorem import_can_be_unused :
    ¬ ∀ (env : Environment) (membership : Option Membership) (placed : PlacedSchema) (node : Json)
      (trace after : Trace) (mock : Mock), env.rules.inOrder = [] →
      env.settings.formats.entries = [] → placed.definition = none → env.store.Distinct →
      node.Distinct → placed.schema = .ofJson node →
      (placed.resolve mockResolver env membership).outcome trace = (.ok mock, after) →
      ∀ i ∈ mock.imports, mock.expression.Uses i.name := by
  intro hclaim
  have hok : ((PlacedSchema.ofJson identifiedStatus ⟨"thing", none⟩).resolve mockResolver
      switchEnvironment none).outcome .empty = (.ok _, _) := rfl
  exact identifier_uses_nothing "Status" (hclaim switchEnvironment none _ identifiedStatus .empty _
    _ rfl rfl rfl switchEnvironment_distinct identifiedStatus_distinct rfl hok statusImport
    List.mem_cons_self)

end SchemaMock
