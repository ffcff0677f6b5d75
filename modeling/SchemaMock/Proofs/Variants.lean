/-
# Properties beside a choice of members

Where one of several members holds, each member is told that the names beside the combinator have
been emitted, and leaves them out; in return the properties beside the combinator are put in front
of it.  The two do not always meet.  Every member leaves the names out, wherever it comes to an
object, but only a member that is an object gets the properties back: one that is a choice itself,
if only between an object and `null`, is taken as it is.

* `Expression.carries_behind_iff` says which members carry the properties beside the combinator:
  all, but choices that can come to an object.
* `variants_carry_own_properties_iff` says it of a resolution, in terms of what its members came to.
* `variants_lose_own_properties` is a pet whose identifier is missing from one of its two kinds.
-/
import SchemaMock.Proofs.Threading

namespace SchemaMock

open Resolve (Gives)
open Entries (without)

/-! ## 1. Expressions that carry names -/

namespace Expression

/-- Every object that an expression can come to at its own place has all of some names. -/
def Carries (names : List String) (e : Expression) : Prop :=
  ∀ properties, Alternative (.object properties) e → names ⊆ Entries.keys properties

/-- A choice that can come to an object. -/
def ChoosesObject (e : Expression) : Prop :=
  ∃ choices properties, e = .oneOf choices ∧ Alternative (.object properties) e

variable {names : List String} {own : Entries Expression}

theorem carries_orNull_iff {e : Expression} {nullable : Bool} :
    (e.orNull nullable).Carries names ↔ e.Carries names := by
  simp only [Carries, alternative_orNull_iff]

theorem carries_oneOf_iff {choices : List Expression} :
    (oneOf choices).Carries names ↔ ∀ e ∈ choices, e.Carries names := by
  constructor
  · exact fun h e he properties hobject => h properties (.choice he hobject)
  · intro h properties hobject
    obtain ⟨e, he, hobject⟩ := alternative_oneOf_iff.mp hobject
    exact h e he properties hobject

/-- Without a member there is the object of the properties beside the combinator, which carries
them. -/
theorem carries_chosen_iff {choices : List Expression} :
    (chosen own choices).Carries (Entries.keys own) ↔
      ∀ e ∈ choices, e.Carries (Entries.keys own) := by
  match choices with
  | [] =>
    refine iff_of_true (fun properties hobject => ?_) (List.forall_mem_nil _)
    rw [alternative_object_iff.mp hobject]
    exact List.Subset.refl _
  | [e] => exact List.forall_mem_singleton.symm
  | first :: second :: rest => exact carries_oneOf_iff

/-- **A member carries the properties beside the combinator** unless it is a choice that can come to
an object: its names have been left out there. -/
theorem carries_behind_iff {e : Expression} (h : e.Avoids (Entries.keys own)) :
    (e.behind own).Carries (Entries.keys own) ↔ own = [] ∨ ¬ e.ChoosesObject := by
  cases e with
  | object properties =>
    refine iff_of_true (fun merged hobject => ?_) (.inr nofun)
    rw [alternative_object_iff.mp hobject, Entries.keys, Entries.keys, List.map_append]
    exact List.subset_append_left _ _
  | primitive | null | undefined | array => exact iff_of_true nofun (.inr nofun)
  | oneOf choices =>
    constructor
    · intro hcarries
      rcases own with _ | ⟨property, rest⟩
      · exact .inl rfl
      · right
        rintro ⟨-, properties, -, hobject⟩
        have hmem : property.1 ∈ Entries.keys properties :=
          hcarries properties hobject List.mem_cons_self
        exact h properties hobject _ hmem List.mem_cons_self
    · rintro (rfl | hno) properties hobject
      · exact List.nil_subset _
      · exact absurd ⟨_, properties, rfl, hobject⟩ hno

end Expression

/-! ## 2. The resolution -/

/-- The properties that are put beside a combinator are those that had not been emitted. -/
theorem AnswersProperties.keys_own {ask : Resolver} {env : Environment} {emitted : List String}
    {site : Site} {properties : List (String × Schema)} {mocks : List (String × Mock)}
    (h : AnswersProperties ask env emitted site properties mocks) (settings : Settings)
    (required : List String) :
    Entries.keys (ownProperties settings required mocks)
      = Entries.keys (without emitted properties) :=
  (keys_ownProperties settings required mocks).trans h.names_eq

/-- What is made of a schema that nothing settles, but for the declared type. -/
theorem makesOfParts_of_gives {env : Environment} {membership : Option Membership}
    {placed : PlacedSchema} {mock : Mock} (hinline : placed.schema.reference? = none)
    (hunsettled : env.Unsettled placed) (h : (resolver env membership placed).Gives mock) :
    ∃ made, MakesOfParts resolver env membership placed made ∧
      mock.expression = made.expression ∧ mock.imports = made.imports := by
  rw [resolver_eq_typed] at h
  obtain ⟨made, hmade, rfl⟩ := h.of_map
  refine ⟨made, ?_, Schema.expression_typed _ _, Schema.imports_typed _ _⟩
  have hrule := hunsettled.rule
  rw [ActiveRules.mock?_eq, Option.map_eq_none_iff] at hrule
  cases makes_of_gives hmade with
  | asked => cases hinline
  | overridden _ hrule' => cases hrule.symm.trans hrule'
  | constant _ _ hvalue => cases hunsettled.constant.symm.trans hvalue
  | made _ _ _ h => exact h

/-- A combination that nothing settles is made of its parts. -/
theorem makesOfParts_of_gives_combined {env : Environment} {membership : Option Membership}
    {keywords : Keywords} {combinator : Combinator} {properties : List (String × Schema)}
    {members : List Schema} {site : Site} {definition : Option String} {mock : Mock}
    (hunsettled :
      env.Unsettled ⟨.combined keywords combinator properties members, site, definition⟩)
    (h : (resolver env membership
      ⟨.combined keywords combinator properties members, site, definition⟩).Gives mock) :
    ∃ made, MakesOfParts resolver env membership
        ⟨.combined keywords combinator properties members, site, definition⟩ made ∧
      mock.expression = made.expression := by
  obtain ⟨made, hmakes, hexpression, -⟩ := makesOfParts_of_gives rfl hunsettled h
  exact ⟨made, hmakes, hexpression⟩

/-- **The members of which one holds carry the properties beside the combinator, unless one of them
came to a choice that can come to an object.**  Every object that the mock can come to has all of
the names beside the combinator that had not been emitted if and only if there are none of these, or
no member came to such a choice. -/
theorem variants_carry_own_properties_iff (env : Environment) (membership : Option Membership)
    (keywords : Keywords) (combinator : Combinator) (properties : List (String × Schema))
    (members : List Schema) (site : Site) (definition : Option String) (trace after : Trace)
    (mock : Mock) (hcombinator : combinator ≠ .allOf)
    (hunsettled :
      env.Unsettled ⟨.combined keywords combinator properties members, site, definition⟩)
    (hok : (PlacedSchema.resolve mockResolver env membership
      ⟨.combined keywords combinator properties members, site, definition⟩).outcome trace
        = (.ok mock, after)) :
    ∃ variants, AnswersVariants resolver env
        ⟨combinator, emittedNames membership
          ++ Entries.keys (without (emittedNames membership) properties)⟩ site members variants ∧
      (mock.expression.Carries (Entries.keys (without (emittedNames membership) properties)) ↔
        without (emittedNames membership) properties = [] ∨
          ∀ variant ∈ variants, ¬ variant.expression.ChoosesObject) := by
  obtain ⟨made, hmakes, hexpression⟩ :=
    makesOfParts_of_gives_combined hunsettled ⟨trace, after, hok⟩
  rw [hexpression]
  cases hmakes with
  | merged => exact absurd rfl hcombinator
  | @chosen _ _ _ _ _ _ mocks own variants _ hmocks hown hvariants =>
    have hkeys : Entries.keys own = Entries.keys (without (emittedNames membership) properties) :=
      hown ▸ hmocks.keys_own _ _
    have hnil : own = [] ↔ without (emittedNames membership) properties = [] := by
      rw [← List.map_eq_nil_iff, ← Entries.keys, hkeys, Entries.keys, List.map_eq_nil_iff]
    have havoids : ∀ variant ∈ variants, variant.expression.Avoids (Entries.keys own) := by
      intro variant hvariant
      obtain ⟨member, -, hgives⟩ := hvariants.gives variant hvariant
      exact (resolver_avoids hgives).mono (List.subset_append_right _ _)
    refine ⟨variants, hkeys ▸ hvariants, ?_⟩
    rw [← hkeys, ← hnil, composedMock, Expression.carries_orNull_iff,
      Expression.carries_chosen_iff, List.forall_mem_map]
    have heach : (∀ variant ∈ variants,
        (variant.expression.behind own).Carries (Entries.keys own)) ↔
          ∀ variant ∈ variants, own = [] ∨ ¬ variant.expression.ChoosesObject :=
      forall₂_congr fun variant hvariant =>
        Expression.carries_behind_iff (havoids variant hvariant)
    rw [heach]
    by_cases hempty : own = []
    · simp [hempty]
    · simp [hempty]

/-- A cat, or nothing. -/
def maybeCat : Json :=
  .obj [("nullable", .bool true), ("required", .arr [.str "meow"]),
    ("properties", .obj [("meow", .obj [("type", .str "boolean")])])]

/-- A dog. -/
def dog : Json :=
  .obj [("required", .arr [.str "bark"]),
    ("properties", .obj [("bark", .obj [("type", .str "boolean")])])]

/-- A pet with an identifier, which is a cat, or nothing, or a dog. -/
def petChoice : Json :=
  .obj [("properties", .obj [("id", .obj [("type", .str "integer")])]),
    ("required", .arr [.str "id"]), ("oneOf", .arr [maybeCat, dog])]

/-- What the pet comes to: a cat without the identifier, or nothing, or a dog with it. -/
def petChoiceExpression : Expression :=
  .oneOf [.oneOf [.object [("meow", .primitive "faker.datatype.boolean()")], .null],
    .object [("id", .primitive "faker.number.int()"),
      ("bark", .primitive "faker.datatype.boolean()")]]

theorem petChoiceExpression_loses_id : ¬ petChoiceExpression.Carries ["id"] := by
  intro hcarries
  have hcat : ["id"] ⊆ ["meow"] :=
    hcarries [("meow", .primitive "faker.datatype.boolean()")]
      (.choice List.mem_cons_self (.choice List.mem_cons_self (.here _)))
  simp at hcat

theorem variants_carry_own_properties_iff_pet :
    ∃ mock after, ((PlacedSchema.ofJson petChoice ⟨"pet", none⟩).resolve mockResolver
        listEnvironment none).outcome .empty = (.ok mock, after) ∧
      mock.expression = petChoiceExpression ∧ ∃ variants : List Mock,
        AnswersVariants resolver listEnvironment ⟨.oneOf, ["id"]⟩ ⟨"pet", none⟩
          [.ofJson maybeCat, .ofJson dog] variants ∧
        ∃ variant ∈ variants, variant.expression.ChoosesObject := by
  have hok : ((PlacedSchema.ofJson petChoice ⟨"pet", none⟩).resolve mockResolver
      listEnvironment none).outcome .empty = (.ok _, _) := rfl
  obtain ⟨variants, hvariants, hiff⟩ := variants_carry_own_properties_iff listEnvironment none _
    .oneOf [("id", .plain [("type", .str "integer")])] [.ofJson maybeCat, .ofJson dog]
    ⟨"pet", none⟩ none .empty _ _ (by decide) ⟨rfl, rfl⟩ hok
  refine ⟨_, _, hok, rfl, variants, hvariants, ?_⟩
  by_contra hnone
  refine petChoiceExpression_loses_id (hiff.mpr (.inr fun variant hvariant hchooses => ?_))
  exact hnone ⟨variant, hvariant, hchooses⟩

/-- **The properties beside a choice of members can be lost.**  It is not so that every object which
a choice of members can come to has all of the names beside the combinator that had not been
emitted. -/
theorem variants_lose_own_properties :
    ¬ ∀ (env : Environment) (membership : Option Membership) (node : Json) (keywords : Keywords)
      (combinator : Combinator) (properties : List (String × Schema)) (members : List Schema)
      (site : Site) (definition : Option String) (trace after : Trace) (mock : Mock),
      Schema.ofJson node = .combined keywords combinator properties members →
      combinator ≠ .allOf → members ≠ [] → env.Unsettled ⟨.ofJson node, site, definition⟩ →
      (PlacedSchema.resolve mockResolver env membership ⟨.ofJson node, site, definition⟩).outcome
        trace = (.ok mock, after) →
      mock.expression.Carries (Entries.keys (without (emittedNames membership) properties)) := by
  intro hclaim
  have hcarries : petChoiceExpression.Carries ["id"] :=
    hclaim listEnvironment none petChoice _ .oneOf _ _ ⟨"pet", none⟩ none .empty _ _ rfl
      (by decide) (List.cons_ne_nil _ _) ⟨rfl, rfl⟩ rfl
  exact petChoiceExpression_loses_id hcarries

end SchemaMock
