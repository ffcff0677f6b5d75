/-
# Names handed on commute with resolution

A combination whose members hold all at once never resolves a member by itself: it hands on the
names that have been emitted, and whoever is asked leaves them out.  What comes of this is what
would come of leaving them out afterwards (`Threads`), however combinations and references are
nested, as long as every combination on the way merges objects.

* `ComesTo` is the way from a schema to the combinations inside it, through members and references.
* `Environment.MergesAlone` is what is asked of a combination on that way: resolved by themselves,
  its properties come to something, and its members to objects; `Environment.MergesWithin` asks it
  of every one.
* Each kind of schema threads the names if its members do; a schema then threads them by
  `questions_induction`, which goes through parts and, behind a reference, through the documents.
-/
import SchemaMock.Proofs.Flattening
import SchemaMock.Proofs.Imports
import SchemaMock.Proofs.MockOrder
import SchemaMock.Proofs.SideBySide

namespace SchemaMock

open Resolve (Gives Settles gives_pure_iff settles_pure)

/-! ## 1. Results of resolutions -/

namespace Resolve

variable {α β : Type} {x : Resolve α}

/-- What does not look at its trace comes to what it can come to. -/
theorem Adds.settles {base : List Import} {known : α → List Import} (h : x.Adds base known) {a : α}
    (hgives : x.Gives a) : x.Settles (some a) := by
  obtain ⟨result, news, events, hout, -⟩ := h
  obtain ⟨trace, after, hok⟩ := hgives
  have hresult : result = .ok a := congrArg Prod.fst ((hout trace).symm.trans hok)
  intro trace'
  rw [hout trace', hresult]
  rfl

theorem Settles.unique {a b : α} (h : x.Settles (some a)) (hgives : x.Gives b) : a = b := by
  obtain ⟨trace, after, hok⟩ := hgives
  have htrace := h trace
  rw [hok] at htrace
  exact (Option.some.inj htrace).symm

theorem Settles.outcome {a : α} (h : x.Settles (some a)) (trace : Trace) :
    ∃ after, x.outcome trace = (.ok a, after) := by
  have htrace := h trace
  rcases hout : x.outcome trace with ⟨fault | b, after⟩
  · rw [hout] at htrace
    cases htrace
  · rw [hout] at htrace
    cases htrace
    exact ⟨after, rfl⟩

theorem Settles.bind_some {a : α} {b : β} {f : α → Resolve β} (h : x.Settles (some a))
    (hf : (f a).Settles (some b)) : (x >>= f).Settles (some b) := by
  refine h.bind (g := fun _ => some b) ?_
  rintro _ ⟨⟩
  exact hf

theorem Settles.map_some {a : α} (f : α → β) (h : x.Settles (some a)) :
    (f <$> x).Settles (some (f a)) := by
  rw [map_eq_pure_bind]
  exact h.bind_some (settles_pure _)

end Resolve

theorem settles_of_gives {env : Environment} {membership : Option Membership}
    {placed : PlacedSchema} {mock : Mock} (h : (resolver env membership placed).Gives mock) :
    (resolver env membership placed).Settles (some mock) :=
  (resolver_adds env membership placed).settles h

/-- Resolving is making, with the declared type. -/
theorem resolver_eq_typed (env : Environment) (membership : Option Membership)
    (placed : PlacedSchema) :
    resolver env membership placed
      = placed.schema.typed <$> makeLayer resolver env membership placed := by
  obtain ⟨schema, site, definition⟩ := placed
  cases schema with
  | reference target => exact (id_map _).symm
  | plain | array | object | combined => exact resolver_of_inline env membership rfl

section References

variable {env : Environment} {membership : Option Membership} {reference : String} {site : Site}
  {definition : Option String} {mock : Mock}

/-- A reference comes to what its target comes to. -/
theorem gives_target
    (h : (resolver env membership ⟨.reference reference, site, definition⟩).Gives mock) :
    (env.target reference).address ∉ env.chain ∧
      (resolver (env.inside reference) membership (env.followed reference site)).Gives mock := by
  rw [resolver_reference] at h
  obtain ⟨trace, after, hout⟩ := h
  obtain ⟨hfresh, made, left, hmade, htyped, -⟩ := followLayer_ok_iff.mp hout
  refine ⟨hfresh, env.reported reference trace, left, ?_⟩
  rw [resolver_eq_typed, map_eq_pure_bind]
  exact Resolve.bind_ok_iff.mpr ⟨made, left, hmade, by rw [htyped]; rfl⟩

theorem settles_reference (hfresh : (env.target reference).address ∉ env.chain)
    (h : (resolver (env.inside reference) membership (env.followed reference site)).Settles
      (some mock)) :
    (resolver env membership ⟨.reference reference, site, definition⟩).Settles (some mock) := by
  intro trace
  obtain ⟨left, hout⟩ := h.outcome (env.reported reference trace)
  rw [resolver_eq_typed, map_eq_pure_bind] at hout
  obtain ⟨made, left', hmade, htyped⟩ := Resolve.bind_ok_iff.mp hout
  cases htyped
  rw [resolver_reference, followLayer_ok_iff.mpr ⟨hfresh, made, _, hmade, rfl, rfl⟩]
  rfl

end References

/-! ## 2. Everything that is asked -/

/-- **What holds of a schema if it holds of its parts, and of a reference if it holds of its target,
holds of every schema.** -/
theorem questions_induction {motive : Environment → PlacedSchema → Prop}
    (inline : ∀ env placed, placed.schema.reference? = none →
      (∀ part ∈ placed.schema.parts, ∀ site, motive env ⟨part, site, none⟩) → motive env placed)
    (follows : ∀ env reference site definition, ((env.target reference).address ∉ env.chain →
      motive (env.inside reference) (env.followed reference site)) →
        motive env ⟨.reference reference, site, definition⟩)
    (env : Environment) (placed : PlacedSchema) : motive env placed := by
  have hall : ∀ (budget : Nat) (schema : Schema) (env : Environment) (site : Site)
      (definition : Option String), env.Suffices schema budget →
        motive env ⟨schema, site, definition⟩ := by
    intro budget
    induction budget using Nat.strong_induction_on with
    | h budget ih =>
      intro schema
      -- until the next reference is followed, the budget is the same and the schema is a part
      induction schema using Schema.partsInduction with
      | step schema ihparts =>
        intro env site definition hsuffices
        cases schema with
        | reference reference =>
          refine follows env reference site definition fun hfresh => ?_
          obtain ⟨rest, rfl⟩ := Nat.exists_eq_succ_of_ne_zero
            (Nat.ne_zero_of_lt (hsuffices (.here reference) hfresh))
          exact ih rest rest.lt_succ_self _ _ _ _ (hsuffices.inside (.here reference) hfresh)
        | plain | array | object | combined =>
          exact inline env _ rfl fun part hpart site =>
            ihparts part hpart env site none (hsuffices.part hpart)
  exact hall _ _ _ _ _ (suffices_longestBranch env placed.schema)

/-! ## 3. Combinations on the way -/

/-- Nothing settles a schema before it is looked into. -/
structure Environment.Unsettled (env : Environment) (placed : PlacedSchema) : Prop where
  rule : env.rules.mock? placed = none
  constant : env.constant? placed.schema = none

/-- What properties come to by themselves, in their order. -/
def PropertiesAlone (env : Environment) (site : Site) (properties : List (String × Schema))
    (mocks : List (String × Mock)) : Prop :=
  List.Forall₂ (fun property mock => property.1 = mock.1 ∧
    (resolver env none ⟨property.2, site.property property.1, none⟩).Gives mock.2) properties mocks

/-- Members come to objects by themselves, or to objects or `null`, with these properties. -/
def MembersAlone (env : Environment) (site : Site) (members : List Schema)
    (values : List (Entries Expression)) : Prop :=
  List.Forall₂ (fun member properties => ∃ mock,
    (resolver env none ⟨member, site, none⟩).Gives mock ∧
      mock.expression.properties? = some properties) members values

/-- If a schema is a combination whose members hold all at once, then these members come to objects
by themselves, and its properties to something. -/
def Environment.MergesAlone (env : Environment) (placed : PlacedSchema) : Prop :=
  ∀ keywords properties members, placed.schema = .combined keywords .allOf properties members →
    env.Unsettled placed →
      (∃ mocks, PropertiesAlone env placed.site properties mocks) ∧
        ∃ values, MembersAlone env placed.site members values

/-- Resolving a schema comes to another one through members of combinations and references. -/
inductive ComesTo : Environment → PlacedSchema → Environment → PlacedSchema → Prop
  | here (env : Environment) (placed : PlacedSchema) : ComesTo env placed env placed
  | member {env env' : Environment} {keywords : Keywords} {combinator : Combinator}
      {properties : List (String × Schema)} {members : List Schema} {site : Site}
      {definition : Option String} {member : Schema} {placed' : PlacedSchema}
      (hunsettled :
        env.Unsettled ⟨.combined keywords combinator properties members, site, definition⟩)
      (hmember : member ∈ members) (h : ComesTo env ⟨member, site, none⟩ env' placed') :
      ComesTo env ⟨.combined keywords combinator properties members, site, definition⟩ env' placed'
  | target {env env' : Environment} {reference : String} {site : Site}
      {definition : Option String} {placed' : PlacedSchema}
      (hfresh : (env.target reference).address ∉ env.chain)
      (h : ComesTo (env.inside reference) (env.followed reference site) env' placed') :
      ComesTo env ⟨.reference reference, site, definition⟩ env' placed'

/-- Every combination on the way from a schema merges objects. -/
def Environment.MergesWithin (env : Environment) (placed : PlacedSchema) : Prop :=
  ∀ env' placed', ComesTo env placed env' placed' → env'.MergesAlone placed'

section MergesWithin

variable {env : Environment} {site : Site} {definition : Option String}

theorem mergesWithin_reference_iff {reference : String} :
    env.MergesWithin ⟨.reference reference, site, definition⟩ ↔
      ((env.target reference).address ∉ env.chain →
        (env.inside reference).MergesWithin (env.followed reference site)) := by
  constructor
  · exact fun h hfresh _ _ hcomes => h _ _ (.target hfresh hcomes)
  · intro h env' placed' hcomes
    cases hcomes with
    | here => exact nofun
    | target hfresh hcomes => exact h hfresh _ _ hcomes

theorem mergesWithin_combined_iff {keywords : Keywords} {combinator : Combinator}
    {properties : List (String × Schema)} {members : List Schema} :
    env.MergesWithin ⟨.combined keywords combinator properties members, site, definition⟩ ↔
      env.MergesAlone ⟨.combined keywords combinator properties members, site, definition⟩ ∧
        (env.Unsettled ⟨.combined keywords combinator properties members, site, definition⟩ →
          ∀ member ∈ members, env.MergesWithin ⟨member, site, none⟩) := by
  constructor
  · exact fun h => ⟨h _ _ (.here _ _), fun hunsettled member hmember _ _ hcomes =>
      h _ _ (.member hunsettled hmember hcomes)⟩
  · rintro ⟨halone, hmembers⟩ env' placed' hcomes
    cases hcomes with
    | here => exact halone
    | member hunsettled hmember hcomes => exact hmembers hunsettled _ hmember _ _ hcomes

/-- From the properties of an object there is no way on: they are asked for all their names. -/
theorem mergesWithin_object (env : Environment) (keywords : Keywords)
    (properties : List (String × Schema)) (site : Site) (definition : Option String) :
    env.MergesWithin ⟨.object keywords properties, site, definition⟩ := by
  rintro _ _ ⟨⟩
  exact nofun

end MergesWithin

/-! ## 4. Names handed on -/

/-- With more names emitted before, the same is made without them. -/
def HandsOn (make : Option Membership → Resolve Mock) : Prop :=
  ∀ ⦃membership : Option Membership⦄ ⦃mock : Mock⦄, (make membership).Gives mock →
    ∀ membership', emittedNames membership ⊆ emittedNames membership' →
      ∃ mock', (make membership').Settles (some mock') ∧
        mock'.expression = mock.expression.without (emittedNames membership')

/-- A schema hands on the names when it is resolved. -/
def Threads (env : Environment) (placed : PlacedSchema) : Prop :=
  HandsOn (resolver env · placed)

/-- It hands them on when it is made of its parts, before its type is told. -/
def PartsThread (env : Environment) (placed : PlacedSchema) : Prop :=
  HandsOn (askParts resolver env · placed)

/-- Telling a type does not change what is left out. -/
theorem HandsOn.typed {make : Option Membership → Resolve Mock} (h : HandsOn make)
    (schema : Schema) : HandsOn fun membership => schema.typed <$> make membership := by
  intro membership mock hgives membership' hsubset
  obtain ⟨made, hmade, rfl⟩ := hgives.of_map
  obtain ⟨made', hsettles, hwithout⟩ := h hmade membership' hsubset
  refine ⟨_, hsettles.map_some _, ?_⟩
  rw [Schema.expression_typed, Schema.expression_typed, hwithout]

/-- What comes to something without an object, whatever names have been emitted, hands them on. -/
theorem handsOn_of_settles {make : Option Membership → Resolve Mock}
    (h : ∀ membership made, (make membership).Gives made →
      (∀ membership', (make membership').Settles (some made)) ∧
        ∀ names, made.expression.without names = made.expression) : HandsOn make := by
  intro membership made hgives membership' _
  obtain ⟨hsettles, hwithout⟩ := h membership made hgives
  exact ⟨made, hsettles membership', (hwithout _).symm⟩

theorem threads_reference {env : Environment} {reference : String} {site : Site}
    {definition : Option String} (h : (env.target reference).address ∉ env.chain →
      Threads (env.inside reference) (env.followed reference site)) :
    Threads env ⟨.reference reference, site, definition⟩ := by
  intro membership mock hgives membership' hsubset
  obtain ⟨hfresh, htarget⟩ := gives_target hgives
  obtain ⟨mock', hsettles, hwithout⟩ := h hfresh htarget membership' hsubset
  exact ⟨mock', settles_reference hfresh hsettles, hwithout⟩

section Inline

variable {env : Environment} {placed : PlacedSchema}

theorem settledOr_of_unsettled (h : env.Unsettled placed) (made : Resolve Mock) :
    settledOr env placed made = made := by
  have hconstant := h.constant
  rw [Environment.constant?] at hconstant
  simp only [settledOr, h.rule, hconstant]

/-- What settles a schema is no object. -/
theorem settledOr_of_settled (h : ¬ env.Unsettled placed) : ∃ mock, (∀ made,
    (settledOr env placed made).Settles (some mock)) ∧
      ∀ names, mock.expression.without names = mock.expression := by
  cases hrule : env.rules.mock? placed with
  | some mock =>
    refine ⟨mock, fun made => ?_, fun names => ?_⟩
    · simp only [settledOr, hrule]
      exact (Resolve.settles_record _).bind_some (settles_pure mock)
    · rw [ActiveRules.mock?_eq] at hrule
      obtain ⟨rule, -, rfl⟩ := Option.map_eq_some_iff.mp hrule
      rw [Rule.mock, Expression.without_orNull, Expression.without_primitive]
  | none =>
    cases hconstant : env.constant? placed.schema with
    | none => exact absurd ⟨hrule, hconstant⟩ h
    | some value =>
      rw [Environment.constant?] at hconstant
      refine ⟨constantMock placed value, fun made => ?_, fun names => ?_⟩
      · simp only [settledOr, hrule, hconstant]
        exact settles_pure _
      · simp only [constantMock, Mock.ofExpression]
        rw [Expression.without_orNull, Expression.without_primitive]

theorem makeLayer_eq_settledOr (ask : Resolver) (membership : Option Membership)
    (hinline : placed.schema.reference? = none) :
    makeLayer ask env membership placed
      = settledOr env placed (askParts ask env membership placed) := by
  obtain ⟨schema, site, definition⟩ := placed
  cases schema with
  | reference target => cases hinline
  | plain | array | object | combined => rfl

/-- A schema that nothing settles is made of its parts. -/
theorem resolver_of_unsettled (membership : Option Membership)
    (hinline : placed.schema.reference? = none) (h : env.Unsettled placed) :
    resolver env membership placed
      = placed.schema.typed <$> askParts resolver env membership placed := by
  rw [resolver_of_inline env membership hinline, makeLayer_eq_settledOr _ _ hinline,
    settledOr_of_unsettled h]

/-- A schema that is settled looks at no names, and another one is made of its parts. -/
theorem threads_of_parts (hinline : placed.schema.reference? = none)
    (h : env.Unsettled placed → PartsThread env placed) : Threads env placed := by
  by_cases hunsettled : env.Unsettled placed
  · have hparts : (resolver env · placed)
        = fun membership => placed.schema.typed <$> askParts resolver env membership placed :=
      funext fun membership => resolver_of_unsettled membership hinline hunsettled
    rw [Threads, hparts]
    exact (h hunsettled).typed placed.schema
  · have hsettled : (resolver env · placed)
        = fun membership => placed.schema.typed <$>
            settledOr env placed (askParts resolver env membership placed) := by
      funext membership
      rw [resolver_of_inline env membership hinline, makeLayer_eq_settledOr _ _ hinline]
    rw [Threads, hsettled]
    refine HandsOn.typed (handsOn_of_settles fun membership made hmade => ?_) placed.schema
    obtain ⟨settled, hsettles, hwithout⟩ := settledOr_of_settled hunsettled
    cases (hsettles _).unique hmade
    exact ⟨fun _ => hsettles _, hwithout⟩

end Inline

/-! ## 5. Schemas of each kind -/

open Entries (without)

/-- Properties are asked for but those that have been emitted. -/
theorem settles_properties {env : Environment} {site : Site} {emitted more : List String}
    (hsubset : emitted ⊆ more) : ∀ {properties : Entries Schema} {mocks : Entries Mock},
      AnswersProperties resolver env emitted site properties mocks →
      (askProperties resolver env more site properties).Settles (some (without more mocks))
  | [], mocks, h => by
    cases h
    exact settles_pure []
  | (key, schema) :: rest, mocks, h => by
    rw [AnswersProperties] at h
    rw [askProperties]
    by_cases hemitted : key ∈ emitted
    · rw [List.filter_cons_of_neg (by simpa using hemitted)] at h
      rw [if_pos (by simpa using hsubset hemitted)]
      exact settles_properties hsubset h
    · rw [List.filter_cons_of_pos (by simpa using hemitted)] at h
      obtain ⟨⟨name, mock⟩, others, ⟨rfl, hmock⟩, hothers, rfl⟩ := List.forall₂_cons_left_iff.mp h
      have ih := settles_properties hsubset hothers
      by_cases hmore : key ∈ more
      · rw [if_pos (by simpa using hmore), Entries.without_cons_of_mem hmore]
        exact ih
      · rw [if_neg (by simpa using hmore), Entries.without_cons_of_notMem hmore]
        exact (settles_of_gives hmock).bind_some (ih.bind_some (settles_pure _))

theorem ownProperties_without (settings : Settings) (required names : List String)
    (mocks : Entries Mock) :
    ownProperties settings required (without names mocks)
      = without names (ownProperties settings required mocks) := by
  rw [ownProperties, ownProperties, without, without, List.filter_map]
  rfl

theorem partsThread_plain (env : Environment) (keywords : Keywords) (site : Site)
    (definition : Option String) : PartsThread env ⟨.plain keywords, site, definition⟩ := by
  refine handsOn_of_settles fun membership made hgives => ?_
  refine ⟨fun _ => (plainMock_adds env ⟨.plain keywords, site, definition⟩).settles hgives,
    fun names => ?_⟩
  have hmakes : MakesOfParts resolver env membership ⟨.plain keywords, site, definition⟩ made :=
    makesOfParts_plain hgives
  cases hmakes with
  | named | listed =>
    simp only [Mock.ofExpression, Expression.without_orNull, Expression.without_primitive]
  | plain =>
    simp only [Mock.ofExpression, Expression.without_orNull]
    rcases PlainSchema.expression_cases env.settings keywords with h | ⟨text, h, -⟩
    · rw [h, Expression.without_null]
    · rw [h, Expression.without_primitive]

theorem partsThread_array (env : Environment) (keywords : Keywords) (items : Schema) (site : Site)
    (definition : Option String) : PartsThread env ⟨.array keywords items, site, definition⟩ := by
  refine handsOn_of_settles fun membership made hgives => ?_
  obtain ⟨item, hitem, h⟩ := hgives.of_bind
  cases gives_pure_iff.mp h
  refine ⟨fun _ => (settles_of_gives hitem).bind_some (settles_pure _), fun names => ?_⟩
  rw [composedMock, Expression.without_orNull, Expression.without_array]

theorem partsThread_object (env : Environment) (keywords : Keywords)
    (properties : List (String × Schema)) (site : Site) (definition : Option String) :
    PartsThread env ⟨.object keywords properties, site, definition⟩ := by
  intro membership made hgives membership' hsubset
  obtain ⟨mocks, hmocks, h⟩ := hgives.of_bind
  cases gives_pure_iff.mp h
  have hproperties := settles_properties hsubset (answersProperties_of_gives hmocks)
  refine ⟨_, hproperties.bind_some (settles_pure _), ?_⟩
  simp only [composedMock]
  rw [Expression.without_orNull, Expression.without_object, ownProperties_without]

section Combined

variable {env : Environment} {keywords : Keywords} {properties : List (String × Schema)}
  {members : List Schema} {site : Site} {definition : Option String}

/-- Variants that are handed more names. -/
theorem exists_variants {membership more : Membership}
    (hsubset : membership.emitted ⊆ more.emitted)
    (hmembers : ∀ member ∈ members, Threads env ⟨member, site, none⟩) {variants : List Mock}
    (h : AnswersVariants resolver env membership site members variants) :
    ∃ variants', (askVariants resolver env more site members).Settles (some variants') ∧
      variants'.map Mock.expression
        = variants.map fun variant => variant.expression.without more.emitted := by
  induction h with
  | nil => exact ⟨[], settles_pure [], rfl⟩
  | cons hfirst _ ih =>
    obtain ⟨hthreads, hrest⟩ := List.forall_mem_cons.mp hmembers
    obtain ⟨variant', hsettles, hwithout⟩ := hthreads hfirst (some more) hsubset
    obtain ⟨variants', hsettles', hwithout'⟩ := ih hrest
    refine ⟨variant' :: variants', hsettles.bind_some (hsettles'.bind_some (settles_pure _)), ?_⟩
    rw [List.map_cons, List.map_cons, hwithout, hwithout']
    rfl

/-- A variant leaves out the names that have been emitted and those beside the combinator; so it can
stand behind what is left of these. -/
theorem without_choices {emitted more : List String} {combinator : Combinator}
    {own : Entries Expression} {variants variants' : List Mock}
    (hvariants : AnswersVariants resolver env ⟨combinator, emitted ++ Entries.keys own⟩ site members
      variants)
    (hsame : variants'.map Mock.expression = variants.map fun variant =>
      variant.expression.without (more ++ Entries.keys (without more own))) :
    variants'.map (fun variant => variant.expression.behind (without more own))
      = (variants.map fun variant => variant.expression.behind own).map
          (Expression.without more) := by
  have havoids : ∀ variant ∈ variants, variant.expression.Avoids (Entries.keys own) := by
    intro variant hvariant
    obtain ⟨member, -, hgives⟩ := hvariants.gives variant hvariant
    exact (resolver_avoids hgives).mono (List.subset_append_right _ _)
  calc variants'.map (fun variant => variant.expression.behind (without more own))
      = (variants'.map Mock.expression).map (Expression.behind (without more own)) := by
        rw [List.map_map]
        rfl
    _ = variants.map fun variant =>
          (variant.expression.without (more ++ Entries.keys (without more own))).behind
            (without more own) := by
        rw [hsame, List.map_map]
        rfl
    _ = variants.map fun variant => (variant.expression.behind own).without more :=
        List.map_congr_left fun variant hvariant =>
          (Expression.without_behind (havoids variant hvariant)).symm
    _ = (variants.map fun variant => variant.expression.behind own).map
          (Expression.without more) := by
        rw [List.map_map]
        rfl

theorem partsThread_chosen {combinator : Combinator}
    (hthreads : ∀ member ∈ members, Threads env ⟨member, site, none⟩)
    (hcombinator : combinator ≠ .allOf) :
    PartsThread env ⟨.combined keywords combinator properties members, site, definition⟩ := by
  intro membership made hgives membership' hsubset
  have hmakes := makesOfParts_combined hgives
  cases hmakes with
  | merged => exact absurd rfl hcombinator
  | @chosen _ _ _ _ _ _ mocks own variants _ hmocks hown hvariants =>
    have hproperties := settles_properties hsubset hmocks
    have hleft : ownProperties env.settings (Keywords.required keywords)
        (without (emittedNames membership') mocks) = without (emittedNames membership') own := by
      rw [ownProperties_without, hown]
    have hmore : (⟨combinator, emittedNames membership ++ Entries.keys own⟩ : Membership).emitted
        ⊆ (⟨combinator, emittedNames membership'
          ++ Entries.keys (without (emittedNames membership') own)⟩ : Membership).emitted := by
      intro key hkey
      rw [List.mem_append]
      by_cases hemitted : key ∈ emittedNames membership'
      · exact .inl hemitted
      · have hown := (List.mem_append.mp hkey).resolve_left fun h => hemitted (hsubset h)
        obtain ⟨e, he, rfl⟩ := List.mem_map.mp hown
        exact .inr (List.mem_map_of_mem (Entries.mem_without.mpr ⟨he, hemitted⟩))
    obtain ⟨variants', hsettles, hsame⟩ := exists_variants hmore hthreads hvariants
    have hchoices := without_choices hvariants hsame
    have hparts : ∃ imports, (askParts resolver env membership'
        ⟨.combined keywords combinator properties members, site, definition⟩).Settles
          (some (composedMock ⟨.combined keywords combinator properties members, site, definition⟩
            (.chosen (without (emittedNames membership') own)
              (variants'.map fun variant =>
                variant.expression.behind (without (emittedNames membership') own))) imports)) := by
      rw [← hleft] at hsettles ⊢
      cases combinator with
      | allOf => exact absurd rfl hcombinator
      | oneOf | anyOf => exact ⟨_, hproperties.bind_some (hsettles.bind_some (settles_pure _))⟩
    obtain ⟨imports, hparts⟩ := hparts
    refine ⟨_, hparts, ?_⟩
    simp only [composedMock]
    rw [Expression.without_orNull, Expression.without_chosen, hchoices]

/-- The members of a combination are merged as if each had been resolved by itself. -/
theorem settles_merged {values : List (Entries Expression)}
    (hmembers : ∀ member ∈ members, Threads env ⟨member, site, none⟩)
    (hvalues : MembersAlone env site members values) (merge : Merge) (hother : merge.other = none) :
    ∃ result, (askMerged resolver env site members merge).Settles (some result) ∧
      result.other = none ∧ result.properties
        = merge.properties ++ without merge.emitted (Entries.firsts values.flatten) := by
  induction hvalues generalizing merge with
  | nil =>
    refine ⟨merge, settles_pure merge, hother, ?_⟩
    simp [Entries.firsts, without]
  | @cons member value rest values hfirst _ ih =>
    obtain ⟨hthreads, hrest⟩ := List.forall_mem_cons.mp hmembers
    obtain ⟨mock, hmock, hvalue⟩ := hfirst
    obtain ⟨mock', hsettles, hwithout⟩ :=
      hthreads hmock (some ⟨.allOf, merge.emitted⟩) (List.nil_subset _)
    have hvalue' : mock'.expression.properties? = some (without merge.emitted value) := by
      rw [hwithout]
      exact Expression.properties?_without hvalue
    have hadd : merge.addMember mock'
        = value.foldl Merge.addProperty
            { merge with imports := withImports merge.imports mock'.imports } := by
      simp only [Merge.addMember, hvalue']
      exact Merge.foldl_addProperty_without (List.Subset.refl _)
    have hother' : (merge.addMember mock').other = none := by
      rw [hadd, Merge.other_foldl_addProperty]
      exact hother
    obtain ⟨result, hresult, hnone, hproperties⟩ := ih hrest _ hother'
    refine ⟨result, hsettles.bind_some hresult, hnone, ?_⟩
    rw [hproperties, ← Merge.properties_foldl_addProperty, hadd, ← List.foldl_append,
      Merge.properties_foldl_addProperty, List.flatten_cons]

theorem PropertiesAlone.keys_eq {mocks : Entries Mock}
    (h : PropertiesAlone env site properties mocks) :
    Entries.keys mocks = properties.map Prod.fst := by
  have hnames : List.Forall₂ (· = ·) (properties.map Prod.fst) (mocks.map Prod.fst) := by
    rw [List.forall₂_map_left_iff, List.forall₂_map_right_iff]
    exact h.imp fun _ _ hfirst => hfirst.1
  rw [List.forall₂_eq_eq_eq] at hnames
  exact hnames.symm

/-- **A combination is flattened**: its properties and then those of its members, as each comes to
them by itself, the first of each name, but those that have been emitted. -/
theorem settles_flattened {mocks : Entries Mock} {values : List (Entries Expression)}
    (hnames : (properties.map Prod.fst).Nodup) (hmocks : PropertiesAlone env site properties mocks)
    (hvalues : MembersAlone env site members values)
    (hthreads : ∀ member ∈ members, Threads env ⟨member, site, none⟩)
    (membership : Option Membership) :
    ∃ made, (askParts resolver env membership
        ⟨.combined keywords .allOf properties members, site, definition⟩).Settles (some made) ∧
      made.expression = (Expression.object (without (emittedNames membership) (Entries.firsts
        (ownProperties env.settings (Keywords.required keywords) mocks ++ values.flatten)))).orNull
          (Keywords.nullable keywords) := by
  have halone : AnswersProperties resolver env [] site properties mocks := by
    have hall : properties.filter (fun property => !([] : List String).contains property.1)
        = properties := List.filter_eq_self.mpr fun _ _ => rfl
    rw [AnswersProperties, hall]
    exact hmocks
  have hproperties := settles_properties (List.nil_subset (emittedNames membership)) halone
  generalize hown : ownProperties env.settings (Keywords.required keywords) mocks = own
  have hleft : ownProperties env.settings (Keywords.required keywords)
      (without (emittedNames membership) mocks) = without (emittedNames membership) own := by
    rw [ownProperties_without, hown]
  have hdiffer : (Entries.keys own).Nodup := by
    rw [← hown, keys_ownProperties, hmocks.keys_eq]
    exact hnames
  obtain ⟨result, hsettles, hnone, hresult⟩ := settles_merged hthreads hvalues
    ⟨emittedNames membership ++ Entries.keys (without (emittedNames membership) own),
      without (emittedNames membership) own, none,
      importsOf ((without (emittedNames membership) mocks).map Prod.snd)⟩ rfl
  rw [← Merge.without_firsts_append hdiffer] at hresult
  have hexpression : result.expression
      = .object (without (emittedNames membership) (Entries.firsts (own ++ values.flatten))) := by
    rw [Merge.expression, hnone, hresult]
  rw [← hexpression]
  rw [← hleft] at hsettles
  exact ⟨_, hproperties.bind_some (hsettles.bind_some (settles_pure _)), rfl⟩

/-- A combination that merges objects hands names on: what it leaves out is told by names. -/
theorem partsThread_merged (hnames : (properties.map Prod.fst).Nodup)
    (hthreads : ∀ member ∈ members, Threads env ⟨member, site, none⟩)
    (hunsettled : env.Unsettled ⟨.combined keywords .allOf properties members, site, definition⟩)
    (hmerges :
      env.MergesAlone ⟨.combined keywords .allOf properties members, site, definition⟩) :
    PartsThread env ⟨.combined keywords .allOf properties members, site, definition⟩ := by
  intro membership made hgives membership' hsubset
  obtain ⟨⟨mocks, hmocks⟩, values, hvalues⟩ := hmerges _ _ _ rfl hunsettled
  obtain ⟨made₀, hsettles, hexpression⟩ :=
    settles_flattened hnames hmocks hvalues hthreads membership
  obtain ⟨made', hsettles', hexpression'⟩ :=
    settles_flattened hnames hmocks hvalues hthreads membership'
  cases hsettles.unique hgives
  refine ⟨made', hsettles', ?_⟩
  rw [hexpression, hexpression', Expression.without_orNull, Expression.without_object,
    Entries.without_without hsubset]

end Combined

/-! ## 6. Every schema -/

/-- What a schema hands on, it hands on everywhere: names are threaded through every schema from
which only combinations are reached that merge objects. -/
theorem threads_of_merges (env : Environment) (placed : PlacedSchema)
    (hstore : env.store.Distinct) (hnames : placed.schema.DistinctNames)
    (hmerges : env.MergesWithin placed) : Threads env placed := by
  induction env, placed using questions_induction with
  | inline env placed hinline ih =>
    refine threads_of_parts hinline fun hunsettled => ?_
    obtain ⟨schema, site, definition⟩ := placed
    cases schema with
    | reference target => cases hinline
    | plain keywords => exact partsThread_plain env keywords site definition
    | array keywords items => exact partsThread_array env keywords items site definition
    | object keywords properties =>
      exact partsThread_object env keywords properties site definition
    | combined keywords combinator properties members =>
      have hmembers : ∀ member ∈ members, member.DistinctNames :=
        fun member hmember => hnames.part (List.mem_append_right _ hmember)
      obtain ⟨halone, hwithin⟩ := mergesWithin_combined_iff.mp hmerges
      have hthreads : ∀ member ∈ members, Threads env ⟨member, site, none⟩ :=
        fun member hmember => ih member (List.mem_append_right _ hmember) site hstore
          (hmembers member hmember) (hwithin hunsettled member hmember)
      by_cases hcombinator : combinator = .allOf
      · subst hcombinator
        exact partsThread_merged hnames.names hthreads hunsettled halone
      · exact partsThread_chosen hthreads hcombinator
  | follows env reference site definition ih =>
    refine threads_reference fun hfresh => ?_
    exact ih hfresh hstore (hstore.schemaAt _) (mergesWithin_reference_iff.mp hmerges hfresh)

/-- **Members that hold all at once are flattened.**  Let the properties of such a combination come
to something and its members to objects, each by itself, and so within the members.  Then the
combination is resolved, whatever names have been emitted, and is one object: its own properties and
then those of its members, the first of each name, but those that have been emitted. -/
theorem all_of_is_flattened (env : Environment) (membership : Option Membership) (node : Json)
    (site : Site) (definition : Option String) (trace : Trace) (keywords : Keywords)
    (properties : List (String × Schema)) (members : List Schema) (mocks : List (String × Mock))
    (values : List (Entries Expression)) (hstore : env.store.Distinct) (hnode : node.Distinct)
    (hschema : Schema.ofJson node = .combined keywords .allOf properties members)
    (hunsettled : env.Unsettled ⟨.ofJson node, site, definition⟩)
    (hmocks : PropertiesAlone env site properties mocks)
    (hvalues : MembersAlone env site members values)
    (hwithin : ∀ member ∈ members, env.MergesWithin ⟨member, site, none⟩) :
    ∃ mock after, (PlacedSchema.resolve mockResolver env membership
        ⟨.ofJson node, site, definition⟩).outcome trace = (.ok mock, after) ∧
      mock.expression = (Expression.object (without (emittedNames membership) (Entries.firsts
        (ownProperties env.settings (Keywords.required keywords) mocks ++ values.flatten)))).orNull
          (Keywords.nullable keywords) := by
  have hnames : (Schema.ofJson node).DistinctNames := Schema.distinctNames_ofJson node hnode
  rw [hschema] at hnames hunsettled ⊢
  have hthreads : ∀ member ∈ members, Threads env ⟨member, site, none⟩ := fun member hmember =>
    threads_of_merges env _ hstore (hnames.part (List.mem_append_right _ hmember))
      (hwithin member hmember)
  obtain ⟨made, hmade, hexpression⟩ :=
    settles_flattened hnames.names hmocks hvalues hthreads membership
  have hresolved := hmade.map_some (Schema.combined keywords .allOf properties members).typed
  rw [← resolver_of_unsettled membership rfl hunsettled] at hresolved
  obtain ⟨after, hok⟩ := hresolved.outcome trace
  exact ⟨_, after, hok, (Schema.expression_typed _ _).trans hexpression⟩

/-- A thing with a label of its own, which is once more a thing, or nothing, with a size. -/
def sizedThing : Json :=
  .obj [("properties", .obj [("label", .obj [("type", .str "integer")])]),
    ("required", .arr [.str "label"]),
    ("allOf", .arr [referenceNode "#/Thing", .obj [("nullable", .bool true),
      ("allOf", .arr [referenceNode "#/Thing",
        .obj [("properties", .obj [("size", .obj []), ("label", .obj [])])]])]])]

theorem all_of_is_flattened_sized :
    ∃ mock after, ((PlacedSchema.ofJson sizedThing ⟨"thing", none⟩).resolve mockResolver
        thingEnvironment (some ⟨.oneOf, ["id"]⟩)).outcome .empty = (.ok mock, after) ∧
      mock.expression = .object [("label", .primitive "faker.number.int()"),
        ("size", .oneOf [.object [], .undefined])] := by
  have hstore : thingEnvironment.store.Distinct := by
    refine .ofList (List.forall_mem_singleton.mpr ?_)
    simp [thingDocument, Json.Distinct, Json.DistinctMembers, Entries.keys]
  have hnode : sizedThing.Distinct := by
    simp [sizedThing, referenceNode, Json.Distinct, Json.DistinctMembers, Json.DistinctItems,
      Entries.keys]
  have hthing : thingEnvironment.MergesWithin
      ⟨.ofJson (referenceNode "#/Thing"), ⟨"thing", none⟩, none⟩ :=
    mergesWithin_reference_iff.mpr fun _ => mergesWithin_object _ _ _ _ _
  have hnested : thingEnvironment.MergesWithin ⟨.ofJson (.obj [("nullable", .bool true),
      ("allOf", .arr [referenceNode "#/Thing",
        .obj [("properties", .obj [("size", .obj []), ("label", .obj [])])]])]),
      ⟨"thing", none⟩, none⟩ := by
    refine mergesWithin_combined_iff.mpr ⟨?_, fun _ => ?_⟩
    · rintro _ _ _ ⟨⟩ -
      exact ⟨⟨[], .nil⟩, [_, _],
        .cons ⟨_, ⟨.empty, _, rfl⟩, rfl⟩ (.cons ⟨_, ⟨.empty, _, rfl⟩, rfl⟩ .nil)⟩
    · exact List.forall_mem_cons.mpr ⟨hthing,
        List.forall_mem_singleton.mpr (mergesWithin_object _ _ _ _ _)⟩
  obtain ⟨mock, after, hok, hexpression⟩ := all_of_is_flattened thingEnvironment
    (some ⟨.oneOf, ["id"]⟩) sizedThing ⟨"thing", none⟩ none .empty _ _ _ [("label", _)] [_, _]
    hstore hnode rfl ⟨rfl, rfl⟩ (.cons ⟨rfl, .empty, _, rfl⟩ .nil)
    (.cons ⟨_, ⟨.empty, _, rfl⟩, rfl⟩ (.cons ⟨_, ⟨.empty, _, rfl⟩, rfl⟩ .nil))
    (List.forall_mem_cons.mpr ⟨hthing, List.forall_mem_singleton.mpr hnested⟩)
  exact ⟨mock, after, hok, hexpression⟩

end SchemaMock
