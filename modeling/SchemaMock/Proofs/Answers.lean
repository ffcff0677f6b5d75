/-
# What a layer can make

Most of what is known about mocks is known about every mock that a resolution can give, whatever
trace it began with and whatever it left behind.  `x.Gives a` says that `x` can come to `a`.

* `Makes` says what a layer can make of a schema when its questions have been answered, with one
  case for each branch, and `makes_of_gives` that there is nothing else.
* `resolver_induction` turns a case analysis of `Makes` into a fact about all of the resolution:
  what is kept by one layer, and by following a reference, holds of every mock.
-/
import Mathlib.Data.List.Forall2
import SchemaMock.Proofs.Overrides

namespace SchemaMock

/-! ## 1. Results -/

namespace Resolve

variable {α β : Type}

/-- The resolution can come to the result `a`. -/
def Gives (x : Resolve α) (a : α) : Prop :=
  ∃ trace after, x.outcome trace = (.ok a, after)

theorem gives_pure_iff {a b : α} : (pure a : Resolve α).Gives b ↔ a = b := by
  constructor
  · rintro ⟨trace, after, h⟩
    cases h
    rfl
  · rintro rfl
    exact ⟨.empty, .empty, rfl⟩

theorem not_gives_throw {fault : MockFault} {a : α} : ¬ (throw fault : Resolve α).Gives a := by
  rintro ⟨trace, after, h⟩
  cases h

theorem Gives.of_bind {x : Resolve α} {f : α → Resolve β} {b : β} (h : (x >>= f).Gives b) :
    ∃ a, x.Gives a ∧ (f a).Gives b := by
  obtain ⟨trace, after, hout⟩ := h
  obtain ⟨a, left, hx, hf⟩ := bind_ok_iff.mp hout
  exact ⟨a, ⟨trace, left, hx⟩, left, after, hf⟩

theorem Gives.of_map {x : Resolve α} {f : α → β} {b : β} (h : (f <$> x).Gives b) :
    ∃ a, x.Gives a ∧ f a = b := by
  rw [map_eq_pure_bind] at h
  obtain ⟨a, ha, hb⟩ := h.of_bind
  exact ⟨a, ha, gives_pure_iff.mp hb⟩

end Resolve

open Resolve (Gives gives_pure_iff)

/-! ## 2. Answers about parts -/

section Answers

variable (ask : Resolver) (env : Environment)

/-- What was answered about the properties whose names had not been emitted, in their order. -/
def AnswersProperties (emitted : List String) (site : Site) (properties : List (String × Schema))
    (mocks : List (String × Mock)) : Prop :=
  List.Forall₂
    (fun property mock => property.1 = mock.1 ∧
      (ask env none ⟨property.2, site.property property.1, none⟩).Gives mock.2)
    (properties.filter fun property => !emitted.contains property.1) mocks

/-- What was answered about members of which one holds, in their order. -/
def AnswersVariants (membership : Membership) (site : Site) (members : List Schema)
    (mocks : List Mock) : Prop :=
  List.Forall₂ (fun member mock => (ask env (some membership) ⟨member, site, none⟩).Gives mock)
    members mocks

/-- What was made of members that hold all at once.  Each was asked for with the names that had been
emitted by then. -/
inductive AnswersMerged (site : Site) : List Schema → Merge → Merge → Prop
  | done (merge : Merge) : AnswersMerged site [] merge merge
  | member {member : Schema} {rest : List Schema} {merge result : Merge} {mock : Mock}
      (hmember : (ask env (some ⟨.allOf, merge.emitted⟩) ⟨member, site, none⟩).Gives mock)
      (hrest : AnswersMerged site rest (merge.addMember mock) result) :
      AnswersMerged site (member :: rest) merge result

end Answers

section Answered

variable {ask : Resolver} {env : Environment}

theorem answersProperties_of_gives {emitted : List String} {site : Site} :
    ∀ {properties : List (String × Schema)} {mocks : List (String × Mock)},
      (askProperties ask env emitted site properties).Gives mocks →
      AnswersProperties ask env emitted site properties mocks
  | [], mocks, h => by
    rw [← gives_pure_iff.mp h]
    exact .nil
  | (key, schema) :: rest, mocks, h => by
    simp only [askProperties] at h
    split at h
    · next hemitted =>
      rw [AnswersProperties, List.filter_cons_of_neg (by simpa using hemitted)]
      exact answersProperties_of_gives h
    · next hemitted =>
      obtain ⟨mock, hmock, h⟩ := h.of_bind
      obtain ⟨others, hothers, h⟩ := h.of_bind
      rw [← gives_pure_iff.mp h, AnswersProperties,
        List.filter_cons_of_pos (by simpa using hemitted)]
      exact .cons ⟨rfl, hmock⟩ (answersProperties_of_gives hothers)

theorem answersMerged_of_gives {site : Site} :
    ∀ {members : List Schema} {merge result : Merge},
      (askMerged ask env site members merge).Gives result →
      AnswersMerged ask env site members merge result
  | [], merge, result, h => by
    rw [← gives_pure_iff.mp h]
    exact .done merge
  | member :: rest, merge, result, h => by
    simp only [askMerged] at h
    obtain ⟨mock, hmock, h⟩ := h.of_bind
    exact .member hmock (answersMerged_of_gives h)

theorem answersVariants_of_gives {membership : Membership} {site : Site} :
    ∀ {members : List Schema} {mocks : List Mock},
      (askVariants ask env membership site members).Gives mocks →
      AnswersVariants ask env membership site members mocks
  | [], mocks, h => by
    rw [← gives_pure_iff.mp h]
    exact .nil
  | member :: rest, mocks, h => by
    simp only [askVariants] at h
    obtain ⟨mock, hmock, h⟩ := h.of_bind
    obtain ⟨others, hothers, h⟩ := h.of_bind
    rw [← gives_pure_iff.mp h]
    exact .cons hmock (answersVariants_of_gives hothers)

/-- The names of the answers are those of the properties that had not been emitted. -/
theorem AnswersProperties.names_eq {emitted : List String} {site : Site}
    {properties : List (String × Schema)} {mocks : List (String × Mock)}
    (h : AnswersProperties ask env emitted site properties mocks) :
    mocks.map Prod.fst
      = (properties.filter fun property => !emitted.contains property.1).map Prod.fst := by
  have hnames : List.Forall₂ (· = ·)
      ((properties.filter fun property => !emitted.contains property.1).map Prod.fst)
      (mocks.map Prod.fst) := by
    rw [List.forall₂_map_left_iff, List.forall₂_map_right_iff]
    exact h.imp fun _ _ hfirst => hfirst.1
  rw [List.forall₂_eq_eq_eq] at hnames
  exact hnames.symm

/-- Of two lists that are related one by one, what is in the second is related to something in the
first. -/
theorem exists_of_forall₂ {α β : Type} {R : α → β → Prop} {as : List α} {bs : List β}
    (h : List.Forall₂ R as bs) {b : β} (hb : b ∈ bs) : ∃ a ∈ as, R a b := by
  induction h with
  | nil => exact absurd hb List.not_mem_nil
  | cons hfirst _ ih =>
    rcases List.mem_cons.mp hb with rfl | hb
    · exact ⟨_, List.mem_cons_self, hfirst⟩
    · obtain ⟨a, ha, hR⟩ := ih hb
      exact ⟨a, List.mem_cons_of_mem _ ha, hR⟩

/-- Every answer about a property is one about a part of the schema. -/
theorem AnswersProperties.gives {emitted : List String} {site : Site}
    {properties : List (String × Schema)} {mocks : List (String × Mock)}
    (h : AnswersProperties ask env emitted site properties mocks) :
    ∀ mock ∈ mocks.map Prod.snd, ∃ part ∈ properties.map Prod.snd, ∃ site',
      (ask env none ⟨part, site', none⟩).Gives mock := by
  intro mock hmock
  obtain ⟨named, hnamed, rfl⟩ := List.mem_map.mp hmock
  obtain ⟨property, hproperty, -, hgives⟩ := exists_of_forall₂ h hnamed
  exact ⟨property.2, List.mem_map_of_mem (List.mem_of_mem_filter hproperty), _, hgives⟩

theorem AnswersVariants.gives {membership : Membership} {site : Site} {members : List Schema}
    {mocks : List Mock} (h : AnswersVariants ask env membership site members mocks) :
    ∀ mock ∈ mocks, ∃ member ∈ members,
      (ask env (some membership) ⟨member, site, none⟩).Gives mock :=
  fun _ hmock => exists_of_forall₂ h hmock

/-- What holds before the members are merged, and is kept by each of them, holds behind them. -/
theorem AnswersMerged.invariant {site : Site} {members : List Schema} {merge result : Merge}
    (h : AnswersMerged ask env site members merge result) {I : Merge → Prop} (hbegin : I merge)
    (hstep : ∀ member ∈ members, ∀ (merge : Merge) (mock : Mock), I merge →
      (ask env (some ⟨.allOf, merge.emitted⟩) ⟨member, site, none⟩).Gives mock →
      I (merge.addMember mock)) : I result := by
  induction h with
  | done => exact hbegin
  | member hmember _ ih =>
    exact ih (hstep _ List.mem_cons_self _ _ hbegin hmember)
      fun other hother => hstep other (List.mem_cons_of_mem _ hother)

end Answered

/-! ## 3. Layers -/

/-- The value of a document that settles a schema: its example, where examples are used, or else its
constant. -/
def Environment.constant? (env : Environment) (schema : Schema) : Option Json :=
  (if env.settings.useExamples then Entries.get? "example" schema.keywords else none).or
    (Entries.get? "const" schema.keywords)

/-- What can be made of an inline schema that nothing settles. -/
inductive MakesOfParts (ask : Resolver) (env : Environment) (membership : Option Membership) :
    PlacedSchema → Mock → Prop
  /-- An enumeration that a reference led to is used by its name. -/
  | named {keywords : Keywords} {site : Site} {name : String} {values : List Json}
      (hvalues : Keywords.enumeration? keywords = some values) :
      MakesOfParts ask env membership ⟨.plain keywords, site, some name⟩
        ⟨(Expression.primitive (namedEnumeration name)).orNull (Keywords.nullable keywords),
          [⟨name, some env.documentKey, true⟩], site.name, false, none⟩
  | listed {keywords : Keywords} {site : Site} {values : List Json}
      (hvalues : Keywords.enumeration? keywords = some values) :
      MakesOfParts ask env membership ⟨.plain keywords, site, none⟩
        (.ofExpression ((Expression.primitive (listedEnumeration values)).orNull
          (Keywords.nullable keywords)) site.name)
  | plain {keywords : Keywords} {site : Site} {definition : Option String}
      (hvalues : Keywords.enumeration? keywords = none) :
      MakesOfParts ask env membership ⟨.plain keywords, site, definition⟩
        (.ofExpression ((PlainSchema.expression env.settings keywords).orNull
          (Keywords.nullable keywords)) site.name)
  | array {keywords : Keywords} {items : Schema} {site : Site} {definition : Option String}
      {item : Mock} (hitem : (ask env none ⟨items, site.item, none⟩).Gives item) :
      MakesOfParts ask env membership ⟨.array keywords items, site, definition⟩
        (composedMock ⟨.array keywords items, site, definition⟩
          (.array item.expression (itemBounds env.settings keywords).1
            (itemBounds env.settings keywords).2) item.imports)
  | object {keywords : Keywords} {properties : List (String × Schema)} {site : Site}
      {definition : Option String} {mocks : List (String × Mock)}
      (hmocks : AnswersProperties ask env (emittedNames membership) site properties mocks) :
      MakesOfParts ask env membership ⟨.object keywords properties, site, definition⟩
        (composedMock ⟨.object keywords properties, site, definition⟩
          (.object (ownProperties env.settings (Keywords.required keywords) mocks))
          (importsOf (mocks.map Prod.snd)))
  /-- Members that hold all at once are merged with the properties beside the combinator. -/
  | merged {keywords : Keywords} {properties : List (String × Schema)} {members : List Schema}
      {site : Site} {definition : Option String} {mocks : List (String × Mock)}
      {own : List (String × Expression)} {merge : Merge}
      (hmocks : AnswersProperties ask env (emittedNames membership) site properties mocks)
      (hown : own = ownProperties env.settings (Keywords.required keywords) mocks)
      (hmerge : AnswersMerged ask env site members
        ⟨emittedNames membership ++ own.map Prod.fst, own, none, importsOf (mocks.map Prod.snd)⟩
        merge) :
      MakesOfParts ask env membership
        ⟨.combined keywords .allOf properties members, site, definition⟩
        (composedMock ⟨.combined keywords .allOf properties members, site, definition⟩
          merge.expression merge.imports)
  /-- Each of the members of which one holds gets the properties beside the combinator. -/
  | chosen {keywords : Keywords} {combinator : Combinator} {properties : List (String × Schema)}
      {members : List Schema} {site : Site} {definition : Option String}
      {mocks : List (String × Mock)} {own : List (String × Expression)} {variants : List Mock}
      (hcombinator : combinator ≠ .allOf)
      (hmocks : AnswersProperties ask env (emittedNames membership) site properties mocks)
      (hown : own = ownProperties env.settings (Keywords.required keywords) mocks)
      (hvariants : AnswersVariants ask env
        ⟨combinator, emittedNames membership ++ own.map Prod.fst⟩ site members variants) :
      MakesOfParts ask env membership
        ⟨.combined keywords combinator properties members, site, definition⟩
        (composedMock ⟨.combined keywords combinator properties members, site, definition⟩
          (.chosen own (variants.map fun mock => mock.expression.behind own))
          (variants.foldl (fun imports mock => withImports imports mock.imports)
            (importsOf (mocks.map Prod.snd))))

/-- What a layer can make of a schema. -/
inductive Makes (ask : Resolver) (env : Environment) (membership : Option Membership) :
    PlacedSchema → Mock → Prop
  /-- A reference is handed on. -/
  | asked {target : String} {site : Site} {definition : Option String} {mock : Mock}
      (h : (ask env membership ⟨.reference target, site, definition⟩).Gives mock) :
      Makes ask env membership ⟨.reference target, site, definition⟩ mock
  | overridden {placed : PlacedSchema} {rule : Rule} (hinline : placed.schema.reference? = none)
      (hrule : env.rules.inOrder.first? placed.site = some rule) :
      Makes ask env membership placed (rule.mock placed)
  | constant {placed : PlacedSchema} {value : Json} (hinline : placed.schema.reference? = none)
      (hrule : env.rules.inOrder.first? placed.site = none)
      (hvalue : env.constant? placed.schema = some value) :
      Makes ask env membership placed (constantMock placed value)
  | made {placed : PlacedSchema} {mock : Mock} (hinline : placed.schema.reference? = none)
      (hrule : env.rules.inOrder.first? placed.site = none)
      (hvalue : env.constant? placed.schema = none)
      (h : MakesOfParts ask env membership placed mock) : Makes ask env membership placed mock

section Layers

variable {ask : Resolver} {env : Environment} {membership : Option Membership}
  {placed : PlacedSchema} {mock : Mock}

/-- What is settled before a schema is looked into, and what is left to be made. -/
theorem makes_of_settledOr {made : Resolve Mock} (hinline : placed.schema.reference? = none)
    (hmade : made.Gives mock → MakesOfParts ask env membership placed mock)
    (h : (settledOr env placed made).Gives mock) : Makes ask env membership placed mock := by
  simp only [settledOr, ActiveRules.mock?_eq] at h
  cases hrule : env.rules.inOrder.first? placed.site with
  | some rule =>
    simp only [hrule, Option.map_some] at h
    obtain ⟨-, -, h⟩ := h.of_bind
    rw [← gives_pure_iff.mp h]
    exact .overridden hinline hrule
  | none =>
    simp only [hrule, Option.map_none] at h
    cases hvalue : env.constant? placed.schema with
    | some value =>
      rw [Environment.constant?] at hvalue
      simp only [hvalue] at h
      rw [← gives_pure_iff.mp h]
      exact .constant hinline hrule hvalue
    | none =>
      have hvalue' := hvalue
      rw [Environment.constant?] at hvalue'
      simp only [hvalue'] at h
      exact .made hinline hrule hvalue (hmade h)

theorem makesOfParts_plain {keywords : Keywords} {site : Site} {definition : Option String}
    (h : (plainMock env ⟨.plain keywords, site, definition⟩).Gives mock) :
    MakesOfParts ask env membership ⟨.plain keywords, site, definition⟩ mock := by
  have hkeywords : (Schema.plain keywords).keywords = keywords := rfl
  simp only [plainMock, hkeywords] at h
  cases hvalues : Keywords.enumeration? keywords with
  | none =>
    simp only [hvalues] at h
    rw [← gives_pure_iff.mp h]
    exact .plain hvalues
  | some values =>
    simp only [hvalues, enumerationMock] at h
    cases definition with
    | none =>
      rw [← gives_pure_iff.mp h]
      exact .listed hvalues
    | some name =>
      obtain ⟨-, -, h⟩ := h.of_bind
      rw [← gives_pure_iff.mp h]
      exact .named hvalues

theorem makesOfParts_combined {keywords : Keywords} {combinator : Combinator}
    {properties : List (String × Schema)} {members : List Schema} {site : Site}
    {definition : Option String}
    (h : (askCombined ask env membership
      ⟨.combined keywords combinator properties members, site, definition⟩ combinator properties
      members).Gives mock) :
    MakesOfParts ask env membership
      ⟨.combined keywords combinator properties members, site, definition⟩ mock := by
  simp only [askCombined] at h
  obtain ⟨mocks, hmocks, h⟩ := h.of_bind
  have hanswers := answersProperties_of_gives hmocks
  cases combinator with
  | allOf =>
    obtain ⟨merge, hmerge, h⟩ := h.of_bind
    rw [← gives_pure_iff.mp h]
    exact .merged hanswers rfl (answersMerged_of_gives hmerge)
  | oneOf | anyOf =>
    obtain ⟨variants, hvariants, h⟩ := h.of_bind
    rw [← gives_pure_iff.mp h]
    exact .chosen (by decide) hanswers rfl (answersVariants_of_gives hvariants)

/-- **There is nothing else that a layer can make.** -/
theorem makes_of_gives (h : (makeLayer ask env membership placed).Gives mock) :
    Makes ask env membership placed mock := by
  obtain ⟨schema, site, definition⟩ := placed
  cases schema with
  | reference target => exact .asked h
  | plain keywords => exact makes_of_settledOr rfl makesOfParts_plain h
  | array keywords items =>
    refine makes_of_settledOr rfl (fun h => ?_) h
    obtain ⟨item, hitem, h⟩ := h.of_bind
    rw [← gives_pure_iff.mp h]
    exact .array hitem
  | object keywords properties =>
    refine makes_of_settledOr rfl (fun h => ?_) h
    obtain ⟨mocks, hmocks, h⟩ := h.of_bind
    rw [← gives_pure_iff.mp h]
    exact .object (answersProperties_of_gives hmocks)
  | combined keywords combinator properties members =>
    exact makes_of_settledOr rfl makesOfParts_combined h

/-! ## 4. The whole resolution -/

theorem Schema.expression_typed (schema : Schema) (mock : Mock) :
    (schema.typed mock).expression = mock.expression := by
  cases schema <;> rfl

theorem Schema.imports_typed (schema : Schema) (mock : Mock) :
    (schema.typed mock).imports = mock.imports := by
  cases schema <;> rfl

/-- Following a reference gives what is made at its target. -/
theorem gives_of_followLayer {reference : String} {site : Site}
    (h : (followLayer ask env membership reference site).Gives mock) :
    ∃ made, (makeLayer ask (env.inside reference) membership (env.followed reference site)).Gives
        made ∧ (env.followed reference site).schema.typed made = mock := by
  obtain ⟨trace, after, hout⟩ := h
  obtain ⟨-, made, left, hmade, htyped, -⟩ := followLayer_ok_iff.mp hout
  exact ⟨made, ⟨_, left, hmade⟩, htyped⟩

/-- **What one layer keeps holds of every mock.**  It must not depend on the type of a mock, hold of
a reference where it holds of what stands at its target, and hold of what can be made where it holds
of the answers. -/
theorem resolver_induction
    {P : Environment → Option Membership → PlacedSchema → Mock → Prop}
    (typed : ∀ {env membership placed mock}, P env membership placed mock →
      P env membership placed (placed.schema.typed mock))
    (follows : ∀ {env membership reference site definition mock},
      P (env.inside reference) membership (env.followed reference site) mock →
      P env membership ⟨.reference reference, site, definition⟩ mock)
    (makes : ∀ {ask : Resolver}, (∀ env membership placed mock,
        (ask env membership placed).Gives mock → P env membership placed mock) →
      ∀ {env membership placed mock}, Makes ask env membership placed mock →
        P env membership placed mock)
    (h : (resolver env membership placed).Gives mock) : P env membership placed mock := by
  refine resolver_of_layers (Q := fun env membership placed x =>
    ∀ mock, x.Gives mock → P env membership placed mock) ?_ ?_ env membership placed mock h
  · exact fun _ _ _ _ h => absurd h Resolve.not_gives_throw
  · intro ask hask env membership placed mock h
    obtain ⟨schema, site, definition⟩ := placed
    cases schema with
    | reference reference =>
      obtain ⟨made, hmade, rfl⟩ := gives_of_followLayer h
      exact follows (typed (makes hask (makes_of_gives hmade)))
    | plain | array | object | combined =>
      obtain ⟨made, hmade, rfl⟩ := h.of_map
      exact typed (makes hask (makes_of_gives hmade))

end Layers

end SchemaMock
