/-
# Resolution, one layer at a time

The resolution of a schema asks for the resolution of its parts, and, where a reference leads to
another reference, for the resolution of that.  `resolveLayer` is what is done between one such
question and the next, with the answers left to whoever is asked; it follows no reference twice and
looks into no part.  `deepen` puts layers on top of one another, with anything at all underneath.

The layer and the recursion on the tree of a schema are two descriptions of one thing: making a
schema is one layer on top of making its parts (`make_eq_makeLayer`).  Whoever asks a layer for a
part has no use for the declared type of the answer (`makeLayer_typed`), which is why making leaves
it out.
-/
import SchemaMock.Proofs.Outcome
import SchemaMock.Proofs.Parts
import SchemaMock.Resolution.Following

namespace SchemaMock

/-! ## 1. Layers -/

/-- What answers with the mock of a schema at its site, whether it is a reference or not. -/
abbrev Resolver := Environment → Option Membership → PlacedSchema → Resolve Mock

/-- The mocks of properties, asked for one after another. -/
def askProperties (ask : Resolver) (env : Environment) (emitted : List String) (site : Site) :
    List (String × Schema) → Resolve (List (String × Mock))
  | [] => pure []
  | (key, schema) :: rest =>
    if emitted.contains key then askProperties ask env emitted site rest
    else do
      let mock ← ask env none ⟨schema, site.property key, none⟩
      let mocks ← askProperties ask env emitted site rest
      pure ((key, mock) :: mocks)

/-- Members that hold all at once, asked for and merged one after another. -/
def askMerged (ask : Resolver) (env : Environment) (site : Site) :
    List Schema → Merge → Resolve Merge
  | [], merge => pure merge
  | member :: rest, merge => do
    let mock ← ask env (some ⟨.allOf, merge.emitted⟩) ⟨member, site, none⟩
    askMerged ask env site rest (merge.addMember mock)

/-- The mocks of members of which one holds, asked for one after another. -/
def askVariants (ask : Resolver) (env : Environment) (membership : Membership) (site : Site) :
    List Schema → Resolve (List Mock)
  | [] => pure []
  | member :: rest => do
    let mock ← ask env (some membership) ⟨member, site, none⟩
    let mocks ← askVariants ask env membership site rest
    pure (mock :: mocks)

/-- The mock of a combination, from the mocks of the properties beside the combinator, and from its
members. -/
def combineWith (ask : Resolver) (env : Environment) (membership : Option Membership)
    (placed : PlacedSchema) (combinator : Combinator) (members : List Schema)
    (mocks : List (String × Mock)) : Resolve Mock :=
  let own := ownProperties env.settings (Keywords.required placed.schema.keywords) mocks
  let imports := importsOf (mocks.map Prod.snd)
  let emitted := emittedNames membership ++ own.map Prod.fst
  match combinator with
  | .allOf => do
    let merge ← askMerged ask env placed.site members ⟨emitted, own, none, imports⟩
    pure (composedMock placed merge.expression merge.imports)
  | combinator => do
    let variants ← askVariants ask env ⟨combinator, emitted⟩ placed.site members
    let choices := variants.map fun mock => mock.expression.behind own
    let imports := variants.foldl (fun imports mock => withImports imports mock.imports) imports
    pure (composedMock placed (.chosen own choices) imports)

/-- The mock of a combination, from the properties beside the combinator and the members. -/
def askCombined (ask : Resolver) (env : Environment) (membership : Option Membership)
    (placed : PlacedSchema) (combinator : Combinator) (properties : List (String × Schema))
    (members : List Schema) : Resolve Mock :=
  askProperties ask env (emittedNames membership) placed.site properties >>=
    combineWith ask env membership placed combinator members

/-- The mock of a schema that nothing settles, from the mocks of its parts. -/
def askParts (ask : Resolver) (env : Environment) (membership : Option Membership)
    (placed : PlacedSchema) : Resolve Mock :=
  match placed.schema with
  | .reference _ => ask env membership placed
  | .plain _ => plainMock env placed
  | .array keywords items => do
    let item ← ask env none ⟨items, placed.site.item, none⟩
    let (min, max) := itemBounds env.settings keywords
    pure (composedMock placed (.array item.expression min max) item.imports)
  | .object keywords properties => do
    let mocks ← askProperties ask env (emittedNames membership) placed.site properties
    let own := ownProperties env.settings (Keywords.required keywords) mocks
    pure (composedMock placed (.object own) (importsOf (mocks.map Prod.snd)))
  | .combined _ combinator properties members =>
    askCombined ask env membership placed combinator properties members

/-- The mock of a schema, from the mocks of its parts.  A reference is handed on as it is. -/
def makeLayer (ask : Resolver) (env : Environment) (membership : Option Membership)
    (placed : PlacedSchema) : Resolve Mock :=
  match placed.schema with
  | .reference _ => ask env membership placed
  | _ => settledOr env placed (askParts ask env membership placed)

/-- What is done for a reference: its target is entered, made, and reported. -/
def followLayer (ask : Resolver) (env : Environment) (membership : Option Membership)
    (reference : String) (site : Site) : Resolve Mock := do
  let target := Reference.read reference env.documentKey
  let documentKey := target.document env.documentKey
  let inner ← Resolve.ofExcept (env.enter (target.address env.documentKey) documentKey)
  let placed ← targetSchema env reference target (site.named target.name)
  let mock ← makeLayer ask inner membership placed
  let mock := placed.schema.typed mock
  Resolve.record (.reference target mock)
  pure mock

/-- One layer of the resolution: what is done between one question and the next. -/
def resolveLayer (ask : Resolver) : Resolver := fun env membership placed =>
  match placed.schema with
  | .reference reference => followLayer ask env membership reference placed.site
  | schema => schema.typed <$> makeLayer ask env membership placed

/-- A layer for an inline schema makes it. -/
theorem resolveLayer_of_inline (ask : Resolver) (env : Environment)
    (membership : Option Membership) {placed : PlacedSchema}
    (hinline : placed.schema.reference? = none) :
    resolveLayer ask env membership placed
      = placed.schema.typed <$> makeLayer ask env membership placed := by
  obtain ⟨schema, site, definition⟩ := placed
  cases schema with
  | reference target => exact absurd hinline (Option.some_ne_none target)
  | plain | array | object | combined => rfl

/-- Whatever is asked for, there is no answer. -/
def unanswered : Resolver := fun _ _ _ => throw (.cyclic "" [])

/-- As many layers as are told on top of one another, with `beyond` below them. -/
def deepen (beyond : Resolver) : (layers : Nat) → Resolver
  | 0 => beyond
  | layers + 1 => resolveLayer (deepen beyond layers)

/-! ## 2. Types of answers -/

/-- A mock without its declared type. -/
def Mock.untyped (mock : Mock) : Mock := { mock with type := none }

theorem Schema.untyped_typed (schema : Schema) (mock : Mock) :
    (schema.typed mock).untyped = mock.untyped := by
  cases schema <;> rfl

/-- Named mocks without their declared types. -/
def untypedAll (mocks : List (String × Mock)) : List (String × Mock) :=
  mocks.map fun e => (e.1, e.2.untyped)

theorem ownProperties_untypedAll (settings : Settings) (required : List String)
    (mocks : List (String × Mock)) :
    ownProperties settings required (untypedAll mocks) = ownProperties settings required mocks := by
  simp only [ownProperties, untypedAll, List.map_map]
  rfl

theorem importsOf_map_untyped (imports : List Import) (mocks : List Mock) :
    (mocks.map Mock.untyped).foldl (fun imports mock => withImports imports mock.imports) imports
      = mocks.foldl (fun imports mock => withImports imports mock.imports) imports := by
  rw [List.foldl_map]
  rfl

theorem importsOf_untypedAll (mocks : List (String × Mock)) :
    importsOf ((untypedAll mocks).map Prod.snd) = importsOf (mocks.map Prod.snd) := by
  rw [importsOf, importsOf, ← importsOf_map_untyped [] (mocks.map Prod.snd)]
  simp only [untypedAll, List.map_map]
  rfl

/-- What answers with the declared type of the schema as well. -/
def typedAsk (ask : Resolver) : Resolver := fun env membership placed =>
  placed.schema.typed <$> ask env membership placed

theorem untyped_typedAsk (ask : Resolver) (env : Environment) (membership : Option Membership)
    (placed : PlacedSchema) :
    Mock.untyped <$> typedAsk ask env membership placed
      = Mock.untyped <$> ask env membership placed := by
  simp only [typedAsk, Functor.map_map, Schema.untyped_typed]

/-- Dropping the types of the answers about properties, one property at a time. -/
theorem untypedAll_cons (key : String) (x : Resolve Mock) (xs : Resolve (List (String × Mock))) :
    untypedAll <$> (do let mock ← x; let mocks ← xs; pure ((key, mock) :: mocks))
      = (do let mock ← Mock.untyped <$> x; let mocks ← untypedAll <$> xs
            pure ((key, mock) :: mocks)) := by
  simp [untypedAll, map_bind, bind_map_left]

theorem askProperties_typed (ask : Resolver) (env : Environment) (emitted : List String)
    (site : Site) : ∀ properties : List (String × Schema),
    untypedAll <$> askProperties (typedAsk ask) env emitted site properties
      = untypedAll <$> askProperties ask env emitted site properties
  | [] => rfl
  | (key, schema) :: rest => by
    have ih := askProperties_typed ask env emitted site rest
    simp only [askProperties]
    split
    · exact ih
    · rw [untypedAll_cons, untypedAll_cons, ih, untyped_typedAsk]

theorem askMerged_typed (ask : Resolver) (env : Environment) (site : Site) :
    ∀ (members : List Schema) (merge : Merge),
      askMerged (typedAsk ask) env site members merge = askMerged ask env site members merge
  | [], _ => rfl
  | member :: rest, merge => by
    have hmember : ∀ mock : Mock, merge.addMember (member.typed mock) = merge.addMember mock := by
      intro mock
      cases member <;> rfl
    simp only [askMerged, typedAsk, bind_map_left, hmember, askMerged_typed ask env site rest]

/-- Dropping the types of the answers about members, one member at a time. -/
theorem map_untyped_cons (x : Resolve Mock) (xs : Resolve (List Mock)) :
    List.map Mock.untyped <$> (do let mock ← x; let mocks ← xs; pure (mock :: mocks))
      = (do let mock ← Mock.untyped <$> x; let mocks ← List.map Mock.untyped <$> xs
            pure (mock :: mocks)) := by
  simp [map_bind, bind_map_left]

theorem askVariants_typed (ask : Resolver) (env : Environment) (membership : Membership)
    (site : Site) : ∀ members : List Schema,
    List.map Mock.untyped <$> askVariants (typedAsk ask) env membership site members
      = List.map Mock.untyped <$> askVariants ask env membership site members
  | [] => rfl
  | member :: rest => by
    have ih := askVariants_typed ask env membership site rest
    simp only [askVariants]
    rw [map_untyped_cons, map_untyped_cons, ih, untyped_typedAsk]

/-- Two resolutions can be exchanged in front of a step that does not look at where they differ. -/
theorem bind_eq_of_map_eq {α β : Type} {x y : Resolve α} {view : α → α} {f : α → Resolve β}
    (h : view <$> x = view <$> y) (hf : ∀ a, f (view a) = f a) : x >>= f = y >>= f := by
  have hview : ∀ z : Resolve α, z >>= f = (view <$> z) >>= f := by
    intro z
    simp only [bind_map_left, hf]
  rw [hview x, hview y, h]

section Combinations

variable (ask : Resolver) (env : Environment) (membership : Option Membership)
  (placed : PlacedSchema) (combinator : Combinator) (members : List Schema)

theorem combineWith_typed (mocks : List (String × Mock)) :
    combineWith (typedAsk ask) env membership placed combinator members mocks
      = combineWith ask env membership placed combinator members mocks := by
  cases combinator with
  | allOf => simp only [combineWith, askMerged_typed]
  | oneOf | anyOf =>
    simp only [combineWith]
    refine bind_eq_of_map_eq (askVariants_typed ask env _ placed.site members) ?_
    intro variants
    simp only [importsOf_map_untyped, List.map_map]
    rfl

theorem combineWith_untypedAll (mocks : List (String × Mock)) :
    combineWith ask env membership placed combinator members (untypedAll mocks)
      = combineWith ask env membership placed combinator members mocks := by
  simp only [combineWith, ownProperties_untypedAll, importsOf_untypedAll]

theorem askCombined_typed (properties : List (String × Schema)) :
    askCombined (typedAsk ask) env membership placed combinator properties members
      = askCombined ask env membership placed combinator properties members := by
  simp only [askCombined, funext (combineWith_typed ask env membership placed combinator members)]
  exact bind_eq_of_map_eq (askProperties_typed ask env _ placed.site properties)
    (combineWith_untypedAll ask env membership placed combinator members)

end Combinations

/-- **A layer has no use for the declared types of its answers.** -/
theorem makeLayer_typed (ask : Resolver) : makeLayer (typedAsk ask) = makeLayer ask := by
  funext env membership placed
  obtain ⟨schema, site, definition⟩ := placed
  cases schema with
  | reference target => exact id_map _
  | plain keywords => rfl
  | array keywords items =>
    simp only [makeLayer, askParts, typedAsk, bind_map_left]
    cases items <;> rfl
  | object keywords properties =>
    simp only [makeLayer, askParts]
    congr 1
    refine bind_eq_of_map_eq (askProperties_typed ask env _ site properties) ?_
    intro mocks
    rw [ownProperties_untypedAll, importsOf_untypedAll]
  | combined keywords combinator properties members =>
    simp only [makeLayer, askParts, askCombined_typed]

/-! ## 3. The recursion on the tree, in layers -/

/-- What answers by making, with references left to `follow`. -/
def makeAsk (follow : Follow) : Resolver := fun env membership placed =>
  make follow placed.schema env membership placed.site placed.definition

theorem makeProperties_eq (follow : Follow) (env : Environment) (emitted : List String)
    (site : Site) : ∀ properties : List (String × Schema),
    makeProperties follow properties env emitted site
      = askProperties (makeAsk follow) env emitted site properties
  | [] => rfl
  | (key, schema) :: rest => by
    simp only [makeProperties, askProperties, makeAsk,
      makeProperties_eq follow env emitted site rest]

theorem makeMerged_eq (follow : Follow) (env : Environment) (site : Site) :
    ∀ (members : List Schema) (merge : Merge),
      makeMerged follow members env site merge = askMerged (makeAsk follow) env site members merge
  | [], _ => rfl
  | member :: rest, merge => by
    simp only [makeMerged, askMerged, makeAsk, makeMerged_eq follow env site rest]

theorem makeVariants_eq (follow : Follow) (env : Environment) (membership : Membership)
    (site : Site) : ∀ members : List Schema,
    makeVariants follow members env membership site
      = askVariants (makeAsk follow) env membership site members
  | [] => rfl
  | member :: rest => by
    simp only [makeVariants, askVariants, makeAsk, makeVariants_eq follow env membership site rest]

/-- **Making a schema is one layer on top of making its parts.** -/
theorem make_eq_makeLayer (follow : Follow) : makeAsk follow = makeLayer (makeAsk follow) := by
  funext env membership placed
  obtain ⟨schema, site, definition⟩ := placed
  cases schema with
  | reference target => rfl
  | plain keywords => rfl
  | array keywords items => simp only [makeAsk, make, makeLayer, askParts]
  | object keywords properties =>
    simp only [makeAsk, make, makeLayer, askParts, makeProperties_eq]
  | combined keywords combinator properties members =>
    simp only [makeAsk, make, makeLayer, askParts, askCombined, makeProperties_eq, makeMerged_eq,
      makeVariants_eq]
    cases combinator with
    | allOf | oneOf | anyOf => rfl

theorem mockResolver_eq (follow : Follow) : mockResolver follow = makeLayer (makeAsk follow) := by
  rw [← make_eq_makeLayer]
  rfl

/-- Following with some of the budget left is one layer. -/
theorem followWithin_succ (budget : Nat) (env : Environment) (membership : Option Membership)
    (reference : String) (site : Site) :
    followWithin mockResolver (budget + 1) env membership reference site
      = followLayer (makeAsk (followWithin mockResolver budget)) env membership reference site := by
  simp only [followWithin, followLayer, mockResolver_eq]

/-- Resolving is making, with the declared type. -/
theorem resolve_eq_typedAsk (env : Environment) (membership : Option Membership)
    (placed : PlacedSchema) :
    placed.resolve mockResolver env membership
      = typedAsk (makeAsk (followWithin mockResolver env.store.longestBranch)) env membership
          placed := by
  obtain ⟨schema, site, definition⟩ := placed
  cases schema with
  | reference target => exact (id_map _).symm
  | plain | array | object | combined => rfl

/-- The resolution of whatever is asked for. -/
def resolver : Resolver := fun env membership placed => placed.resolve mockResolver env membership

end SchemaMock
