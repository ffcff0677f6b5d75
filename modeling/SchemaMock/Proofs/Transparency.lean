/-
# References are transparent

What is mocked for a reference is what would be mocked if the schema at its end stood in its place,
in the document of that end.  Two things are different at the end, and neither is seen in a mock:
there are more addresses on the way, which can only make a resolution fail, and the definition has a
name, which is looked at for enumerations only.
-/
import SchemaMock.Proofs.Chains
import SchemaMock.Proofs.Cycles
import SchemaMock.Proofs.Hops

namespace SchemaMock

/-- The name of the definition is looked at for enumerations only. -/
theorem makeLayer_definition {schema : Schema} (hinline : schema.reference? = none)
    (henumeration : Keywords.enumeration? schema.keywords = none) (ask : Resolver)
    (env : Environment) (membership : Option Membership) (site : Site)
    (definition : Option String) :
    makeLayer ask env membership ⟨schema, site, definition⟩
      = makeLayer ask env membership ⟨schema, site, none⟩ := by
  cases schema with
  | reference target => exact absurd hinline (Option.some_ne_none target)
  | plain keywords =>
    have hplain : ∀ definition, plainMock env ⟨.plain keywords, site, definition⟩
        = pure (.ofExpression ((PlainSchema.expression env.settings keywords).orNull
            (Schema.plain keywords).nullable) site.name) := by
      intro definition
      rw [plainMock, henumeration]
      rfl
    simp only [makeLayer, askParts, hplain]
    rfl
  | array | object | combined => rfl

/-- The environment at the end of a way, with no more addresses than at its beginning. -/
theorem freer_along (env : Environment) (hops : List Target) (last : Target) :
    (env.along (hops ++ [last])).Freer { env with documentKey := last.documentKey } where
  documentKey := env.along_documentKey hops last
  settings := env.along_settings _
  rules := env.along_rules _
  store := env.along_store _
  chain := by
    rw [env.along_chain]
    exact List.subset_append_left _ _

/-- What is made at the end of a way is made in its place. -/
theorem makeLayer_along_within (env : Environment) (membership : Option Membership)
    (hops : List Target) (last : Target) (placed : PlacedSchema) :
    (makeLayer resolver (env.along (hops ++ [last])) membership placed).WithinEvents
      (makeLayer resolver { env with documentKey := last.documentKey } membership placed) := by
  have hfreer := freer_along env hops last
  exact makeLayer_compat compatible_withinEvents.toCompatible hfreer.toAlike membership placed
    (fun _ => resolver_withinEvents hfreer membership placed)
    fun _ _ _ _ => resolver_withinEvents hfreer _ _

/-- **References are transparent.**  A reference that is resolved at a site with a name has an end;
and unless an enumeration stands there, the same mock, with the same imports, comes of the schema at
the end, in its document, with no other addresses on the way than before. -/
theorem reference_transparent (env : Environment) (membership : Option Membership)
    (reference : String) (site : Site) (trace after : Trace) (mock : Mock)
    (hname : site.name ≠ "")
    (hok : ((PlacedSchema.reference reference site).resolve mockResolver env membership).outcome
      trace = (.ok mock, after)) :
    (∃ hops last, Follows env.store env.documentKey reference hops last) ∧
      ∀ hops last, Follows env.store env.documentKey reference hops last →
        Keywords.enumeration? (env.store.schemaAt last).keywords = none →
        ∃ after', ((PlacedSchema.ofJson (env.store.node last) site).resolve mockResolver
          { env with documentKey := last.documentKey } membership).outcome trace
            = (.ok mock, after') ∧ after'.imports = after.imports := by
  constructor
  · obtain ⟨hops, last, hfollows, -⟩ := follows_of_ok hok
    exact ⟨hops, last, hfollows⟩
  · intro hops last hfollows henumeration
    have hinline := hfollows.reference?_eq_none
    obtain ⟨name, start, made, left, hmade, htyped, hstart, hleft⟩ :=
      hfollows.of_ok rfl rfl hname hok
    rw [makeLayer_definition hinline henumeration] at hmade
    obtain ⟨left', hmade', hleft'⟩ :=
      makeLayer_along_within env membership hops last _ hmade trace hstart.symm
    refine ⟨left', ?_, hleft'.trans hleft⟩
    have hplaced : (PlacedSchema.ofJson (env.store.node last) site).schema.reference? = none :=
      hinline
    have hresolver := resolver_of_inline { env with documentKey := last.documentKey } membership
      hplaced
    rw [resolver] at hresolver
    rw [hresolver, map_eq_pure_bind]
    refine (Resolve.outcome_bind_of_ok hmade').trans ?_
    rw [← htyped]
    rfl

/-- A document whose pet is an animal of another document. -/
def petDocument : Json :=
  .obj [("components", .obj [("schemas", .obj [
    ("Pet", referenceNode "shared/animals.json#/Animal")])])]

/-- A document of animals, each with a name. -/
def animalDocument : Json :=
  .obj [("Animal", .obj [("properties", .obj [("name", referenceNode "#/Name")])]),
    ("Name", .obj [("type", .str "string")])]

/-- The pet document at hand, next to that of the animals. -/
def petEnvironment : Environment :=
  { listEnvironment with
    documentKey := "api.json"
    store := .ofList [("api.json", petDocument), ("shared/animals.json", animalDocument)] }

theorem reference_transparent_pet :
    ∃ mock after after',
      ((PlacedSchema.reference "#/components/schemas/Pet" ⟨"pet", none⟩).resolve mockResolver
        petEnvironment none).outcome .empty = (.ok mock, after) ∧
      ((PlacedSchema.ofJson (petEnvironment.store.node ⟨"shared/animals.json", ["Animal"]⟩)
        ⟨"pet", none⟩).resolve mockResolver
        { petEnvironment with documentKey := "shared/animals.json" } none).outcome .empty
          = (.ok mock, after') ∧
      after'.imports = after.imports := by
  have hok : ((PlacedSchema.reference "#/components/schemas/Pet" ⟨"pet", none⟩).resolve mockResolver
      petEnvironment none).outcome .empty = (.ok _, _) := rfl
  have hfollows : Follows petEnvironment.store "api.json" "#/components/schemas/Pet"
      [⟨"api.json", ["components", "schemas", "Pet"]⟩] ⟨"shared/animals.json", ["Animal"]⟩ :=
    .goesOn rfl (.stops rfl)
  obtain ⟨after', hafter, himports⟩ := (reference_transparent petEnvironment none
    "#/components/schemas/Pet" ⟨"pet", none⟩ .empty _ _ (by decide) hok).2 _ _ hfollows rfl
  exact ⟨_, _, after', hok, hafter, himports⟩

end SchemaMock
