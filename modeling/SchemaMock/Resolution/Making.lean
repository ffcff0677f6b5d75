/-
# Making mocks

The mock of a schema is made from the mocks of its parts, by recursion on the tree of the schema; a
reference among the parts is handed to whoever follows references.  Before a schema is looked into,
three things can settle it: a rule that selects its site, its example where examples are used, and
its constant.

A combination tells its members which property names have been emitted before, so that no name is
emitted twice: first the names beside the combinator, and, where all members hold at once, then the
names of the members before.
-/
import SchemaMock.Resolution.Environment
import SchemaMock.Resolution.Parts
import SchemaMock.Resolution.Plain

namespace SchemaMock

/-! ## 1. What settles a schema -/

/-- A value of a document, as it is, for a schema at its site. -/
def constantMock (placed : PlacedSchema) (value : Json) : Mock :=
  .ofExpression ((Expression.primitive value.compact).orNull placed.schema.nullable)
    placed.site.name

/-- The mock of a schema that is settled before it is looked into, and otherwise the one that is
made of it. -/
def settledOr (env : Environment) (placed : PlacedSchema) (made : Resolve Mock) : Resolve Mock :=
  match env.rules.mock? placed with
  | some mock => do
    Resolve.record (.overridden placed.site mock)
    pure mock
  | none =>
    let keywords := placed.schema.keywords
    let example? :=
      if env.settings.useExamples then Entries.get? "example" keywords else none
    match example?.or (Entries.get? "const" keywords) with
    | some value => pure (constantMock placed value)
    | none => made

/-! ## 2. Schemas without parts -/

/-- The text for a random value of the enumeration that is imported under a name. -/
def namedEnumeration (name : String) : String :=
  Expression.pick ("Object.values(" ++ name ++ ")")

/-- The text for a random one of some values. -/
def listedEnumeration (values : List Json) : String :=
  Expression.pick ("[" ++ String.intercalate ", " (values.map Json.compact) ++ "] as const")

/-- The mock of an enumeration.  One that a reference led to is used by its name, which is then
imported from its document. -/
def enumerationMock (env : Environment) (placed : PlacedSchema) (values : List Json) :
    Resolve Mock :=
  let ofText (text : String) := (Expression.primitive text).orNull placed.schema.nullable
  match placed.definition with
  | some name => do
    let new : Import := ⟨name, some env.documentKey, true⟩
    Resolve.request new
    pure ⟨ofText (namedEnumeration name), [new], placed.site.name, false, none⟩
  | none => pure (.ofExpression (ofText (listedEnumeration values)) placed.site.name)

/-- The mock of a schema without parts. -/
def plainMock (env : Environment) (placed : PlacedSchema) : Resolve Mock :=
  let keywords := placed.schema.keywords
  match Keywords.enumeration? keywords with
  | some values => enumerationMock env placed values
  | none =>
    let e := PlainSchema.expression env.settings keywords
    pure (.ofExpression (e.orNull placed.schema.nullable) placed.site.name)

/-! ## 3. The recursion -/

/-- The names that an enclosing combination has emitted. -/
def emittedNames (membership : Option Membership) : List String :=
  (membership.map Membership.emitted).getD []

mutual
/-- The mock of a schema at a site.  `definition` names the definition that a reference led to. -/
def make (follow : Follow) : Schema → Environment → Option Membership → Site →
    (definition : Option String) → Resolve Mock
  | .reference target, env, membership, site, _ => follow env membership target site
  | .plain keywords, env, _, site, definition =>
    let placed : PlacedSchema := ⟨.plain keywords, site, definition⟩
    settledOr env placed (plainMock env placed)
  | .array keywords items, env, _, site, definition =>
    let placed : PlacedSchema := ⟨.array keywords items, site, definition⟩
    settledOr env placed do
      let item ← make follow items env none site.item none
      let (min, max) := itemBounds env.settings keywords
      pure (composedMock placed (.array item.expression min max) item.imports)
  | .object keywords properties, env, membership, site, definition =>
    let placed : PlacedSchema := ⟨.object keywords properties, site, definition⟩
    settledOr env placed do
      let mocks ← makeProperties follow properties env (emittedNames membership) site
      let own := ownProperties env.settings (Keywords.required keywords) mocks
      pure (composedMock placed (.object own) (importsOf (mocks.map Prod.snd)))
  | .combined keywords combinator properties members, env, membership, site, definition =>
    let placed : PlacedSchema :=
      ⟨.combined keywords combinator properties members, site, definition⟩
    settledOr env placed do
      let before := emittedNames membership
      let mocks ← makeProperties follow properties env before site
      let own := ownProperties env.settings (Keywords.required keywords) mocks
      let imports := importsOf (mocks.map Prod.snd)
      let emitted := before ++ own.map Prod.fst
      match combinator with
      | .allOf =>
        let merge ← makeMerged follow members env site ⟨emitted, own, none, imports⟩
        pure (composedMock placed merge.expression merge.imports)
      | combinator =>
        let variants ← makeVariants follow members env ⟨combinator, emitted⟩ site
        let choices := variants.map fun mock => mock.expression.behind own
        let imports := variants.foldl (fun imports mock => withImports imports mock.imports) imports
        pure (composedMock placed (.chosen own choices) imports)

/-- The mocks of properties, but those whose names have been emitted. -/
def makeProperties (follow : Follow) : List (String × Schema) → Environment →
    (emitted : List String) → Site → Resolve (List (String × Mock))
  | [], _, _, _ => pure []
  | (key, schema) :: rest, env, emitted, site =>
    if emitted.contains key then makeProperties follow rest env emitted site
    else do
      let mock ← make follow schema env none (site.property key) none
      let mocks ← makeProperties follow rest env emitted site
      pure ((key, mock) :: mocks)

/-- The members of a combination that hold all at once, merged one after another. -/
def makeMerged (follow : Follow) : List Schema → Environment → Site → Merge → Resolve Merge
  | [], _, _, merge => pure merge
  | member :: rest, env, site, merge => do
    let mock ← make follow member env (some ⟨.allOf, merge.emitted⟩) site none
    makeMerged follow rest env site (merge.addMember mock)

/-- The mocks of the members of a combination of which one holds. -/
def makeVariants (follow : Follow) : List Schema → Environment → Membership → Site →
    Resolve (List Mock)
  | [], _, _, _ => pure []
  | member :: rest, env, membership, site => do
    let mock ← make follow member env (some membership) site none
    let mocks ← makeVariants follow rest env membership site
    pure (mock :: mocks)
end

/-- The resolver that makes mocks. -/
def mockResolver : SchemaResolver := fun follow env membership placed =>
  make follow placed.schema env membership placed.site placed.definition

end SchemaMock
