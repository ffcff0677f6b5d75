/-
# What a resolution knows

A schema is resolved in an environment: the document it stands in, the documents that can be
reached, the settings, the rules that hold, and the targets of the references that are being
followed, from the outermost to the innermost.  An environment is a value; following a reference
makes another one.
-/
import SchemaMock.DocumentStore
import SchemaMock.Resolution.Trace
import SchemaMock.Settings

namespace SchemaMock

/-! ## 1. Environments -/

/-- What is known where a schema is resolved. -/
structure Environment where
  /-- The key of the document that the schema stands in. -/
  documentKey : String
  store : DocumentStore
  settings : Settings
  rules : ActiveRules
  /-- The addresses that are being resolved, from the outermost to the innermost. -/
  chain : List String

namespace Environment

/-- The environment of a resolution that begins. -/
def start (documentKey : String) (store : DocumentStore) (settings : Settings)
    (rules : ActiveRules) : Environment :=
  ⟨documentKey, store, settings, rules, []⟩

/-- The fault of an address that is being resolved already. -/
def cycle (env : Environment) (address : String) : MockFault :=
  .cyclic address (env.chain ++ [address])

/-- The environment in which what stands at an address, in the document of a key, is resolved.  An
address that is being resolved already has none. -/
def enter (env : Environment) (address documentKey : String) : Except MockFault Environment :=
  if address ∈ env.chain then .error (env.cycle address)
  else .ok { env with documentKey := documentKey, chain := env.chain ++ [address] }

end Environment

/-! ## 2. Resolvers -/

/-- What follows a reference that stands at a site. -/
abbrev Follow :=
  Environment → Option Membership → (reference : String) → Site → Resolve Mock

/-- What makes the mock of a schema at its site.  Schemas that are references are to be followed. -/
abbrev SchemaResolver :=
  Follow → Environment → Option Membership → PlacedSchema → Resolve Mock

/-- A mock with the declared type of the schema that it was made for.  What was made for a reference
has the type of its target already. -/
def Schema.typed (schema : Schema) (mock : Mock) : Mock :=
  match schema with
  | .reference _ => mock
  | _ => { mock with type := schema.type? }

end SchemaMock
