/-
# Following references

A reference is followed: its target is found in the documents and resolved in its place, under the
name and the path of the place, so that rules see where a definition is used.  A target that is not
there counts as a schema that says nothing, and is reported.

Following ends.  No address is entered that is being resolved already, and every address that is
entered after the first is told by a reference of some document in hand, read in some document in
hand; so no branch is longer than the number of those pairs and one.  That number is the budget of
the recursion.  When it is used up, every address that can still be told is one that is being
resolved, and the answer is the same fault that entering it would give.
-/
import SchemaMock.Resolution.Making

namespace SchemaMock

/-! ## 1. Targets -/

/-- The longest branch of references that can be followed among the documents of a store. -/
def DocumentStore.longestBranch (store : DocumentStore) : Nat :=
  1 + store.keys.length * store.references.length

/-- What a reference leads to, at a site; what is not there says nothing. -/
def targetSchema (env : Environment) (reference : String) (target : Reference) (site : Site) :
    Resolve PlacedSchema := do
  let documentKey := target.document env.documentKey
  match env.store.at? documentKey target.segments with
  | some value => pure ⟨.ofJson value, site, some target.name⟩
  | none =>
    Resolve.record (.unresolved reference documentKey)
    pure ⟨.empty, site, some target.name⟩

/-! ## 2. Following -/

/-- A reference followed along at most `budget` addresses. -/
def followWithin (resolver : SchemaResolver) : (budget : Nat) → Follow
  | 0, env, _, reference, _ =>
    throw (env.cycle ((Reference.read reference env.documentKey).address env.documentKey))
  | budget + 1, env, membership, reference, site => do
    let target := Reference.read reference env.documentKey
    let documentKey := target.document env.documentKey
    let inner ← Resolve.ofExcept (env.enter (target.address env.documentKey) documentKey)
    let placed ← targetSchema env reference target (site.named target.name)
    let mock ← resolver (followWithin resolver budget) inner membership placed
    let mock := placed.schema.typed mock
    Resolve.record (.reference target mock)
    pure mock

/-- The mock of a schema at its site. -/
def PlacedSchema.resolve (resolver : SchemaResolver) (env : Environment)
    (membership : Option Membership) (placed : PlacedSchema) : Resolve Mock :=
  let follow := followWithin resolver env.store.longestBranch
  match placed.schema with
  | .reference target => follow env membership target placed.site
  | schema => do
    let mock ← resolver follow env membership placed
    pure (schema.typed mock)

/-! ## 3. Inspection -/

/-- The resolver that only reports what it is handed: a reference is followed, and any other schema
is answered with its name. -/
def inspectionResolver : SchemaResolver := fun follow env membership placed => do
  Resolve.record (.inspected placed membership env.documentKey env.chain)
  match placed.schema with
  | .reference target => follow env membership target placed.site
  | _ => pure (.ofExpression (.primitive placed.site.name) placed.site.name)

end SchemaMock
