/-
# Schemas in use

A schema is mocked for a site: a property, a parameter or a definition, with a name and a way below
the root of the value.  The same schema can be mocked for many sites, and rules tell sites apart,
not schemas.
-/
import SchemaMock.Pointer
import SchemaMock.Schema.Tree

namespace SchemaMock

/-! ## 1. Sites -/

/-- The place that a schema is mocked for. -/
structure Site where
  /-- The name of what is mocked. -/
  name : String
  /-- The override path from the root of the value; a root has none. -/
  path : Option String
  deriving DecidableEq, Repr, Inhabited

namespace Site

/-- The place of the property `key` of what is mocked at a site. -/
def property (site : Site) (key : String) : Site := ⟨key, some (OverridePath.child site.path key)⟩

/-- The place of the items of an array at a site: they keep its name. -/
def item (site : Site) : Site :=
  ⟨site.name, some (OverridePath.child site.path OverridePath.itemKey)⟩

/-- The name at a site; a site without one takes the name of the definition that is used there. -/
def named (site : Site) (definition : String) : Site :=
  if site.name.isEmpty then { site with name := definition } else site

end Site

/-! ## 2. Schemas at their sites -/

/-- A schema at the place it is mocked for. -/
structure PlacedSchema where
  schema : Schema
  site : Site
  /-- The name of the definition that a reference led to, if one did. -/
  definition : Option String
  deriving Inhabited

namespace PlacedSchema

/-- The schema in a document, used at `site`. -/
def ofJson (value : Json) (site : Site) : PlacedSchema := ⟨.ofJson value, site, none⟩

/-- A reference, used at `site`. -/
def reference (target : String) (site : Site) : PlacedSchema := ⟨.reference target, site, none⟩

end PlacedSchema

end SchemaMock
