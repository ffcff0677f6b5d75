/-
# Putting parts together

The mock of an object, of an array or of a combination is made of the mocks of its parts.  How, is
said here, for parts that have been mocked already: nothing here resolves anything.
-/
import SchemaMock.Schema.Site
import SchemaMock.Settings

namespace SchemaMock

/-! ## 1. Properties and items -/

/-- The mocks of properties, as properties of an object: one that need not be there may be
`undefined`, unless a rule made it. -/
def ownProperties (settings : Settings) (required : List String)
    (mocks : List (String × Mock)) : List (String × Expression) :=
  mocks.map fun (key, mock) =>
    let isRequired := settings.required || required.contains key
    (key, mock.expression.orUndefined (!isRequired && !mock.overridden))

/-- The imports of several mocks. -/
def importsOf (mocks : List Mock) : List Import :=
  mocks.foldl (fun imports mock => withImports imports mock.imports) []

/-- The mock of a schema at its site, made of an expression and the imports of its parts. -/
def composedMock (placed : PlacedSchema) (expression : Expression) (imports : List Import) : Mock :=
  ⟨expression.orNull placed.schema.nullable, imports, placed.site.name, false, none⟩

/-- The least and the largest number of items: what the keywords tell, and otherwise what the
settings do; the largest is never below the least. -/
def itemBounds (settings : Settings) (keywords : Keywords) : UInt64 × UInt64 :=
  let told (keyword : String) := (Entries.get? keyword keywords).bind Json.word?
  let min := (told "minItems").getD settings.arrayMin
  let max := (told "maxItems").getD settings.arrayMax
  (min, if max < min then min else max)

/-! ## 2. Members that hold all at once -/

/-- The properties of an expression that is an object, or an object or `null`. -/
def Expression.properties? : Expression → Option (List (String × Expression))
  | .object properties => some properties
  | .oneOf [.object properties, .null] => some properties
  | _ => none

/-- The members of a combination that hold all at once, merged as far as they have been mocked. -/
structure Merge where
  /-- The names that have been emitted. -/
  emitted : List String
  /-- The properties of the merged object. -/
  properties : List (String × Expression)
  /-- The last member that was no object. -/
  other : Option Expression
  /-- The imports of all members. -/
  imports : List Import

namespace Merge

/-- One property more, unless its name has been emitted. -/
def addProperty (m : Merge) (property : String × Expression) : Merge :=
  if m.emitted.contains property.1 then m
  else
    { m with
      emitted := m.emitted ++ [property.1]
      properties := m.properties ++ [property] }

/-- One member more. -/
def addMember (m : Merge) (mock : Mock) : Merge :=
  let m := { m with imports := withImports m.imports mock.imports }
  match mock.expression.properties? with
  | some properties => properties.foldl addProperty m
  | none => { m with other := some mock.expression }

/-- The merged expression: an object, unless no member had a property and one was no object. -/
def expression (m : Merge) : Expression :=
  match m.other, m.properties with
  | some e, [] => e
  | _, properties => .object properties

end Merge

/-! ## 3. Members of which one holds -/

/-- A member, with the properties beside the combinator in front if it is an object. -/
def Expression.behind (own : List (String × Expression)) : Expression → Expression
  | .object properties => .object (own ++ properties)
  | e => e

/-- One of several members; without any, an object of the properties beside the combinator. -/
def Expression.chosen (own : List (String × Expression)) : List Expression → Expression
  | [] => .object own
  | [e] => e
  | choices => .oneOf choices

end SchemaMock
