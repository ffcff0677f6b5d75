/-
# Mocks

The mock of a schema is an expression with what its user must know: the names that the expression
needs in scope, a name of its own, whether a rule made it, and the declared type of the schema.
-/
import SchemaMock.Mock.Expression
import SchemaMock.Schema.Keywords

namespace SchemaMock

/-! ## 1. Imports -/

/-- A name that an expression needs in scope. -/
structure Import where
  name : String
  /-- The key of the document that declares it, if it is told. -/
  document : Option String
  /-- Whether it is needed as a value and not as a type only. -/
  asValue : Bool
  deriving DecidableEq, Repr

/-- A list of imports with one more, unless it is there already. -/
def withImport (imports : List Import) (new : Import) : List Import :=
  if new ∈ imports then imports else imports ++ [new]

/-- A list of imports with those of another list that are not there yet, in order. -/
def withImports (imports : List Import) (news : List Import) : List Import :=
  news.foldl withImport imports

/-! ## 2. Mocks -/

/-- The mock of one schema. -/
structure Mock where
  expression : Expression
  /-- What `expression` refers to. -/
  imports : List Import
  name : String
  /-- Whether a rule made the expression. -/
  overridden : Bool
  /-- The declared type of the schema that was mocked in the end. -/
  type : Option InstanceType
  deriving Inhabited

/-- The mock of an expression that refers to nothing. -/
def Mock.ofExpression (expression : Expression) (name : String) : Mock :=
  ⟨expression, [], name, false, none⟩

end SchemaMock
