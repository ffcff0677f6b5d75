/-
# The rules that hold for an operation

What is mocked belongs to an operation with some tags, and sees the rules of that operation first,
then the rules of its tags, then those for everything.  The tables of several tags are made one, in
the order of the tags' names; so neither the order in which an operation lists its tags nor the
order of the tags in the options matters.
-/
import SchemaMock.Rule.Basic

namespace SchemaMock

/-- Every table of rules. -/
structure RuleBook where
  /-- The rules for everything. -/
  global : RuleTable
  /-- The rules for operations, under their identifiers. -/
  operations : Entries RuleTable
  /-- The rules for tags, in the order of the tags' names. -/
  tags : Entries RuleTable
  deriving Inhabited

/-- The tables that hold for an operation. -/
structure ActiveRules where
  operationId : String
  tags : List String
  /-- The rules for the operation itself. -/
  operation : Option RuleTable
  /-- The rules for its tags. -/
  tag : RuleTable
  /-- The rules for everything. -/
  global : RuleTable

/-- The mock that the first fitting table makes of a schema at its site. -/
def ActiveRules.mock? (rules : ActiveRules) (placed : PlacedSchema) : Option Mock :=
  (rules.operation.bind fun table => RuleTable.mock? table placed)
    |>.or (RuleTable.mock? rules.tag placed)
    |>.or (RuleTable.mock? rules.global placed)

/-- What an operation with these tags sees of the rules. -/
def RuleBook.activeFor (book : RuleBook) (operationId : String) (tags : List String) :
    ActiveRules :=
  let tables := (book.tags.filter fun e => tags.contains e.1).map Prod.snd
  ⟨operationId, tags, Entries.get? operationId book.operations, RuleTable.join tables, book.global⟩

end SchemaMock
