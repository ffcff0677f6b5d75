/-
# Settings

Options are what a user has written; settings are what has been found right about them, with every
table of rules ready for use.  Between the two stand all faults that options can have.
-/
import SchemaMock.Options
import SchemaMock.Rule.Active

namespace SchemaMock

/-- Options that have been found right. -/
structure Settings where
  rules : RuleBook
  /-- Texts of expressions for the values of a format. -/
  formats : OrderedMap String
  /-- Whether every property is required. -/
  required : Bool
  /-- The least number of items of an array that does not tell one. -/
  arrayMin : UInt64
  /-- The largest number of items of an array that does not tell one. -/
  arrayMax : UInt64
  /-- Whether the example of a schema is used where it has one. -/
  useExamples : Bool
  deriving Inhabited

namespace Settings

/-- The tables of rules under their names. -/
def tablesOf (engine : PatternEngine) (scopes : OrderedMap ScopeRules) :
    Except MockFault (Entries RuleTable) :=
  scopes.entries.mapM fun e => do .ok (e.1, ← RuleTable.ofEntries engine e.2.rules)

/-- Entries in the order of their names. -/
def sortedByName {α : Type} (entries : Entries α) : Entries α :=
  entries.mergeSort fun a b => !decide (b.1 < a.1)

/-- The settings of options: the bounds are looked at first, then the rules of the operations, of
the tags, and for everything, and the first fault is the one that is told. -/
def ofOptions (engine : PatternEngine) (options : Options) : Except MockFault Settings := do
  if options.arrayMax < options.arrayMin then
    .error (.invertedBounds options.arrayMin options.arrayMax)
  else
    let operations ← tablesOf engine options.operations
    let tags ← tablesOf engine options.tags
    let global ← RuleTable.ofEntries engine options.rules
    .ok ⟨⟨global, operations, sortedByName tags⟩, options.formats, options.required,
      options.arrayMin, options.arrayMax, options.useExamples⟩

end Settings

end SchemaMock
