/-
# Rules

A rule replaces the expression at every site that its key selects.  A key between two slashes is a
pattern, and selects the sites with a name in which the pattern occurs; any other key is an
override path without its mark, and selects the site of that path, or, among sites without a path,
those of that name.  Of the rules of a table the first that selects a site is the one that counts.

What a pattern is, is left to an engine: it refuses a text, or makes a test for names of it.
Patterns are read when a table is made, so a bad one is found before anything is mocked.
-/
import SchemaMock.Fault
import SchemaMock.Mock.Basic
import SchemaMock.Schema.Site

namespace SchemaMock

/-- What makes tests for names of patterns; `none` refuses a pattern. -/
abbrev PatternEngine := String → Option (String → Bool)

/-! ## 1. Rules -/

/-- A rule, ready for use. -/
structure Rule where
  /-- The key, as it is written. -/
  key : String
  /-- The test of a key that is a pattern. -/
  test : Option (String → Bool)
  /-- The text of the expression. -/
  text : String

namespace Rule

/-- The pattern of a key between slashes.  A lone slash is both, and has the empty pattern. -/
def patternChars? : List Char → Option (List Char)
  | ['/'] => some []
  | '/' :: rest => if rest.getLast? = some '/' then some rest.dropLast else none
  | _ => none

/-- The pattern of a key between slashes. -/
def patternOf? (key : String) : Option String := (patternChars? key.toList).map String.ofList

/-- The rule of a key and the text of an expression. -/
def ofEntry (engine : PatternEngine) (key text : String) : Except MockFault Rule :=
  match patternOf? key with
  | none => .ok ⟨key, none, text⟩
  | some pattern =>
    match engine pattern with
    | some test => .ok ⟨key, some test, text⟩
    | none => .error (.badPattern key)

/-- Whether the key is the path of a site, or the name of a site without a path. -/
def isNamedBy (rule : Rule) (site : Site) : Bool :=
  match site.path with
  | some path => OverridePath.written? path == some rule.key
  | none => rule.key == site.name

/-- Whether the rule selects a site. -/
def selects (rule : Rule) (site : Site) : Bool :=
  (match rule.test with
    | some test => test site.name
    | none => false) || rule.isNamedBy site

/-- The mock that the rule makes of a schema at its site. -/
def mock (rule : Rule) (placed : PlacedSchema) : Mock :=
  ⟨(Expression.primitive rule.text).orNull placed.schema.nullable, [], placed.site.name, true, none⟩

end Rule

/-! ## 2. Tables -/

/-- Rules in the order in which they are tried. -/
abbrev RuleTable := List Rule

namespace RuleTable

/-- The rules of a table of keys and texts of expressions; the first bad pattern refuses it. -/
def ofEntries (engine : PatternEngine) (entries : OrderedMap String) :
    Except MockFault RuleTable :=
  entries.entries.mapM fun e => Rule.ofEntry engine e.1 e.2

/-- The first rule that selects a site. -/
def first? (table : RuleTable) (site : Site) : Option Rule :=
  table.find? fun rule => rule.selects site

/-- The mock that a table makes of a schema at its site, if one of its rules selects the site. -/
def mock? (table : RuleTable) (placed : PlacedSchema) : Option Mock :=
  (first? table placed.site).map fun rule => rule.mock placed

/-- Several tables in one.  A key that comes again keeps its first place and takes the later
rule. -/
def join (tables : List RuleTable) : RuleTable :=
  let keyed : Entries Rule := tables.flatten.map fun rule => (rule.key, rule)
  (Entries.putAll [] keyed).map Prod.snd

end RuleTable

end SchemaMock
