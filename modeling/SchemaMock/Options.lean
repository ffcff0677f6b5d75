/-
# Options

What a user can say about the mocks: rules that replace expressions, globally, for an operation or
for a tag; expressions for formats; whether every property counts as required; how many items an
array has; and whether examples are used.  Whatever is not said has a default.

The tables keep their order, because the first rule that fits is the one that counts.
-/
import SchemaMock.Json.Record
import SchemaMock.Json.Reader

namespace SchemaMock

/-! ## 1. Options -/

/-- The rules for one operation or one tag: from keys to texts of expressions. -/
structure ScopeRules where
  rules : OrderedMap String

/-- What a user says about the mocks. -/
structure Options where
  /-- The rules for everything. -/
  rules : OrderedMap String
  /-- The rules for operations, under their identifiers. -/
  operations : OrderedMap ScopeRules
  /-- The rules for tags, under their names. -/
  tags : OrderedMap ScopeRules
  /-- Texts of expressions for the values of a format. -/
  formats : OrderedMap String
  /-- Whether every property is required. -/
  required : Bool
  /-- The least number of items of an array that does not tell one. -/
  arrayMin : UInt64
  /-- The largest number of items of an array that does not tell one. -/
  arrayMax : UInt64
  /-- Whether the example of a schema is used where it has one. -/
  useExamples : Bool

namespace Options

/-- What holds when nothing is said. -/
def default : Options := ⟨.empty, .empty, .empty, .empty, false, 1, 10, false⟩

instance : Inhabited Options := ⟨default⟩

end Options

/-! ## 2. Options as documents -/

namespace ScopeRules

/-- The rules of a scope as a document. -/
def toJson (s : ScopeRules) : Json := .obj [("properties", Json.ofTable .str s.rules)]

/-- The rules of a scope that a document tells. -/
def ofJson? (value : Json) : Option ScopeRules := do
  match ← value.fields? ["properties"] with
  | [rules] => some ⟨← Json.withDefault .empty (Json.tableOf? Json.text?) rules⟩
  | _ => none

end ScopeRules

namespace Options

/-- The names of the fields, in order. -/
def fieldNames : List String :=
  ["properties", "operations", "tags", "format", "required", "array-min", "array-max",
    "use-examples"]

/-- Options as a document. -/
def toJson (o : Options) : Json :=
  .obj [("properties", Json.ofTable .str o.rules),
    ("operations", Json.ofTable ScopeRules.toJson o.operations),
    ("tags", Json.ofTable ScopeRules.toJson o.tags),
    ("format", Json.ofTable .str o.formats),
    ("required", .bool o.required),
    ("array-min", .ofNat o.arrayMin.toNat),
    ("array-max", .ofNat o.arrayMax.toNat),
    ("use-examples", .bool o.useExamples)]

/-- The options that a document tells. -/
def ofJson? (value : Json) : Option Options := do
  match ← value.fields? fieldNames with
  | [rules, operations, tags, formats, required, arrayMin, arrayMax, useExamples] =>
    let texts := Json.withDefault .empty (Json.tableOf? Json.text?)
    let scopes := Json.withDefault .empty (Json.tableOf? ScopeRules.ofJson?)
    some ⟨← texts rules, ← scopes operations, ← scopes tags, ← texts formats,
      ← Json.withDefault default.required Json.bool? required,
      ← Json.withDefault default.arrayMin Json.word? arrayMin,
      ← Json.withDefault default.arrayMax Json.word? arrayMax,
      ← Json.withDefault default.useExamples Json.bool? useExamples⟩
  | _ => none

/-- What is expected of the text of options. -/
def expected : Expected :=
  let rules := Expected.table .text
  let scopes := Expected.table (.record [("properties", rules)])
  .record (fieldNames.zip [rules, scopes, scopes, rules, .bool, .word, .word, .bool])

/-- The options that a text tells. -/
def read (text : String) : Except ReadFault Options := do
  match ofJson? (← Json.Reader.read expected text) with
  | some options => .ok options
  | none => .error .mismatch

end Options

end SchemaMock
