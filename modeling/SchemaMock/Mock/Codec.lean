/-
# Mocks as documents

A mock can be written down as a document and read back.  Its expression is told by its `type` and
by the fields that go with it; it may also be written as an array, with the type first and then the
fields.  Inside another expression the type may be given by its number, too.

Reading is forgiving in one direction only: members that are no fields are passed over, but every
field must be of the right kind.
-/
import SchemaMock.Json.Record
import SchemaMock.Mock.Basic

namespace SchemaMock

/-! ## 1. Words -/

namespace InstanceType

/-- A type as a document. -/
def toJson (t : InstanceType) : Json := .str t.name

/-- The type that a document tells. -/
def ofJson? (value : Json) : Option InstanceType := value.word ofName?

end InstanceType

namespace Combinator

/-- A combinator as a document. -/
def toJson (c : Combinator) : Json := .str c.keyword

/-- The combinator that a document tells. -/
def ofJson? (value : Json) : Option Combinator := value.word ofKeyword?

end Combinator

namespace Membership

/-- A membership as a document. -/
def toJson (m : Membership) : Json :=
  .obj [("separator", m.combinator.toJson), ("includedProperties", .arr (m.emitted.map .str))]

/-- The membership that a document tells. -/
def ofJson? (value : Json) : Option Membership := do
  match ← value.fields? ["separator", "includedProperties"] with
  | [combinator, emitted] =>
    some ⟨← combinator.bind Combinator.ofJson?, ← emitted.bind (Json.listOf? Json.text?)⟩
  | _ => none

end Membership

/-! ## 2. Expressions -/

namespace Expression

/-- The kinds of expressions. -/
inductive Tag where
  | primitive
  | null
  | undefined
  | oneOf
  | object
  | array
  deriving DecidableEq, Repr

/-- The word for a kind. -/
def Tag.name : Tag → String
  | .primitive => "primitive"
  | .null => "null"
  | .undefined => "undefined"
  | .oneOf => "one_of"
  | .object => "object"
  | .array => "array"

/-- The kinds in order, from number 0. -/
def Tag.all : List Tag := [.primitive, .null, .undefined, .oneOf, .object, .array]

/-- The kind that a document tells: by its word, and inside another expression also by its
number. -/
def Tag.ofJson? (nested : Bool) : Json → Option Tag
  | .str word => Tag.all.find? fun t => t.name == word
  | .num (.int n) => if nested ∧ 0 ≤ n then Tag.all[n.toNat]? else none
  | _ => none

mutual
/-- An expression as a document. -/
def toJson : Expression → Json
  | .primitive text => .obj [("type", .str "primitive"), ("value", .str text)]
  | .null => .obj [("type", .str "null")]
  | .undefined => .obj [("type", .str "undefined")]
  | .oneOf choices => .obj [("type", .str "one_of"), ("values", .arr (toJsonList choices))]
  | .object properties =>
    .obj [("type", .str "object"), ("properties", .arr (toJsonProperties properties))]
  | .array item min max =>
    .obj [("type", .str "array"), ("item", toJson item), ("min", .ofNat min.toNat),
      ("max", .ofNat max.toNat)]

/-- Expressions as documents. -/
def toJsonList : List Expression → List Json
  | [] => []
  | e :: rest => toJson e :: toJsonList rest

/-- The properties of an object as documents. -/
def toJsonProperties : List (String × Expression) → List Json
  | [] => []
  | (key, e) :: rest =>
    .obj [("key", .str key), ("value", toJson e)] :: toJsonProperties rest
end

mutual
/-- The expression that a document tells. -/
def decode? (nested : Bool) : Json → Option Expression
  | .obj members =>
    match (Entries.get? "type" members).bind (Tag.ofJson? nested) with
    | none => none
    | some .primitive => ((Entries.get? "value" members).bind Json.text?).map .primitive
    | some .null => some .null
    | some .undefined => some .undefined
    | some .oneOf => (choicesIn members).map .oneOf
    | some .object => (propertiesIn members).map .object
    | some .array => do
      some (.array (← expressionIn "item" members)
        (← (Entries.get? "min" members).bind Json.word?)
        (← (Entries.get? "max" members).bind Json.word?))
  | .arr (tag :: fields) =>
    match Tag.ofJson? nested tag, fields with
    | some .primitive, [text] => text.text?.map .primitive
    | some .null, [] => some .null
    | some .undefined, [] => some .undefined
    | some .oneOf, [choices] => (choicesOf choices).map .oneOf
    | some .object, [properties] => (propertiesOf properties).map .object
    | some .array, [item, min, max] => do
      some (.array (← decode? true item) (← min.word?) (← max.word?))
    | _, _ => none
  | _ => none

/-- The expression under a name. -/
def expressionIn (name : String) : List (String × Json) → Option Expression
  | [] => none
  | (key, value) :: rest => if key = name then decode? true value else expressionIn name rest

/-- The choices under the name `values`. -/
def choicesIn : List (String × Json) → Option (List Expression)
  | [] => none
  | (key, value) :: rest => if key = "values" then choicesOf value else choicesIn rest

/-- The choices in an array. -/
def choicesOf : Json → Option (List Expression)
  | .arr items => decodeAll items
  | _ => none

/-- The expressions of items, if all are right. -/
def decodeAll : List Json → Option (List Expression)
  | [] => some []
  | item :: rest => do some ((← decode? true item) :: (← decodeAll rest))

/-- The list of properties under the name `properties`. -/
def propertiesIn : List (String × Json) → Option (List (String × Expression))
  | [] => none
  | (key, value) :: rest => if key = "properties" then propertiesOf value else propertiesIn rest

/-- The properties in an array. -/
def propertiesOf : Json → Option (List (String × Expression))
  | .arr items => decodeProperties items
  | _ => none

/-- The properties of items, if all are right. -/
def decodeProperties : List Json → Option (List (String × Expression))
  | [] => some []
  | item :: rest => do some ((← decodeProperty item) :: (← decodeProperties rest))

/-- One property. -/
def decodeProperty : Json → Option (String × Expression)
  | .obj members => do
    some (← (Entries.get? "key" members).bind Json.text?, ← expressionIn "value" members)
  | .arr [key, value] => do some (← key.text?, ← decode? true value)
  | _ => none
end

/-- The expression that a document tells. -/
def ofJson? (value : Json) : Option Expression := decode? false value

end Expression

/-! ## 3. Mocks -/

namespace Import

/-- An import as a document; a document that is not told is left out. -/
def toJson (i : Import) : Json :=
  .obj (("name", .str i.name) ::
    (match i.document with
      | some key => [("specKey", .str key)]
      | none => []) ++ [("values", .bool i.asValue)])

/-- The import that a document tells. -/
def ofJson? (value : Json) : Option Import := do
  match ← value.fields? ["name", "specKey", "values"] with
  | [name, document, asValue] =>
    some ⟨← name.bind Json.text?, ← Json.optional Json.text? document,
      ← Json.withDefault false Json.bool? asValue⟩
  | _ => none

end Import

namespace Mock

/-- A mock as a document; a type that is not declared is left out. -/
def toJson (m : Mock) : Json :=
  .obj ([("value", m.expression.toJson), ("imports", .arr (m.imports.map Import.toJson)),
      ("name", .str m.name), ("overrided", .bool m.overridden)] ++
    match m.type with
    | some t => [("type", t.toJson)]
    | none => [])

/-- The mock that a document tells. -/
def ofJson? (value : Json) : Option Mock := do
  match ← value.fields? ["value", "imports", "name", "overrided", "type"] with
  | [expression, imports, name, overridden, type] =>
    some ⟨← expression.bind Expression.ofJson?, ← imports.bind (Json.listOf? Import.ofJson?),
      ← name.bind Json.text?, ← overridden.bind Json.bool?,
      ← Json.optional InstanceType.ofJson? type⟩
  | _ => none

end Mock

end SchemaMock
