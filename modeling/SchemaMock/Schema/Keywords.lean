/-
# What the keywords of a schema say

An inline schema is a list of keywords, as it stands in the document.  A keyword with a value of the
wrong kind says nothing: `required: true` lists no names and `allOf: 3` combines nothing.
-/
import SchemaMock.Json.Basic

namespace SchemaMock

/-! ## 1. Types -/

/-- The types that a schema can declare. -/
inductive InstanceType where
  | string
  | number
  | integer
  | boolean
  | array
  | object
  | null
  deriving DecidableEq, Repr, Inhabited

namespace InstanceType

/-- The word for a type. -/
def name : InstanceType → String
  | .string => "string"
  | .number => "number"
  | .integer => "integer"
  | .boolean => "boolean"
  | .array => "array"
  | .object => "object"
  | .null => "null"

/-- The type that a word names. -/
def ofName? (word : String) : Option InstanceType :=
  if word = "string" then some .string
  else if word = "number" then some .number
  else if word = "integer" then some .integer
  else if word = "boolean" then some .boolean
  else if word = "array" then some .array
  else if word = "object" then some .object
  else if word = "null" then some .null
  else none

theorem ofName?_name (t : InstanceType) : ofName? t.name = some t := by cases t <;> rfl

end InstanceType

/-! ## 2. Combinators -/

/-- The keywords that make one schema of several. -/
inductive Combinator where
  | allOf
  | oneOf
  | anyOf
  deriving DecidableEq, Repr, Inhabited

namespace Combinator

/-- The keyword of a combinator. -/
def keyword : Combinator → String
  | .allOf => "allOf"
  | .oneOf => "oneOf"
  | .anyOf => "anyOf"

/-- The combinator of a keyword. -/
def ofKeyword? (word : String) : Option Combinator :=
  if word = "allOf" then some .allOf
  else if word = "oneOf" then some .oneOf
  else if word = "anyOf" then some .anyOf
  else none

theorem ofKeyword?_keyword (c : Combinator) : ofKeyword? c.keyword = some c := by cases c <;> rfl

end Combinator

/-- What a schema knows of the combination that it is a member of: the combinator, and the names of
the properties that have been emitted before. -/
structure Membership where
  combinator : Combinator
  emitted : List String
  deriving DecidableEq, Repr

/-! ## 3. Keywords -/

/-- The keywords of an inline schema. -/
abbrev Keywords := List (String × Json)

namespace Keywords

/-- The reference that stands in the place of a schema. -/
def reference? (keywords : Keywords) : Option String :=
  (Entries.get? "$ref" keywords).bind Json.text?

/-- The types listed in a type array; words that name no type are passed over. -/
def listedTypes (types : List Json) : List InstanceType :=
  types.filterMap fun t => t.text?.bind InstanceType.ofName?

/-- The declared type.  Of a type array it is the first type but `null`, and `null` if there is no
other. -/
def type? (keywords : Keywords) : Option InstanceType :=
  match Entries.get? "type" keywords with
  | some (.str word) => InstanceType.ofName? word
  | some (.arr types) =>
    let listed := listedTypes types
    (listed.find? (· ≠ .null)).or listed.head?
  | _ => none

/-- Whether `null` is a value too: the keyword `nullable` is true, or a type array has `null` beside
something else. -/
def nullable (keywords : Keywords) : Bool :=
  match (Entries.get? "nullable" keywords).bind Json.bool? with
  | some true => true
  | _ =>
    match Entries.get? "type" keywords with
    | some (.arr types) => 1 < types.length && types.any fun t => t.text? == some "null"
    | _ => false

/-- The format of the values. -/
def format? (keywords : Keywords) : Option String :=
  (Entries.get? "format" keywords).bind Json.text?

/-- The names of the properties that must be there. -/
def required (keywords : Keywords) : List String :=
  match Entries.get? "required" keywords with
  | some (.arr names) => names.filterMap Json.text?
  | _ => []

/-- The members of a combinator. -/
def members? (keywords : Keywords) (c : Combinator) : Option (List Json) :=
  (Entries.get? c.keyword keywords).bind Json.items?

/-- The combinator that makes the schema: the first, of `allOf`, `oneOf` and `anyOf`, that lists
members. -/
def combinator? (keywords : Keywords) : Option Combinator :=
  [Combinator.allOf, .oneOf, .anyOf].find? fun c => (members? keywords c).isSome

/-- The values of an enumeration. -/
def enumeration? (keywords : Keywords) : Option (List Json) :=
  (Entries.get? "enum" keywords).bind Json.items?

end Keywords

end SchemaMock
