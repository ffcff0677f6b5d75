/-
# Schemas

A node of a document is read as a schema once.  It is a reference, or it is one of four kinds of
inline schema, told apart by what they are made of: a combination of other schemas, an array with a
schema for its items, an object with a schema for each property, or a plain schema without parts.
The order of the questions matters and is the same wherever a schema is looked at: a constant is
plain whatever else it says, then come the combinators, then enumerations, then the declared type,
and a schema that says nothing is an object.

Since the parts of a schema are parts of its tree, whatever is done to a schema and all its parts is
a recursion on the tree; only references lead out of it.
-/
import SchemaMock.Schema.Keywords

namespace SchemaMock

/-! ## 1. The tree -/

/-- A schema with its parts. -/
inductive Schema where
  /-- Another schema stands in this place. -/
  | reference (target : String)
  /-- Several schemas made one; the properties beside the combinator belong to all of them. -/
  | combined (keywords : List (String × Json)) (combinator : Combinator)
      (properties : List (String × Schema)) (members : List Schema)
  /-- Items of one schema. -/
  | array (keywords : List (String × Json)) (items : Schema)
  /-- Properties with a schema each. -/
  | object (keywords : List (String × Json)) (properties : List (String × Schema))
  /-- No parts: a constant, an enumeration, a text, a number, a truth value or nothing. -/
  | plain (keywords : List (String × Json))
  deriving Inhabited

namespace Schema

/-- The schema that says nothing. -/
def empty : Schema := .object [] []

/-- What an inline schema is made of. -/
inductive Kind where
  | combined (combinator : Combinator)
  | array
  | object
  | plain
  deriving DecidableEq, Repr

/-- The kind of a list of keywords. -/
def kind (keywords : Keywords) : Kind :=
  if (Entries.get? "const" keywords).isSome then .plain
  else
    match Keywords.combinator? keywords with
    | some c => .combined c
    | none =>
      if (Keywords.enumeration? keywords).isSome then .plain
      else
        match Keywords.type? keywords, Keywords.format? keywords with
        | some .array, _ => .array
        | some .object, _ => .object
        | none, none => .object
        | _, _ => .plain

mutual
/-- The schema that a node of a document holds.  A node that is no object says nothing. -/
def ofJson : Json → Schema
  | .obj keywords =>
    match Keywords.reference? keywords with
    | some target => .reference target
    | none =>
      match kind keywords with
      | .combined c => .combined keywords c (propertiesIn keywords) (membersIn c.keyword keywords)
      | .array => .array keywords (itemsIn keywords)
      | .object => .object keywords (propertiesIn keywords)
      | .plain => .plain keywords
  | _ => .object [] []

/-- The schemas under the keyword `properties`. -/
def propertiesIn : List (String × Json) → List (String × Schema)
  | [] => []
  | (key, value) :: rest => if key = "properties" then ofTable value else propertiesIn rest

/-- The schemas of the members of an object. -/
def ofTable : Json → List (String × Schema)
  | .obj members => ofMembers members
  | _ => []

/-- The schemas of members, under their names. -/
def ofMembers : List (String × Json) → List (String × Schema)
  | [] => []
  | (key, value) :: rest => (key, ofJson value) :: ofMembers rest

/-- The schema under the keyword `items`; items about which nothing is said may be anything. -/
def itemsIn : List (String × Json) → Schema
  | [] => .object [] []
  | (key, value) :: rest => if key = "items" then ofJson value else itemsIn rest

/-- The schemas listed under the keyword of a combinator. -/
def membersIn (keyword : String) : List (String × Json) → List Schema
  | [] => []
  | (key, value) :: rest => if key = keyword then ofArray value else membersIn keyword rest

/-- The schemas of the items of an array. -/
def ofArray : Json → List Schema
  | .arr items => ofItems items
  | _ => []

/-- The schemas of items, in order. -/
def ofItems : List Json → List Schema
  | [] => []
  | item :: rest => ofJson item :: ofItems rest
end

/-! ## 2. Questions to a schema -/

/-- The keywords of an inline schema. -/
def keywords? : Schema → Option Keywords
  | .reference _ => none
  | .combined keywords _ _ _ => some keywords
  | .array keywords _ => some keywords
  | .object keywords _ => some keywords
  | .plain keywords => some keywords

/-- The keywords of an inline schema; a reference has none. -/
def keywords (schema : Schema) : Keywords := schema.keywords?.getD []

/-- The text of a reference. -/
def reference? : Schema → Option String
  | .reference target => some target
  | _ => none

/-- The declared type. -/
def type? (schema : Schema) : Option InstanceType := Keywords.type? schema.keywords

/-- Whether `null` is a value too. -/
def nullable (schema : Schema) : Bool := Keywords.nullable schema.keywords

end Schema

end SchemaMock
