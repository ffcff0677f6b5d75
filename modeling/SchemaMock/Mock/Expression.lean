/-
# Expressions for fake data

A mock is an expression of JavaScript that makes fake data.  It is built from the expressions of its
parts and turned into text once, at the end, so that quoting and bracketing have one place.

Two alternatives are put beside an expression in the course of its making: `null`, when the schema
says so, and `undefined`, when a property may be missing.  Both do nothing unless they are asked
for.
-/
import SchemaMock.Json.Basic

namespace SchemaMock

/-! ## 1. Expressions -/

/-- An expression that evaluates to a fake value. -/
inductive Expression where
  /-- The text of an expression, as it is. -/
  | primitive (text : String)
  | null
  | undefined
  /-- A random one of several. -/
  | oneOf (choices : List Expression)
  /-- An object with these properties. -/
  | object (properties : List (String × Expression))
  /-- Between `min` and `max` items, each made by `item`. -/
  | array (item : Expression) (min max : UInt64)
  deriving Inhabited

namespace Expression

/-- The expression, or sometimes `null` where that is a value too. -/
def orNull (e : Expression) (nullable : Bool) : Expression :=
  if nullable then .oneOf [e, .null] else e

/-- The expression, or sometimes `undefined` where the value may be missing. -/
def orUndefined (e : Expression) (isOptional : Bool) : Expression :=
  if isOptional then .oneOf [e, .undefined] else e

/-! ## 2. Text -/

/-- Whether a character can begin the name of an identifier. -/
def startsIdentifier (c : Char) : Bool := c.isAlpha || c == '_' || c == '$'

/-- Whether a character can stand in the name of an identifier. -/
def continuesIdentifier (c : Char) : Bool := c.isAlphanum || c == '_' || c == '$'

/-- Whether a key can stand in an object as it is. -/
def isIdentifier : List Char → Bool
  | [] => false
  | c :: rest => startsIdentifier c && rest.all continuesIdentifier

/-- A character of a key between single quotes. -/
def quoteKeyChar (c : Char) : List Char := if c = '\'' ∨ c = '\\' then ['\\', c] else [c]

/-- A key as it stands in an object: as it is if it is an identifier, and otherwise in single
quotes. -/
def renderKeyChars (key : List Char) : List Char :=
  if isIdentifier key then key else '\'' :: key.flatMap quoteKeyChar ++ ['\'']

/-- A key as it stands in an object. -/
def renderKey (key : String) : String := String.ofList (renderKeyChars key.toList)

/-- The expression that picks one of the texts `choices`. -/
def pick (choices : String) : String := "faker.helpers.arrayElement(" ++ choices ++ ")"

/-- The bounds of a random number. -/
def bounds (fields : List String) : String :=
  "\x7b " ++ String.intercalate ", " fields ++ " \x7d"

mutual
/-- The text of the expression. -/
def render : Expression → String
  | .primitive text => text
  | .null => "null"
  | .undefined => "undefined"
  | .oneOf choices => pick ("[" ++ String.intercalate ", " (renderAll choices) ++ "]")
  | .object properties =>
    "\x7b" ++ String.intercalate ", " (renderProperties properties) ++ "\x7d"
  | .array item min max =>
    let count := "faker.number.int("
      ++ bounds ["min: " ++ Nat.repr min.toNat, "max: " ++ Nat.repr max.toNat] ++ ")"
    "Array.from(\x7b length: " ++ count ++ " \x7d, (_, i) => i + 1).map(() => ("
      ++ render item ++ "))"

/-- The texts of several expressions. -/
def renderAll : List Expression → List String
  | [] => []
  | e :: rest => render e :: renderAll rest

/-- The texts of the properties of an object. -/
def renderProperties : List (String × Expression) → List String
  | [] => []
  | (key, e) :: rest => (renderKey key ++ ": " ++ render e) :: renderProperties rest
end

end Expression

end SchemaMock
