/-
# Expressions for schemas without parts

A text, a number, a truth value or nothing.  An expression that the settings give for the format
comes first, then the one that is known for the format of a text, then the one for the type.
-/
import SchemaMock.Json.Printer
import SchemaMock.Mock.Basic
import SchemaMock.Settings

namespace SchemaMock.PlainSchema

/-! ## 1. Formats -/

/-- The expression for a known format. -/
def knownFormat? (format : String) : Option String :=
  [("date-time", "\x60$\x7bfaker.date.past().toISOString().split('.')[0]\x7dZ\x60"),
    ("date", "faker.date.past().toISOString().split('T')[0]"),
    ("time", "faker.date.past().toISOString().split('T')[1].split('.')[0]"),
    ("email", "faker.internet.email()"),
    ("uuid", "faker.string.uuid()"),
    ("uri", "faker.internet.url()"),
    ("url", "faker.internet.url()"),
    ("hostname", "faker.internet.domainName()"),
    ("ipv4", "faker.internet.ipv4()"),
    ("ipv6", "faker.internet.ipv6()"),
    ("password", "faker.internet.password()"),
    ("byte", "faker.string.alphanumeric(16)"),
    ("binary", "new Blob(faker.helpers.arrayElements(faker.word.words(10).split(' ')))"),
    ("int32", "faker.number.int()"),
    ("int64", "faker.number.int()"),
    ("float", "faker.number.float()"),
    ("double", "faker.number.float()")].lookup format

/-! ## 2. Bounds -/

/-- A bound under its label, if the keyword is a number. -/
def bound? (keywords : Keywords) (label keyword : String) : Option String :=
  match Entries.get? keyword keywords with
  | some (.num n) => some (label ++ ": " ++ n.render)
  | _ => none

/-- The bounds that two keywords give, if they give any. -/
def bounds? (keywords : Keywords) (minKeyword maxKeyword : String) : Option String :=
  let fields := [bound? keywords "min" minKeyword, bound? keywords "max" maxKeyword].filterMap id
  if fields.isEmpty then none else some (Expression.bounds fields)

/-- A call with bounds, or without. -/
def call (function : String) (bounds : Option String) : String :=
  function ++ "(" ++ bounds.getD "" ++ ")"

/-! ## 3. Types -/

/-- The expression for a text. -/
def text (keywords : Keywords) : String :=
  match (Entries.get? "pattern" keywords).bind Json.text? with
  | some pattern => "faker.helpers.fromRegExp(" ++ Json.quote pattern ++ ")"
  | none =>
    match bounds? keywords "minLength" "maxLength" with
    | some range => "faker.string.alpha(\x7b length: " ++ range ++ " \x7d)"
    | none => "faker.word.sample()"

/-- The expression for a type. -/
def ofType (keywords : Keywords) : Option InstanceType → Expression
  | some .integer => .primitive (call "faker.number.int" (bounds? keywords "minimum" "maximum"))
  | some .number => .primitive (call "faker.number.float" (bounds? keywords "minimum" "maximum"))
  | some .boolean => .primitive "faker.datatype.boolean()"
  | some .null => .null
  | _ => .primitive (text keywords)

/-- The expression for the known format of a text. -/
def ofFormat? (type : Option InstanceType) (format : String) : Option Expression :=
  if type = none ∨ type = some .string then (knownFormat? format).map .primitive else none

/-- The expression for a schema without parts. -/
def expression (settings : Settings) (keywords : Keywords) : Expression :=
  let type := Keywords.type? keywords
  let format := Keywords.format? keywords
  let configured := format.bind fun f => (settings.formats.get? f).map .primitive
  let known := format.bind (ofFormat? type)
  (configured.or known).getD (ofType keywords type)

end SchemaMock.PlainSchema
