/-
# Why a schema cannot be mocked

Each cause has its own data, and one wording.
-/
import SchemaMock.Json.Reader
import SchemaMock.Text.Case

namespace SchemaMock

/-- Why something cannot be mocked. -/
inductive MockFault where
  /-- The text of options or of a part of them is wrong. -/
  | unreadable (fault : ReadFault)
  /-- The key of a rule is a pattern that is refused. -/
  | badPattern (key : String)
  /-- A reference leads back to a target that is being resolved; `chain` is the way there. -/
  | cyclic (reference : String) (chain : List String)
  /-- Nothing stands at a pointer. -/
  | missing (pointer : String)
  /-- The default bounds of arrays are inverted. -/
  | invertedBounds (min max : UInt64)
  /-- There is no document of this key. -/
  | unknownDocument (key : String)
  deriving DecidableEq, Repr

namespace MockFault

/-- Whether a character has a form of its own on paper: neither a blank other than the common one,
nor a mark on the character before it, nor one without any form. -/
def isPrintable (c : Char) : Bool :=
  if Text.isAscii c then 31 < c.toNat && c.toNat < 127
  else
    Text.Category.anyContains Text.Category.assigned c &&
      !Text.Category.anyContains Text.Category.formless c

/-- A character of a quoted text in a message. -/
def quoteChar (c : Char) : List Char :=
  if c = '"' ∨ c = '\\' then ['\\', c]
  else if c = '\n' then ['\\', 'n']
  else if c = '\r' then ['\\', 'r']
  else if c = '\t' then ['\\', 't']
  else if c.toNat = 0 then ['\\', '0']
  else if ¬ isPrintable c then
    '\\' :: 'u' :: '\x7b' :: (Nat.toDigits 16 c.toNat ++ ['\x7d'])
  else [c]

/-- A text in quotes, as a message shows it. -/
def quoted (s : String) : String := String.ofList ('"' :: s.toList.flatMap quoteChar ++ ['"'])

/-- What is said about an error. -/
def message : MockFault → String
  | .unreadable .malformed => "JSON parsing error: malformed text"
  | .unreadable .mismatch => "JSON parsing error: unexpected value"
  | .unreadable .truncated => "JSON parsing error: unexpected end of text"
  | .badPattern key => "Invalid override pattern " ++ quoted key ++ ": "
  | .cyclic reference chain =>
    "Cyclic schema reference " ++ reference ++ " (via " ++ String.intercalate " -> " chain ++ ")"
  | .missing pointer => "Schema error at " ++ pointer ++ ": no schema at this pointer"
  | .invertedBounds min max =>
    "Invalid mock options: array-min (" ++ Nat.repr min.toNat ++ ") is greater than array-max ("
      ++ Nat.repr max.toNat ++ ")"
  | .unknownDocument key => "Unknown specification document: " ++ key

end MockFault

end SchemaMock
