/-
# Percent encoding

A character that may not stand in a part of a URL is written as its bytes, each as `%` and two
digits of base sixteen.  Which characters those are depends on the part; characters outside the
first half of a byte are always encoded.
-/
import SchemaMock.Text.Case
import SchemaMock.Text.Digits

namespace SchemaMock.Url

/-! ## 1. What is encoded where -/

/-- Controls, and everything beyond the first half of a byte. -/
def isControl (c : Char) : Bool := c.toNat < 32 || 126 < c.toNat

/-- What is encoded in a fragment. -/
def inFragmentSet (c : Char) : Bool := isControl c || [' ', '"', '<', '>', '\x60'].contains c

/-- What is encoded in a path. -/
def inPathSet (c : Char) : Bool := inFragmentSet c || ['#', '?', '\x7b', '\x7d'].contains c

/-- What is encoded in a user name or a password. -/
def inUserSet (c : Char) : Bool :=
  inPathSet c || ['/', ':', ';', '=', '@', '[', '\\', ']', '^', '|'].contains c

/-- What is encoded in a query. -/
def inQuerySet (isSpecial : Bool) (c : Char) : Bool :=
  isControl c || [' ', '"', '#', '<', '>'].contains c || (isSpecial && c == '\'')

/-- What is encoded in the name of a file. -/
def inFileSet (c : Char) : Bool := inPathSet c || ['/', '%', '\\'].contains c

/-! ## 2. Encoding -/

/-- The bytes of a character. -/
def bytesOf (c : Char) : List Nat :=
  let n := c.toNat
  if n < 0x80 then [n]
  else if n < 0x800 then [0xC0 + n / 0x40, 0x80 + n % 0x40]
  else if n < 0x10000 then [0xE0 + n / 0x1000, 0x80 + n / 0x40 % 0x40, 0x80 + n % 0x40]
  else
    [0xF0 + n / 0x40000, 0x80 + n / 0x1000 % 0x40, 0x80 + n / 0x40 % 0x40, 0x80 + n % 0x40]

/-- A digit of base sixteen, as a capital. -/
def hexDigit (n : Nat) : Char := (Nat.digitChar n).toUpper

/-- A byte in its encoded form. -/
def encodeByte (b : Nat) : List Char := ['%', hexDigit (b / 16), hexDigit (b % 16)]

/-- A text with the characters of a set encoded. -/
def encode (inSet : Char → Bool) (cs : List Char) : List Char :=
  cs.flatMap fun c => if inSet c then (bytesOf c).flatMap encodeByte else [c]

/-! ## 3. Decoding -/

/-- The bytes that a text stands for; a `%` without two digits behind it stands for itself. -/
def decodeBytes : List Char → List Nat
  | '%' :: a :: b :: rest =>
    match Text.hexValue? a, Text.hexValue? b with
    | some x, some y => (x * 16 + y) :: decodeBytes rest
    | _, _ => bytesOf '%' ++ decodeBytes (a :: b :: rest)
  | c :: rest => bytesOf c ++ decodeBytes rest
  | [] => []

/-- The text that bytes stand for, if they are the bytes of one. -/
def textOfBytes? (bytes : List Nat) : Option (List Char) :=
  (String.fromUTF8? (ByteArray.mk (bytes.map UInt8.ofNat).toArray)).map String.toList

/-- The text with every encoded byte decoded, if that is a text. -/
def decode? (cs : List Char) : Option (List Char) := textOfBytes? (decodeBytes cs)

end SchemaMock.Url
