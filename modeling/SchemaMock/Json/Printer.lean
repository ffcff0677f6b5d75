/-
# Documents as text

One compact form and one indented form.  Both write members in their order, and both write a scalar
in the same way; the compact form of a value is also what is copied into a generated expression.

The text of a double is its shortest decimal.  Where the decimal point falls decides the form:
positional with at least one digit on either side of the point when the value is at least `10^-5`
and below `10^16`, and otherwise one digit, the rest behind a point, and a signed exponent.
-/
import SchemaMock.Json.Basic
import SchemaMock.Decimal.Shortest

namespace SchemaMock

/-! ## 1. Numbers -/

namespace Decimal

/-- Where a number goes from positional to exponential form. -/
structure Layout where
  /-- The largest number of digits in front of the point. -/
  mostLeading : Int
  /-- The largest number of zeros between the point and the first digit. -/
  mostZeros : Int

/-- The form of a positive decimal. -/
def Point.render (layout : Layout) (d : Point) : String :=
  let digits := (Nat.repr d.digits).toList
  let count := digits.length
  let point : Int := count + d.exponent
  let zeros (n : Int) := List.replicate n.toNat '0'
  if 0 ≤ d.exponent ∧ point ≤ layout.mostLeading then
    String.ofList (digits ++ zeros d.exponent) ++ ".0"
  else if 0 < point ∧ point ≤ layout.mostLeading then
    String.ofList (digits.take point.toNat ++ '.' :: digits.drop point.toNat)
  else if point ≤ 0 ∧ -point ≤ layout.mostZeros then
    String.ofList ('0' :: '.' :: zeros (-point) ++ digits)
  else
    let fraction := if count = 1 then [] else '.' :: digits.drop 1
    let power := point - 1
    let sign := if power < 0 then "-" else "+"
    String.ofList (digits.take 1 ++ fraction) ++ "e" ++ sign ++ Nat.repr power.natAbs

end Decimal

namespace Number

/-- Sixteen digits in front of the point, four zeros behind it. -/
def layout : Decimal.Layout := ⟨16, 4⟩

/-- The text of a double that is a number. -/
def renderFloat (x : Float) : String :=
  let bits := x.toBits.toNat
  let sign := if bits / 9223372036854775808 = 1 then "-" else ""
  match (Decimal.Binary.ofBits? (bits % 9223372036854775808)).bind Decimal.Binary.shortest? with
  | none => sign ++ "0.0"
  | some d => sign ++ d.render layout

/-- The text of a number. -/
def render : Number → String
  | .int n => toString n
  | .float x => renderFloat x

end Number

/-! ## 2. Strings -/

namespace Json

/-- A digit of base sixteen, in lower case. -/
def hexDigit (n : Nat) : Char := Nat.digitChar n

/-- A character inside quotes: the quote, the backslash and the controls are escaped. -/
def escapeChar (c : Char) : List Char :=
  if c = '"' then ['\\', '"']
  else if c = '\\' then ['\\', '\\']
  else if c = '\n' then ['\\', 'n']
  else if c = '\r' then ['\\', 'r']
  else if c = '\t' then ['\\', 't']
  else if c.toNat = 8 then ['\\', 'b']
  else if c.toNat = 12 then ['\\', 'f']
  else if c.toNat < 32 then
    ['\\', 'u', '0', '0', hexDigit (c.toNat / 16), hexDigit (c.toNat % 16)]
  else [c]

/-- A text in quotes. -/
def quote (s : String) : String :=
  String.ofList ('"' :: s.toList.flatMap escapeChar ++ ['"'])

/-! ## 3. Trees -/

mutual
/-- The text of a tree without blanks. -/
def compact : Json → String
  | .null => "null"
  | .bool b => if b then "true" else "false"
  | .num n => n.render
  | .str s => quote s
  | .arr items => "[" ++ String.intercalate "," (compactItems items) ++ "]"
  | .obj members => "\x7b" ++ String.intercalate "," (compactMembers members) ++ "\x7d"

/-- The texts of the items of an array. -/
def compactItems : List Json → List String
  | [] => []
  | item :: rest => compact item :: compactItems rest

/-- The texts of the members of an object. -/
def compactMembers : List (String × Json) → List String
  | [] => []
  | (key, value) :: rest => (quote key ++ ":" ++ compact value) :: compactMembers rest
end

/-- A new line, indented by two blanks for each level. -/
def newLine (level : Nat) : String := "\n" ++ String.ofList (List.replicate (2 * level) ' ')

/-- Parts on lines of their own between brackets; nothing between the brackets when there are
none. -/
def bracketed (level : Nat) (opening closing : String) (parts : List String) : String :=
  if parts.isEmpty then opening ++ closing
  else
    opening ++ newLine (level + 1) ++ String.intercalate ("," ++ newLine (level + 1)) parts
      ++ newLine level ++ closing

mutual
/-- The text of a tree with one item or member on a line. -/
def indented (level : Nat) : Json → String
  | .null => "null"
  | .bool b => if b then "true" else "false"
  | .num n => n.render
  | .str s => quote s
  | .arr items => bracketed level "[" "]" (indentedItems (level + 1) items)
  | .obj members => bracketed level "\x7b" "\x7d" (indentedMembers (level + 1) members)

/-- The texts of the items of an array, each at `level`. -/
def indentedItems (level : Nat) : List Json → List String
  | [] => []
  | item :: rest => indented level item :: indentedItems level rest

/-- The texts of the members of an object, each at `level`. -/
def indentedMembers (level : Nat) : List (String × Json) → List String
  | [] => []
  | (key, value) :: rest =>
    (quote key ++ ": " ++ indented level value) :: indentedMembers level rest
end

/-- The indented text of a document. -/
def pretty (document : Json) : String := indented 0 document

end Json

end SchemaMock
