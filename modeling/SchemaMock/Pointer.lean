/-
# Addresses

Two kinds of address are in use, and they are kept apart.

* A *pointer* such as `#/components/schemas/User` addresses a node of a document.  It is a list of
  segments: names of members, or positions of items.  In its text a segment is escaped, so that any
  name can stand in it: `~` is written `~0` and `/` is written `~1`.
* An *override path* such as `#.user.id` locates a value below the root of the schema that is being
  mocked.  It is what the keys of override rules are compared with; its parts are not escaped.
-/
import SchemaMock.Text.Pieces
import SchemaMock.Json.Basic

namespace SchemaMock

/-! ## 1. Segments of a pointer -/

namespace Pointer

/-- A segment as it is written in a pointer. -/
def escapeChars : List Char → List Char
  | [] => []
  | '~' :: rest => '~' :: '0' :: escapeChars rest
  | '/' :: rest => '~' :: '1' :: escapeChars rest
  | c :: rest => c :: escapeChars rest

/-- A segment as it is written in a pointer. -/
def escape (segment : String) : String := String.ofList (escapeChars segment.toList)

/-- Every pair `a b`, from left to right, replaced by `c`. -/
def replacePair (a b c : Char) : List Char → List Char
  | x :: y :: rest =>
    if x = a ∧ y = b then c :: replacePair a b c rest
    else x :: replacePair a b c (y :: rest)
  | cs => cs

/-- The name that an escaped segment stands for.  `~1` is undone before `~0`, so that `~01` stands
for `~1`. -/
def unescapeChars (cs : List Char) : List Char :=
  replacePair '~' '0' '~' (replacePair '~' '1' '/' cs)

/-- The name that an escaped segment stands for. -/
def unescape (segment : String) : String := String.ofList (unescapeChars segment.toList)

/-! ## 2. Whole pointers -/

/-- The text of a pointer below the text `parent`. -/
def build (parent : String) (segments : List String) : String :=
  segments.foldl (fun pointer segment => pointer ++ "/" ++ escape segment) parent

/-- The text of a pointer without the mark that may lead it. -/
def stripMark (cs : List Char) : List Char := (Text.after? ['#'] cs).getD cs

/-- The segments of a pointer's text.  The mark `#` in front is optional; with it or without it, an
empty pointer addresses the whole document. -/
def splitChars (cs : List Char) : List (List Char) :=
  match stripMark cs with
  | [] => []
  | '/' :: rest => (Text.cut '/' rest).map unescapeChars
  | cs => (Text.cut '/' cs).map unescapeChars

/-- The segments of a pointer's text. -/
def split (pointer : String) : List String := (splitChars pointer.toList).map String.ofList

end Pointer

/-! ## 3. The node at an address -/

/-- The position that a segment gives in an array: decimal digits, optionally behind a plus sign,
with a value of 64 bits. -/
def Pointer.position? (segment : String) : Option Nat :=
  let digits :=
    match segment.toList with
    | '+' :: rest => rest
    | cs => cs
  if digits.isEmpty ∨ ¬ digits.all Char.isDigit then none
  else
    let n := digits.foldl (fun n c => n * 10 + (c.toNat - 48)) 0
    if n < wordLimit then some n else none

/-- The node one step below: a member of an object or an item of an array. -/
def Json.child? (segment : String) : Json → Option Json
  | .obj members => Entries.get? segment members
  | .arr items => (Pointer.position? segment).bind fun i => items[i]?
  | _ => none

/-- The node that a list of segments leads to. -/
def Json.at? : Json → List String → Option Json
  | document, [] => some document
  | document, segment :: rest => (document.child? segment).bind fun node => node.at? rest

/-! ## 4. Override paths -/

namespace OverridePath

/-- The path of the property `key` below `parent`; without a parent, below the root. -/
def child (parent : Option String) (key : String) : String :=
  match parent with
  | some parent => parent ++ "." ++ key
  | none => "#" ++ "." ++ key

/-- The last part of the path of an array's items. -/
def itemKey : String := "[]"

/-- The path without the mark of the root, as it is written in a rule. -/
def written? (path : String) : Option String :=
  (Text.after? ['#', '.'] path.toList).map String.ofList

end OverridePath

end SchemaMock
