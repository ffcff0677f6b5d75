/-
# Documents

A document is a tree of seven kinds of node.  Whole numbers and doubles are told apart, because a
bound such as `minItems` is read from a whole number only: `2` is a bound and `2.0` is not.  The
members of an object are kept in the order in which they are written.

Looking into a document never fails hard: a question that a node cannot answer has the answer
`none`.
-/
import SchemaMock.OrderedMap

namespace SchemaMock

/-! ## 1. The tree -/

/-- A number of a document: a whole number, or a double (which may be whole in value). -/
inductive Number where
  | int (value : Int)
  | float (value : Float)
  deriving Inhabited

/-- A document, or any node of one. -/
inductive Json where
  | null
  | bool (value : Bool)
  | num (value : Number)
  | str (value : String)
  | arr (items : List Json)
  | obj (members : List (String × Json))
  deriving Inhabited

/-- The first number that no longer fits into 64 bits. -/
def wordLimit : Nat := 18446744073709551616

namespace Json

/-- A whole number as a node. -/
def ofNat (n : Nat) : Json := .num (.int n)

/-- A node, or `null` for none. -/
def ofOption {α : Type} (f : α → Json) : Option α → Json
  | none => .null
  | some a => f a

/-! ## 2. Questions to one node -/

/-- The members of an object. -/
def members? : Json → Option (Entries Json)
  | .obj members => some members
  | _ => none

/-- The items of an array. -/
def items? : Json → Option (List Json)
  | .arr items => some items
  | _ => none

/-- The text of a string. -/
def text? : Json → Option String
  | .str s => some s
  | _ => none

/-- The truth value of a node that is one. -/
def bool? : Json → Option Bool
  | .bool b => some b
  | _ => none

/-- The whole number from 0 to 2^64 - 1 that a node holds. -/
def word? : Json → Option UInt64
  | .num (.int n) => if 0 ≤ n ∧ n < wordLimit then some (UInt64.ofNat n.toNat) else none
  | _ => none

/-- The member `key` of an object. -/
def get? (key : String) : Json → Option Json
  | .obj members => Entries.get? key members
  | _ => none

/-! ## 3. The references of a document -/

mutual
/-- Every `$ref` text of a tree, in document order.  A `$ref` that is not a text is an ordinary
member, and is searched like one. -/
def references : Json → List String
  | .arr items => referencesOfItems items
  | .obj members => referencesOfMembers members
  | _ => []

/-- The references of the items of an array, one item after another. -/
def referencesOfItems : List Json → List String
  | [] => []
  | item :: rest => references item ++ referencesOfItems rest

/-- The references of the members of an object, one member after another. -/
def referencesOfMembers : List (String × Json) → List String
  | [] => []
  | (key, value) :: rest =>
    (match key, value with
      | "$ref", .str reference => [reference]
      | _, value => references value) ++ referencesOfMembers rest
end

/-! ## 4. Trees without repeated names -/

mutual
/-- No object of the tree names a member twice.  Every tree that is read from text is so. -/
def Distinct : Json → Prop
  | .arr items => DistinctItems items
  | .obj members => (Entries.keys members).Nodup ∧ DistinctMembers members
  | _ => True

/-- Every item of an array is without repeated names. -/
def DistinctItems : List Json → Prop
  | [] => True
  | item :: rest => Distinct item ∧ DistinctItems rest

/-- The value of every member of an object is without repeated names. -/
def DistinctMembers : List (String × Json) → Prop
  | [] => True
  | (_, value) :: rest => Distinct value ∧ DistinctMembers rest
end

end Json

end SchemaMock
