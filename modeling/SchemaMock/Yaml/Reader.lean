/-
# Documents from YAML

The values of a document are taken from its nodes by the same expectations as those of a text in
the narrower format.  Where any value may stand, a plain scalar is what it looks like and every
other scalar is a text; where a truth value or a number must stand, only a plain scalar can say it;
and where a text must stand, every scalar is one.  An empty plain scalar is also a table or a
record without entries.

The keys of a mapping are scalars, and are taken as they are written.  A field of a record may come
once; a key of any other mapping takes the value that comes last.

Collections may stand inside one another to a depth of 128, and aliases may be followed a hundred
times for each mark of the document; so aliases cannot make a small text large.
-/
import SchemaMock.Json.Reader
import SchemaMock.Yaml.Node
import SchemaMock.Yaml.Plain

namespace SchemaMock.Yaml

/-! ## 1. Scalars -/

/-- The name of a common tag. -/
def commonTag (name : String) : String := "tag:yaml.org,2002:" ++ name

/-- Whether a tag is a name of the document's own. -/
def isOwnName (tag : String) : Bool := tag.toList.head? == some '!'

/-- Whether the bytes of a tag are those of a text. -/
def isText (tag : String) : Bool :=
  (String.fromUTF8? ⟨(tag.toList.map fun c => UInt8.ofNat c.toNat).toArray⟩).isSome

/-- Whether a tag says that there is no value: it is a name of the document's own, and a text. -/
def isOwnTag (tag : Option String) : Bool := tag.any fun t => isOwnName t && isText t

/-- The value of a scalar by its looks: of one that is not plain, its text. -/
def shownValue? (s : Scalar) : Option Json :=
  if s.style = .plain then Plain.value? s.text else some (.str s.text)

/-- The value of a scalar where any may stand.  A common tag says what a scalar is, however it is
written. -/
def scalarValue? (tag : Option String) (s : Scalar) : Option Json :=
  match tag with
  | none => shownValue? s
  | some tag =>
    if isOwnTag (some tag) then none
    else if tag = commonTag "bool" then (Plain.bool? s.text).map .bool
    else if tag = commonTag "int" then (Plain.int? s.text.toList).bind Plain.ofInt?
    else if tag = commonTag "float" then Plain.floatValue? s.text
    else if tag = commonTag "null" then if Plain.isNull s.text then some .null else none
    else if isOwnName tag then shownValue? s
    else some (.str s.text)

/-- Whether a scalar can say more than its text: a plain one, or a literal block whose tag says what
it is. -/
def speaks (name : String) (tag : Option String) (s : Scalar) : Bool :=
  s.style = .plain || (s.style = .literal && tag == some (commonTag name))

/-- The value of a scalar where one of a kind must stand. -/
def scalarAs? (expected : Expected) (tag : Option String) (s : Scalar) : Option Json :=
  match expected with
  | .any => scalarValue? tag s
  | .ignored => some .null
  | .bool => if speaks "bool" tag s then (Plain.bool? s.text).map .bool else none
  | .word => if speaks "int" tag s then (Plain.word? s.text).map .ofNat else none
  | .text => some (.str s.text)
  | .table _ => if s.style = .plain && s.text.isEmpty then some (.obj []) else none
  | .record _ => if s.style = .plain && s.text.isEmpty then some (.obj []) else none

/-! ## 2. Trees -/

/-- A step that may follow aliases, as often as is left. -/
abbrev Following (α : Type) := StateT Nat Option α

namespace Document

/-- The node that stands in a place. -/
def follow (d : Document) : Node → Following Node
  | .alias number => do
    match ← get, d.node? number with
    | left + 1, some node =>
      set left
      return node
    | _, _ => failure
  | node => return node

/-- The text of a key. -/
def keyText (d : Document) (key : Node) : Following String := do
  match ← d.follow key with
  | .scalar _ s => return s.text
  | _ => failure

/-- The value of a node where one of a kind must stand.  `depth` is the number of collections that
may still stand inside one another. -/
def valueAs (d : Document) : (depth : Nat) → Expected → Node → Following Json
  | depth, expected, node => do
    if Json.Reader.isIgnored expected then return .null
    match ← d.follow node, depth, expected with
    | .scalar tag s, _, expected => scalarAs? expected tag s
    | .seq tag items, depth + 1, .any =>
      if isOwnTag tag then failure else return .arr (← items.mapM (valueAs d depth .any))
    | .seq _ items, depth + 1, .record fields =>
      if fields.length < items.length then failure
      else return .arr (← (items.zip fields).mapM fun e => valueAs d depth e.2.2 e.1)
    | .map tag entries, depth + 1, .any =>
      if isOwnTag tag then failure else entriesAs d depth entries .any
    | .map _ entries, depth + 1, .table entry => entriesAs d depth entries entry
    | .map _ entries, depth + 1, .record fields =>
      let members ← entries.foldlM (fun done (key, node) => do
        let key ← d.keyText key
        match Entries.get? key fields with
        | none => return done
        | some expected =>
          if (Entries.get? key done).isSome then failure
          else return done ++ [(key, ← valueAs d depth expected node)]) []
      return .obj members
    | _, _, _ => failure
where
  /-- The entries of a mapping whose values are all wanted alike. -/
  entriesAs (d : Document) (depth : Nat) (entries : List (Node × Node)) (expected : Expected) :
      Following Json := do
    let members ← entries.foldlM (fun done (key, node) => do
      let key ← d.keyText key
      return Entries.put key (← valueAs d depth expected node) done) []
    return .obj members

/-- The number of collections that may stand inside one another. -/
def deepest : Nat := 128

/-- The value of a document where one of a kind must stand. -/
def read? (d : Document) (expected : Expected) : Option Json :=
  ((d.valueAs deepest expected d.root).run (100 * d.root.size)).map Prod.fst

end Document

/-- The value that a text holds where one of a kind must stand. -/
def read? (expected : Expected) (text : String) : Option Json :=
  (Document.ofText? text).bind fun d => d.read? expected

end SchemaMock.Yaml
