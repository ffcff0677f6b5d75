/-
# Files

A tree of files is a list of ways from the root, each a list of names, with what is in the file
there: a text, or bytes that are none.  A directory is what stands on the way to a file, so the tree
has no empty one besides the root, which is also where paths without a slash in front begin.

A path is walked name by name.  Nothing leads on from a file, and nothing leads up from the root.
Not every text is a path: the system takes no empty one, none of 4096 bytes or more, and none with
the character that ends its texts.
-/
import SchemaMock.OrderedMap
import SchemaMock.Text.Pieces

namespace SchemaMock

/-- What is found under a path. -/
inductive FileState where
  /-- There is no file, but nothing at all or a directory. -/
  | absent
  /-- There is a file, but it cannot be read, or it holds no text. -/
  | unreadable
  | text (content : String)
  deriving DecidableEq, Repr, Inhabited

/-- The text that is found, if one is. -/
def FileState.text? : FileState → Option String
  | .text content => some content
  | _ => none

/-- Files: their ways from the root, and their texts, if they hold any. -/
structure FileTree where
  files : List (List String × Option String)
  deriving Inhabited

namespace FileTree

/-! ## 1. Paths -/

/-- The number of bytes that a path stays below. -/
def pathLimit : Nat := 4096

/-- Whether the system takes a text for a path. -/
def isPath (path : String) : Bool :=
  !path.isEmpty && path.utf8ByteSize < pathLimit && !path.toList.contains '\x00'

/-- The names of a path. -/
def names (path : String) : List String := (Text.cut '/' path.toList).map String.ofList

/-- Whether a way leads to a file. -/
def isFile (tree : FileTree) (way : List String) : Bool := tree.files.any fun e => e.1 == way

/-- Whether a way leads to a directory. -/
def isDirectory (tree : FileTree) (way : List String) : Bool :=
  way.isEmpty || tree.files.any fun e => way.isPrefixOf e.1 && e.1 != way

/-- Where some names lead to from a place: a way without names that only say where they are. -/
def walk? (tree : FileTree) : (here : List String) → List String → Option (List String)
  | here, [] => some here
  | here, name :: rest =>
    if !tree.isDirectory here then none
    else if name = "" ∨ name = "." then walk? tree here rest
    else if name = ".." then walk? tree here.dropLast rest
    else
      let next := here ++ [name]
      if tree.isFile next || tree.isDirectory next then walk? tree next rest else none

/-- Where a path leads to. -/
def find? (tree : FileTree) (path : String) : Option (List String) :=
  if isPath path then tree.walk? [] (names path) else none

/-! ## 2. Texts -/

/-- What is found under a path. -/
def look (tree : FileTree) (path : String) : FileState :=
  match (tree.find? path).bind fun way => tree.files.lookup way with
  | none => .absent
  | some none => .unreadable
  | some (some content) => .text content

/-- The text of the file that a path leads to. -/
def read? (tree : FileTree) (path : String) : Option String := (tree.look path).text?

/-- The tree with a text at a way. -/
def put (tree : FileTree) (way : List String) (text : String) : FileTree :=
  if tree.isFile way then ⟨tree.files.map fun e => if e.1 = way then (way, some text) else e⟩
  else ⟨tree.files ++ [(way, some text)]⟩

/-- The tree with a text in the file of a path.  The directory that the file stands in must be there
already, and no directory may stand in its place. -/
def write? (tree : FileTree) (path text : String) : Option FileTree :=
  match (names path).getLast? with
  | none => none
  | some name =>
    if name = "" ∨ name = "." ∨ name = ".." ∨ !isPath path then none
    else
      match tree.walk? [] (names path).dropLast with
      | none => none
      | some here =>
        let way := here ++ [name]
        if tree.isDirectory way || !tree.isDirectory here then none else some (tree.put way text)

/-- The tree of some paths and texts. -/
def ofEntries (entries : Entries String) : FileTree :=
  entries.foldl (fun tree e => tree.put ((names e.1).filter fun n => n != "" && n != ".") e.2) ⟨[]⟩

end FileTree

end SchemaMock
