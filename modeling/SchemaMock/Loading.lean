/-
# Loading documents

A document is loaded from a file, and then every document of this machine that a reference leads to,
whether or not anything ever follows that reference.  The keys of documents are URLs of files.

Loading is a row of turns.  A turn takes the first key that waits, reads the document of it, and
lets the keys that its references tell wait behind the others, each key once.  Keys that mean no
files, and files that are not there, are skipped.  A file that is there and cannot be read, or has
no document in it, ends the loading with a fault, and so does a key that can be made into no path.

Turns follow one another until no key waits.  A file that tells a longer way to itself has ever more
keys, so nothing in the turns themselves says that they end; they do because the system takes no
path of any length.
-/
import SchemaMock.Files
import SchemaMock.Options
import SchemaMock.Reference
import SchemaMock.DocumentStore
import SchemaMock.Yaml.Reader

namespace SchemaMock

/-! ## 1. Documents of files -/

/-- How the document of a file is written. -/
inductive DocumentFormat where
  | json
  | yaml
  deriving DecidableEq, Repr

namespace DocumentFormat

/-- What stands behind the last dot of a name, if something stands before it. -/
def extension? (name : List Char) : Option (List Char) :=
  match (Text.cut '.' name).reverse with
  | [] => none
  | [_] => none
  | [last, first] => if first.isEmpty then none else some last
  | last :: _ => some last

/-- The format of the file at a path. -/
def ofPath (path : String) : DocumentFormat :=
  let names := (Text.cut '/' path.toList).filter fun n => !n.isEmpty && n != ['.']
  match names.getLast?.bind extension? with
  | some ext => if ext = "yaml".toList ∨ ext = "yml".toList then .yaml else .json
  | none => .json

/-- The name of a format. -/
def name : DocumentFormat → String
  | json => "JSON"
  | yaml => "YAML"

/-- The value that a text holds where one of a kind must stand. -/
def read? (format : DocumentFormat) (expected : Expected) (text : String) : Option Json :=
  match format with
  | json => (Json.Reader.read expected text).toOption
  | yaml => Yaml.read? expected text

end DocumentFormat

/-- Why documents cannot be loaded. -/
inductive LoadFault where
  /-- There is nothing at the path that the user has told. -/
  | missingInput (path : String)
  /-- A file cannot be read. -/
  | unreadable (path : String)
  /-- The text of a file is no document. -/
  | malformed (format : DocumentFormat) (path : String)
  /-- A key is no URL. -/
  | invalidKey (key : String)
  /-- A key is the URL of a file on another machine. -/
  | foreignKey (key : String)
  deriving DecidableEq, Repr

/-- What is said about a fault. -/
def LoadFault.message : LoadFault → String
  | missingInput path => "Failed to open input file: " ++ path
  | unreadable path => "Failed to read file: " ++ path
  | malformed format path => "Failed to parse " ++ format.name ++ " from: " ++ path
  | invalidKey key => "Invalid document URL: " ++ key
  | foreignKey key => "Not a local document: " ++ key

/-- The document of the text of a file. -/
def documentOfText (expected : Expected) (path text : String) : Except LoadFault Json :=
  let format := DocumentFormat.ofPath path
  match format.read? expected text with
  | some value => .ok value
  | none => .error (.malformed format path)

/-- The options that the file at a path tells, where `text` is the text that is found there, if one
is; without a path, the defaults. -/
def Options.load (file : Option (String × Option String)) : Except LoadFault Options :=
  match file with
  | none => .ok Options.default
  | some (path, none) => .error (.unreadable path)
  | some (path, some text) => do
    let value ← documentOfText Options.expected path text
    match Options.ofJson? value with
    | some options => .ok options
    | none => .error (.malformed (DocumentFormat.ofPath path) path)

/-! ## 2. Keys of files -/

/-- The key of the file that a way from the root leads to. -/
def DocumentKey.ofWay (way : List String) : String := String.ofList (Url.ofFile way).render

/-- The path to the file of a key. -/
def DocumentKey.path (key : String) : Except LoadFault String :=
  match Url.read? none key.toList with
  | none => .error (.invalidKey key)
  | some url =>
    match url.toFile? with
    | none => .error (.foreignKey key)
    | some path => .ok (String.ofList path)

/-- Whether a key is meant to be a file. -/
def DocumentKey.isFile (key : String) : Bool := "file:".toList.isPrefixOf key.toList

/-! ## 3. One turn -/

/-- Loading documents, as far as it has come. -/
structure Loading where
  /-- The key of the first document. -/
  root : String
  /-- The keys that have been told. -/
  seen : List String
  /-- The keys that wait, in order. -/
  queue : List String
  /-- The documents that have been loaded. -/
  store : DocumentStore
  /-- The keys that have been skipped, in order. -/
  skipped : List String

/-- A fault, and the keys that had been skipped before it. -/
structure LoadFailure where
  fault : LoadFault
  skipped : List String

namespace Loading

/-- Nothing has been loaded. -/
def start (root : String) : Loading := ⟨root, [root], [root], .empty, []⟩

/-- The key of a reference waits, if it is told for the first time and means a file. -/
def discover (l : Loading) (current reference : String) : Loading :=
  let target := (Reference.read reference current).document current
  if target ∈ l.seen then l
  else if DocumentKey.isFile target then
    { l with seen := target :: l.seen, queue := l.queue ++ [target] }
  else { l with seen := target :: l.seen, skipped := l.skipped ++ [target] }

/-- A key that waits no longer and is skipped. -/
def skip (l : Loading) (key : String) : Loading := { l with skipped := l.skipped ++ [key] }

/-- The document of a key, whose references are looked at in the order of the document. -/
def accept (l : Loading) (key : String) (document : Json) : Loading :=
  let l := document.references.foldl (fun l reference => l.discover key reference) l
  { l with store := l.store.insert key document }

/-- A fault at this point. -/
def fail (l : Loading) (fault : LoadFault) : LoadFailure := ⟨fault, l.skipped⟩

/-- The turn of a key.  `look` tells what is found under a path. -/
def turn (look : String → FileState) (l : Loading) (key : String) :
    Except LoadFailure Loading := do
  let path ← (DocumentKey.path key).mapError l.fail
  match look path with
  | .absent => if key = l.root then .error (l.fail (.unreadable path)) else .ok (l.skip key)
  | .unreadable => .error (l.fail (.unreadable path))
  | .text content =>
    let document ← (documentOfText .any path content).mapError l.fail
    .ok (l.accept key document)

/-! ## 4. All turns -/

/-- What comes next: the turn of the first key that waits, after which loading goes on or has
failed; or, if no key waits, the end. -/
def step {m : Type → Type} [Monad m] (look : String → m FileState) (l : Loading) :
    m (Loading ⊕ Except LoadFailure Loading) := do
  match l.queue with
  | [] => return .inr (.ok l)
  | key :: rest =>
    let found ← match DocumentKey.path key with
      | .ok path => look path
      | .error _ => pure .absent
    match turn (fun _ => found) { l with queue := rest } key with
    | .ok l => return .inl l
    | .error failure => return .inr (.error failure)

instance : Nonempty (Except LoadFailure Loading) := ⟨.ok (start "")⟩

/-- Turns until no key waits or a turn fails. -/
def run {m : Type → Type} [Monad m] (look : String → m FileState) (l : Loading) :
    m (Except LoadFailure Loading) := repeatM (step look) l

end Loading

/-- The document at a path and all that its references lead to. -/
def FileTree.load (tree : FileTree) (input : String) : Except LoadFailure Loading :=
  match tree.find? input with
  | none => .error ⟨.missingInput input, []⟩
  | some way => Id.run (Loading.run (fun path => pure (tree.look path))
      (Loading.start (DocumentKey.ofWay way)))

end SchemaMock
