/-
# Documents in hand

The documents that references can lead into, under their keys.  Nothing is changed while a schema is
mocked.
-/
import SchemaMock.Pointer

namespace SchemaMock

/-- Documents under their keys. -/
structure DocumentStore where
  documents : OrderedMap Json
  deriving Inhabited

namespace DocumentStore

/-- The store without documents. -/
def empty : DocumentStore := ⟨.empty⟩

/-- The store with one document more; a known key keeps its place and takes the new document. -/
def insert (store : DocumentStore) (key : String) (document : Json) : DocumentStore :=
  ⟨store.documents.put key document⟩

/-- The store of some documents, put in one after another. -/
def ofList (documents : Entries Json) : DocumentStore := ⟨.ofList documents⟩

/-- The document of a key. -/
def get? (store : DocumentStore) (key : String) : Option Json := store.documents.get? key

/-- Whether there is a document of a key. -/
def contains (store : DocumentStore) (key : String) : Bool := store.documents.contains key

/-- The keys, in order. -/
def keys (store : DocumentStore) : List String := store.documents.keys

/-- The node that segments lead to in the document of a key. -/
def at? (store : DocumentStore) (key : String) (segments : List String) : Option Json :=
  (store.get? key).bind fun document => document.at? segments

/-- Every reference of every document. -/
def references (store : DocumentStore) : List String :=
  store.documents.entries.flatMap fun e => e.2.references

end DocumentStore

end SchemaMock
