/-
# References between documents

A document is known by its key: a URL, or a path below a directory that nobody names.  A reference
tells a document, by a path from the document it stands in, and behind `#` a pointer into it;
without a document it points into its own.

Joining keys is joining URLs.  A key that is no URL is joined as if the unnamed directory were the
root of the files, and loses that root again; so a path goes up as far as the root at most, and a
rooted key stays rooted.  What cannot be joined is taken as it is written.
-/
import SchemaMock.Pointer
import SchemaMock.Url.File

namespace SchemaMock

/-! ## 1. Joining keys -/

namespace DocumentKey

/-- The root of the files. -/
def filesRoot : Url := Url.ofFile []

/-- The path of a URL. -/
def pathText (url : Url) : List Char := url.location.render

/-- The key of the document that the text `document` tells in the document `current`. -/
def joinChars (current document : List Char) : List Char :=
  match Url.read? none current with
  | some base =>
    match Url.read? (some base) document with
    | some joined => joined.render
    | none => document
  | none =>
    match (Url.read? (some filesRoot) current).bind fun base => Url.read? (some base) document with
    | some joined =>
      if current.head? = some '/' then pathText joined
      else (pathText joined).dropWhile (· = '/')
    | none => document

/-- The key of the document that the text `document` tells in the document `current`. -/
def join (current document : String) : String :=
  String.ofList (joinChars current.toList document.toList)

end DocumentKey

/-! ## 2. References -/

/-- Where a reference points. -/
structure Reference where
  /-- A name for what is there, in the style of a type. -/
  name : String
  /-- The document, if the reference tells one. -/
  documentKey : Option String
  /-- The way to the node inside the document. -/
  segments : List String
  deriving DecidableEq, Repr, Inhabited

namespace Reference

/-- The name of a file without its directories and without what follows its first dot. -/
def stem (document : List Char) : List Char :=
  let file := ((Text.cut '/' document).getLast?).getD []
  (Text.splitFirst '.' file).1

/-- A reference that stands in the document `current`.  Its name comes from the last segment, or
from the file if it points at a whole document. -/
def read (reference current : String) : Reference :=
  let (document, fragment) := Text.splitFirst '#' reference.toList
  let segments := Pointer.split (String.ofList (fragment.getD []))
  let documentKey :=
    if document.isEmpty then none else some (DocumentKey.join current (String.ofList document))
  let rawName := segments.getLast?.getD (String.ofList (stem document))
  ⟨Text.upperCamel rawName, documentKey, segments⟩

/-- The document that is pointed into. -/
def document (r : Reference) (current : String) : String := r.documentKey.getD current

/-- One text for the document and the way inside it: what tells two targets apart. -/
def address (r : Reference) (current : String) : String :=
  r.document current ++ Pointer.build "#" r.segments

end Reference

end SchemaMock
