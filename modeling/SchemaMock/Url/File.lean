/-
# Files and their URLs

A file of this machine has a URL without a host, and each name on the way to it is a segment.
-/
import SchemaMock.Url.Parser

namespace SchemaMock.Url

/-- The URL of the file that the names lead to from the root. -/
def ofFile (names : List String) : Url :=
  let segments := names.map fun name => encode inFileSet name.toList
  ⟨fileScheme, some ⟨[], [], none⟩, .path (if segments.isEmpty then [[]] else segments), none, none⟩

/-- Whether a path ends like the name of a drive: with a letter and a colon. -/
def endsLikeDrive (path : List Char) : Bool :=
  match path.reverse with
  | ':' :: c :: _ => c.isAlpha
  | _ => false

/-- The path to the file of a URL, from the root.  A URL on a host is no file of this machine, and a
path that ends like a drive leads to a directory.  Bytes that are no text stand for a character that
no file has in its name. -/
def toFile? (url : Url) : Option (List Char) :=
  match url.location with
  | .rootless _ => none
  | .path segments =>
    if hostText url ≠ [] ∧ hostText url ≠ "localhost".toList then none
    else
      let path := segments.flatMap fun s => '/' :: (decode? s).getD ['\x00']
      some (if endsLikeDrive path then path ++ ['/'] else path)

end SchemaMock.Url
