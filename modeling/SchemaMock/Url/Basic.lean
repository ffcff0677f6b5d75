/-
# URLs

A URL has a scheme, perhaps an authority (who is asked), a path, and perhaps a query and a fragment.
Six schemes are *known*: their URLs have slashes of either slant, a network host and a path that is
never empty.  A URL of another scheme may be *rootless*: its path is a plain text that nothing can
be joined to.
-/
import SchemaMock.Url.Path
import SchemaMock.Url.Host

namespace SchemaMock

/-! ## 1. The parts -/

namespace Url

/-- How a scheme is treated. -/
inductive SchemeKind where
  | file
  | network
  | other
  deriving DecidableEq, Repr

/-- Whether a scheme is one of the known ones. -/
def SchemeKind.isKnown : SchemeKind → Bool
  | .other => false
  | _ => true

/-- The kind of a scheme. -/
def SchemeKind.of (scheme : List Char) : SchemeKind :=
  if scheme = "file".toList then .file
  else if ["http", "https", "ws", "wss", "ftp"].any fun s => s.toList = scheme then .network
  else .other

/-- The port that a scheme uses when none is told. -/
def defaultPort? (scheme : List Char) : Option Nat :=
  if scheme = "http".toList ∨ scheme = "ws".toList then some 80
  else if scheme = "https".toList ∨ scheme = "wss".toList then some 443
  else if scheme = "ftp".toList then some 21
  else none

/-- Who is asked. -/
structure Authority where
  /-- The user and the password, as they stand in front of the `@`; empty if there are none. -/
  user : List Char
  host : List Char
  port : Option Nat
  deriving DecidableEq

/-- What is asked for. -/
inductive Location where
  /-- A text that nothing can be joined to. -/
  | rootless (text : List Char)
  | path (segments : Segments)
  deriving DecidableEq

/-- The text of a location. -/
def Location.render : Location → List Char
  | .rootless text => text
  | .path segments => segments.render

end Url

/-- A URL. -/
structure Url where
  scheme : List Char
  authority : Option Url.Authority
  location : Url.Location
  query : Option (List Char)
  fragment : Option (List Char)
  deriving DecidableEq

namespace Url

/-- The kind of the scheme. -/
def kind (url : Url) : SchemeKind := .of url.scheme

/-- The segments of the path; a rootless URL has none. -/
def segments (url : Url) : Segments :=
  match url.location with
  | .path segments => segments
  | .rootless _ => []

/-- Whether nothing can be joined to the path. -/
def isRootless (url : Url) : Bool :=
  match url.location with
  | .path _ => false
  | .rootless _ => true

/-! ## 2. The text -/

/-- A part that may be missing, behind its mark. -/
def marked (mark : Char) : Option (List Char) → List Char
  | none => []
  | some part => mark :: part

/-- The text of an authority. -/
def Authority.render (a : Authority) : List Char :=
  (if a.user.isEmpty then [] else a.user ++ ['@']) ++ a.host ++
    marked ':' (a.port.map fun n => (Nat.repr n).toList)

/-- What stands between the scheme and the path.  A path that begins with two slashes would be taken
for an authority, so a dot is put in front of it if there is none. -/
def renderFront (url : Url) : List Char :=
  match url.authority with
  | some a => '/' :: '/' :: a.render
  | none =>
    match url.location with
    | .path ([] :: _ :: _) => ['/', '.']
    | _ => []

/-- The text of a URL. -/
def render (url : Url) : List Char :=
  url.scheme ++ ':' :: renderFront url ++ url.location.render ++ marked '?' url.query
    ++ marked '#' url.fragment

end Url

end SchemaMock
