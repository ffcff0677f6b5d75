/-
# Paths of URLs

A path is a list of segments, and its text puts a slash in front of each.  Going along a relative
path from a directory is a walk over its segments: a segment of one dot stays, one of two dots goes
up, and any other goes down.  Whoever goes up from the root stays there, so no path leads out of it.

Letters of drives are looked after: a segment such as `C:` or `C|` is never gone up from, and as the
first segment of a file it is written with a colon.
-/
import SchemaMock.Url.Percent

namespace SchemaMock.Url

/-- The segments of a path. -/
abbrev Segments := List (List Char)

namespace Segments

/-! ## 1. Segments with a meaning -/

/-- Dots, plain or encoded, at the front of a segment taken off; `none` if there is something
else. -/
def dots? : List Char → Option Nat
  | [] => some 0
  | '.' :: rest => (dots? rest).map (· + 1)
  | '%' :: '2' :: 'e' :: rest => (dots? rest).map (· + 1)
  | '%' :: '2' :: 'E' :: rest => (dots? rest).map (· + 1)
  | _ => none

/-- Whether a segment is the letter of a drive. -/
def isDrive : List Char → Bool
  | [a, b] => a.isAlpha && (b == ':' || b == '|')
  | _ => false

/-- Whether a segment is the letter of a drive as it is written in the end. -/
def isPlainDrive : List Char → Bool
  | [a, b] => a.isAlpha && b == ':'
  | _ => false

/-- The letter of a drive as it is written in the end. -/
def plainDrive (segment : List Char) : List Char := segment.take 1 ++ [':']

/-! ## 2. Walking -/

/-- The directory above; `directories` are the names on the way down, the last one first. -/
def goUp : (directories : Segments) → Segments
  | [] => []
  | d :: rest => if isDrive d then d :: rest else rest

/-- A segment as it is written where the directories on the way are `directories`. -/
def written (isFile : Bool) (directories : Segments) (segment : List Char) : List Char :=
  if isFile ∧ directories = [] ∧ isDrive segment then plainDrive segment else segment

/-- The path that a relative path leads to from a directory.  The last segment names what is in the
directory reached; it is empty if the relative path ends in dots. -/
def walk (isFile : Bool) (directories : Segments) : Segments → Segments
  | [] => directories.reverse ++ [[]]
  | [last] =>
    match dots? last with
    | some 1 => directories.reverse ++ [[]]
    | some 2 => (goUp directories).reverse ++ [[]]
    | _ => directories.reverse ++ [written isFile directories last]
  | segment :: rest =>
    match dots? segment with
    | some 1 => walk isFile directories rest
    | some 2 => walk isFile (goUp directories) rest
    | _ => walk isFile (written isFile directories segment :: directories) rest

/-- The path of a file does not begin with empty segments. -/
def trimFront (segments : Segments) : Segments :=
  match segments.dropWhile List.isEmpty with
  | [] => [[]]
  | segments => segments

/-- The text of a path. -/
def render (segments : Segments) : List Char := segments.flatMap ('/' :: ·)

end Segments

end SchemaMock.Url
