/-
# Reading URLs

A text is read as a URL on its own or against a base.  Blanks and controls around it do not count,
nor do tabs and line ends inside it.  What comes behind the first `#` is the fragment and what comes
behind the first `?` before that is the query, so the rest of the reading is about one piece of text
between the scheme and those.

A text without a scheme takes from the base whatever it does not say itself, from the front: the
authority, then the directory, then the path, then the query.  Files have rules of their own, for
the letters of drives.
-/
import SchemaMock.Url.Basic

namespace SchemaMock.Url

/-! ## 1. Pieces of the text -/

/-- The text that counts: without the blanks and controls around it and without any tab or line
end. -/
def cleanText (cs : List Char) : List Char :=
  let isOuter (c : Char) : Bool := c.toNat ≤ 32
  let trimmed := ((cs.dropWhile isOuter).reverse.dropWhile isOuter).reverse
  trimmed.filter fun c => c ≠ '\t' ∧ c ≠ '\n' ∧ c ≠ '\r'

/-- The characters of a scheme behind the first. -/
def isSchemeChar (c : Char) : Bool := c.isAlphanum || c == '+' || c == '-' || c == '.'

/-- The scheme in front of a text, in small letters, and the text behind its colon. -/
def splitScheme? (cs : List Char) : Option (List Char × List Char) :=
  match cs.head?, cs.dropWhile isSchemeChar with
  | some c, ':' :: rest =>
    if c.isAlpha then some ((cs.takeWhile isSchemeChar).map Char.toLower, rest) else none
  | _, _ => none

/-- What is said between the scheme and the end. -/
structure Body where
  main : List Char
  query : Option (List Char)
  fragment : Option (List Char)

/-- The body of a URL, taken apart. -/
def Body.ofText (cs : List Char) : Body :=
  let (front, fragment) := Text.splitFirst '#' cs
  let (main, query) := Text.splitFirst '?' front
  ⟨main, query, fragment⟩

/-- The query of a body as it is written in the end. -/
def Body.encodedQuery (body : Body) (kind : SchemeKind) : Option (List Char) :=
  body.query.map (encode (inQuerySet kind.isKnown))

/-- The fragment of a body as it is written in the end. -/
def Body.encodedFragment (body : Body) : Option (List Char) :=
  body.fragment.map (encode inFragmentSet)

/-- Whether a character is a slash of either slant. -/
def isSlash (c : Char) : Bool := c == '/' || c == '\\'

/-- The segments of a text: slashes cut it, of either slant where the scheme is known. -/
def segmentsOf (kind : SchemeKind) (cs : List Char) : Segments :=
  let slanted := if kind.isKnown then cs.map fun c => if c = '\\' then '/' else c else cs
  (Text.cut '/' slanted).map (encode inPathSet)

/-- The path that a text leads to from a directory. -/
def pathFrom (kind : SchemeKind) (directories : Segments) (cs : List Char) : Segments :=
  let path := Segments.walk (kind == .file) directories (segmentsOf kind cs)
  if kind = .file then Segments.trimFront path else path

/-- The path of a text that begins at the root, with or without a slash. -/
def pathFromRoot (kind : SchemeKind) (cs : List Char) : Segments :=
  match cs with
  | c :: rest =>
    if c = '/' ∨ (c = '\\' ∧ kind.isKnown) then pathFrom kind [] rest else pathFrom kind [] cs
  | [] => pathFrom kind [] []

/-! ## 2. Authorities -/

/-- The user and the password in front of the last `@`, as they are written in the end. -/
def userOf (cs : List Char) : List Char :=
  let (name, password) := Text.splitFirst ':' cs
  let password := password.bind fun p => if p.isEmpty then none else some p
  encode inUserSet name ++ marked ':' (password.map (encode inUserSet))

/-- A text before its last `@`, if it has one, and the text behind it. -/
def splitUser (cs : List Char) : Option (List Char) × List Char :=
  let back := cs.reverse.takeWhile (· ≠ '@')
  if back.length = cs.length then (none, cs)
  else (some (cs.take (cs.length - back.length - 1)), back.reverse)

/-- A host and what comes behind the colon after it.  A colon in brackets belongs to the host. -/
def splitPort (inBrackets : Bool) (done : List Char) :
    List Char → List Char × Option (List Char)
  | [] => (done.reverse, none)
  | c :: rest =>
    if c = ':' ∧ ¬ inBrackets then (done.reverse, some rest)
    else
      splitPort (if c = '[' then true else if c = ']' then false else inBrackets) (c :: done) rest

/-- The port that a text tells.  The outer `none` says that it tells none that there is; the default
port of a scheme is not kept. -/
def port? (scheme : List Char) : Option (List Char) → Option (Option Nat)
  | none => some none
  | some digits =>
    if ¬ digits.all Char.isDigit then none
    else if digits.isEmpty then some none
    else
      let n := digits.foldl (fun n c => n * 10 + (c.toNat - 48)) 0
      if 65535 < n then none
      else if defaultPort? scheme = some n then some none
      else some (some n)

/-- The authority that a text tells. -/
def authority? (scheme : List Char) (cs : List Char) : Option Authority := do
  let kind := SchemeKind.of scheme
  let (user, rest) := splitUser cs
  if user.isSome ∧ rest.isEmpty then none
  else
    let (host, port) := splitPort false [] rest
    if host.isEmpty then
      if kind.isKnown ∨ port.isSome ∨ user.any (userOf · ≠ []) then none
      else some ⟨[], [], none⟩
    else
      let host ← if kind.isKnown then Host.known? host else Host.other? host
      some ⟨(user.map userOf).getD [], host, ← port? scheme port⟩

/-- The text of an authority, up to the first slash, and the path behind it. -/
def splitAuthority (kind : SchemeKind) (cs : List Char) : List Char × List Char :=
  let ends (c : Char) : Bool := c == '/' || (c == '\\' && kind.isKnown)
  (cs.takeWhile fun c => !ends c, cs.dropWhile fun c => !ends c)

/-- A URL from what stands behind the two slashes. -/
def withAuthority? (scheme : List Char) (body : Body) (cs : List Char) : Option Url := do
  let kind := SchemeKind.of scheme
  let (front, path) := splitAuthority kind cs
  let authority ← authority? scheme front
  let segments := if path.isEmpty ∧ ¬ kind.isKnown then [] else pathFromRoot kind path
  some ⟨scheme, some authority, .path segments, body.encodedQuery kind, body.encodedFragment⟩

/-! ## 3. Files -/

/-- The name of the scheme of files. -/
def fileScheme : List Char := "file".toList

/-- A file on a host, or on none. -/
def file (host : List Char) (segments : Segments) (body : Body) : Url :=
  ⟨fileScheme, some ⟨[], host, none⟩, .path segments, body.encodedQuery .file,
    body.encodedFragment⟩

/-- The host of a URL; empty if there is none. -/
def hostText (url : Url) : List Char := (url.authority.map Authority.host).getD []

/-- Whether the letter of a drive, written in the end, is what a path begins with. -/
def beginsWithDrive (segments : Segments) : Bool :=
  match segments with
  | first :: _ => Segments.isPlainDrive first
  | [] => false

/-- Whether the first segment of a text is the letter of a drive. -/
def startsWithDrive (cs : List Char) : Bool := Segments.isDrive (cs.takeWhile fun c => !isSlash c)

/-- A file from what stands behind the two slashes: a host and a path, or the letter of a drive and
a path.  The host `localhost` is none, and neither is one that stands before the letter of a drive.
-/
def fileOnHost? (body : Body) (cs : List Char) : Option Url := do
  let front := cs.takeWhile fun c => !isSlash c
  if Segments.isDrive front then some (file [] (pathFrom .file [] cs) body)
  else
    let host ← if front.isEmpty then some [] else Host.known? front
    let host := if host = "localhost".toList then [] else host
    let path := (cs.dropWhile fun c => !isSlash c).drop 1
    let segments := pathFrom .file [] path
    let onDrive := beginsWithDrive (Segments.walk true [] (segmentsOf .file path))
    some (file (if onDrive then [] else host) segments body)

/-- The directories of the base of a relative path, the last one first.  The letter of a drive is
not left. -/
def directoriesOf (kind : SchemeKind) (segments : Segments) : Segments :=
  match segments.reverse with
  | [] => []
  | last :: rest => if kind = .file ∧ Segments.isPlainDrive last then last :: rest else rest

/-- A file from what stands behind the scheme, against a base that is a file. -/
def file? (base : Option Url) (body : Body) : Option Url :=
  match body.main with
  | [] =>
    match base with
    | none => some (file [] [[]] body)
    | some base =>
      some { base with
        query := (body.encodedQuery .file).or base.query
        fragment := body.encodedFragment }
  | c :: rest =>
    if isSlash c then
      match rest with
      | d :: rest' => if isSlash d then fileOnHost? body rest' else some (fromRoot rest)
      | [] => some (fromRoot rest)
    else
      match base with
      | none => some (file [] (pathFrom .file [] body.main) body)
      | some base =>
        if startsWithDrive body.main then some (file [] (pathFrom .file [] body.main) body)
        else
          let directories := directoriesOf .file base.segments
          some { base with
            location := .path (pathFrom .file directories body.main)
            query := body.encodedQuery .file
            fragment := body.encodedFragment }
where
  /-- A file from the root of the base: of its drive, if its path begins with one, and otherwise of
  its host. -/
  fromRoot (rest : List Char) : Url :=
    match base with
    | none => file [] (pathFrom .file [] rest) body
    | some base =>
      if startsWithDrive rest then file [] (pathFrom .file [] rest) body
      else if beginsWithDrive base.segments then
        file [] (pathFrom .file (base.segments.take 1) rest) body
      else file (hostText base) (pathFrom .file [] rest) body

/-! ## 4. Everything else -/

/-- The base with another fragment. -/
def withFragment (base : Url) (body : Body) : Url :=
  { base with fragment := body.encodedFragment }

/-- A URL from a text without scheme, against a base that is no file. -/
def relative? (base : Url) (body : Body) : Option Url :=
  let kind := base.kind
  match body.main with
  | [] =>
    if body.query.isSome then
      some { base with query := body.encodedQuery kind, fragment := body.encodedFragment }
    else some (withFragment base body)
  | c :: rest =>
    if isSlash c then
      match c, rest with
      | '/', '/' :: rest => withAuthority? base.scheme body rest
      | _, d :: _ =>
        if isSlash d then withAuthority? base.scheme body (rest.dropWhile isSlash)
        else some (atPath (pathFrom kind [] rest))
      | _, [] => some (atPath (pathFrom kind [] rest))
    else some (atPath (pathFrom kind (directoriesOf kind base.segments) body.main))
where
  /-- The base with another path, query and fragment. -/
  atPath (segments : Segments) : Url :=
    { base with
      location := .path segments
      query := body.encodedQuery base.kind
      fragment := body.encodedFragment }

/-- A URL from a text behind the scheme of a network. -/
def network? (base : Option Url) (scheme : List Char) (body : Body) : Option Url :=
  let slashes := (body.main.takeWhile isSlash).length
  match base with
  | some base =>
    if slashes < 2 ∧ base.scheme = scheme then relative? base body
    else withAuthority? scheme body (body.main.dropWhile isSlash)
  | none => withAuthority? scheme body (body.main.dropWhile isSlash)

/-- A URL from a text behind a scheme that is not known. -/
def other? (scheme : List Char) (body : Body) : Option Url :=
  match body.main with
  | '/' :: '/' :: rest => withAuthority? scheme body rest
  | '/' :: rest => some (withoutAuthority (.path (pathFrom .other [] rest)))
  | text => some (withoutAuthority (.rootless (encode isControl text)))
where
  /-- A URL without an authority. -/
  withoutAuthority (location : Location) : Url :=
    ⟨scheme, none, location, body.encodedQuery .other, body.encodedFragment⟩

/-- The URL that a text tells, on its own or against a base. -/
def read? (base : Option Url) (text : List Char) : Option Url :=
  let cs := cleanText text
  match splitScheme? cs with
  | some (scheme, rest) =>
    let body := Body.ofText rest
    match SchemeKind.of scheme with
    | .file => file? (base.bind fun b => if b.kind = .file then some b else none) body
    | .network => network? base scheme body
    | .other => other? scheme body
  | none =>
    let body := Body.ofText cs
    match base with
    | none => none
    | some base =>
      if cs.head? = some '#' then some (withFragment base body)
      else if base.isRootless then none
      else if base.kind = .file then file? (some base) body
      else relative? base body

end SchemaMock.Url
