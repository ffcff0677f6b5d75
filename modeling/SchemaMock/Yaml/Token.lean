/-
# Tokens

A text is a row of tokens: marks, scalars, and the starts and ends of collections.  A collection
without brackets is told by columns: it begins where a line goes further to the right than the
collection around it, and ends where a line goes back to the left.

A key of such a mapping, or of a mapping in brackets, need not be marked.  That a scalar was a key
shows at the colon behind it only, so the place of every possible key is kept, one for each level
of brackets, until its colon comes or the line ends; a key has 1024 characters at most.  A key that
must come, because its line begins where the keys of the mapping around it do, is missed when it
does not.
-/
import SchemaMock.Yaml.Scalar

namespace SchemaMock.Yaml

/-! ## 1. Tokens -/

/-- A token. -/
inductive Token where
  /-- The version of the format. -/
  | version (major minor : Nat)
  /-- What the handle of tags stands for. -/
  | handle (name front : String)
  | documentStart
  | documentEnd
  | sequenceStart
  | mappingStart
  /-- The end of a collection without brackets. -/
  | blockEnd
  | listOpen
  | listClose
  | braceOpen
  | braceClose
  /-- The dash before an item. -/
  | item
  /-- The comma between entries in brackets. -/
  | comma
  | key
  | value
  | alias (name : String)
  | anchor (name : String)
  /-- A tag without handle is whole. -/
  | tag (handle suffix : String)
  | scalar (scalar : Scalar)
  deriving DecidableEq, Repr

/-! ## 2. Names and tags -/

/-- Whether a character can stand in the name of an anchor or of a handle. -/
def isNameChar (c : Char) : Bool := c.isAlphanum || c = '_' || c = '-'

/-- Whether a character can stand in a tag; a tag without a handle is `wide` and has some more. -/
def isTagChar (wide : Bool) (c : Char) : Bool :=
  isNameChar c || ";/?:@&=+$.%!~*'()".toList.contains c || (wide && ",[]".toList.contains c)

/-- The number of bytes of a character, by the first of them. -/
def width? (byte : Nat) : Option Nat :=
  if byte < 0x80 then some 1
  else if byte < 0xC0 then none
  else if byte < 0xE0 then some 2
  else if byte < 0xF0 then some 3
  else if byte < 0xF8 then some 4
  else none

/-- The bytes that the characters of a tag stand for, of which the first `trailing` belong to a
character that has begun.  Behind a percent sign are the two digits of a byte. -/
def tagBytes? : (trailing : Nat) → List Char → Option (List Char)
  | 0, [] => some []
  | _ + 1, [] => none
  | trailing, '%' :: a :: b :: rest => do
    let byte := (← Text.hexValue? a) * 16 + (← Text.hexValue? b)
    let trailing ←
      match trailing with
      | 0 => (width? byte).map (· - 1)
      | trailing + 1 => if 0x80 ≤ byte ∧ byte < 0xC0 then some trailing else none
    some (Char.ofNat byte :: (← tagBytes? trailing rest))
  | 0, c :: rest => if c = '%' then none else (tagBytes? 0 rest).map (c :: ·)
  | _ + 1, _ :: _ => none

/-- A part of a tag as its bytes, which end before the byte zero. -/
def tagText? (run : List Char) : Option String :=
  (tagBytes? 0 run).map fun bytes => String.ofList (bytes.takeWhile (· ≠ '\x00'))

/-- A handle with a name. -/
def closedHandle (name : List Char) : String := String.ofList ('!' :: name ++ ['!'])

/-! ## 3. Lines before a document -/

/-- The version of the format, and what is behind it. -/
def versionAt? (c : Cursor) : Option (Token × Cursor) := do
  let (major, behind) := c.takeWhile Char.isDigit
  let (minor, rest) := (behind.skip 1).takeWhile Char.isDigit
  let t := Token.version (← Text.numberIn? 10 major) (← Text.numberIn? 10 minor)
  if behind.startsWith '.' && major.length < 10 && minor.length < 10 then some (t, rest) else none

/-- A handle of tags with what it stands for, and what is behind. -/
def handleAt? (c : Cursor) : Option (Token × Cursor) := do
  let (name, behind) := (c.skip 1).takeWhile isNameChar
  let closed := behind.startsWith '!'
  let behind := if closed then behind.skip 1 else behind
  let (run, rest) := (behind.skipWhile isBlank).takeWhile (isTagChar true)
  if c.startsWith '!' && (closed || name.isEmpty) && behind.atBlank && !run.isEmpty &&
      endsWord rest.next then
    some (.handle (if closed then closedHandle name else "!") (← tagText? run), rest)
  else none

/-! ## 4. Layouts -/

/-- The start of a scalar or a collection that is a key if a colon follows. -/
structure PossibleKey where
  /-- The mapping around it cannot go on without. -/
  required : Bool
  /-- The number of tokens before it. -/
  position : Nat
  line : Nat
  column : Nat
  index : Nat

/-- The tokens of a text up to a place. -/
structure Layout where
  cursor : Cursor
  /-- The tokens, the last one first. -/
  tokens : List Token
  /-- The number of tokens. -/
  count : Nat
  /-- The columns of the open collections without brackets, the innermost first. -/
  columns : List Nat
  /-- For each open bracket, and for the text around all brackets: the place of a possible key; the
  innermost first. -/
  keys : List (Option PossibleKey)
  /-- A key may begin here. -/
  keyAllowed : Bool

namespace Layout

/-- The layout of nothing. -/
def start (text : List Char) : Layout := ⟨Cursor.start text, [], 0, [], [none], true⟩

/-- Whether the place is inside brackets. -/
def bracketed (l : Layout) : Bool := l.keys.length > 1

/-- One token more. -/
def push (l : Layout) (t : Token) : Layout :=
  { l with tokens := t :: l.tokens, count := l.count + 1 }

/-- One token more, put behind the first `position` tokens. -/
def insertAt (l : Layout) (position : Nat) (t : Token) : Layout :=
  let later := l.count - position
  { l with
    tokens := l.tokens.take later ++ t :: l.tokens.drop later
    count := l.count + 1 }

/-! ## 5. Collections without brackets -/

/-- A collection begins at a column behind the first `position` tokens, if it is further to the
right than the one around it. -/
def openAt (l : Layout) (column position : Nat) (t : Token) : Layout :=
  if l.bracketed then l
  else if l.columns.head?.all (· < column) then
    { l.insertAt position t with columns := column :: l.columns }
  else l

/-- Ends the first of some collections for as long as they are to the right of a column. -/
def closeColumns (column : Nat) (l : Layout) : List Nat → Layout
  | [] => { l with columns := [] }
  | c :: rest =>
    if column < c then closeColumns column (l.push .blockEnd) rest
    else { l with columns := c :: rest }

/-- The collections to the right of the place end. -/
def closeRight (l : Layout) : Layout :=
  if l.bracketed then l else closeColumns l.cursor.column l l.columns

/-- All collections without brackets end. -/
def closeAll (l : Layout) : Layout :=
  if l.bracketed then l
  else { l.columns.foldl (fun l _ => l.push .blockEnd) l with columns := [] }

/-! ## 6. Possible keys -/

/-- Whether a possible key is out of reach: on an earlier line or too far back. -/
def isStale (c : Cursor) (k : PossibleKey) : Bool :=
  k.line < c.line || k.index + 1024 < c.index

/-- The keys that may still come; nothing if one that must come no longer can. -/
def dropStale? (l : Layout) : Option Layout :=
  if l.keys.any fun k => k.any fun k => isStale l.cursor k && k.required then none
  else some { l with keys := l.keys.map fun k => k.filter fun k => !isStale l.cursor k }

/-- No key of the innermost level any more; nothing if it must come. -/
def dropKey? (l : Layout) : Option Layout :=
  match l.keys with
  | some k :: rest => if k.required then none else some { l with keys := none :: rest }
  | _ => some l

/-- The place as one of a possible key. -/
def saveKey? (l : Layout) : Option Layout :=
  if l.keyAllowed then do
    let l ← l.dropKey?
    let required := !l.bracketed && l.columns.head? == some l.cursor.column
    some { l with
      keys := some ⟨required, l.count, l.cursor.line, l.cursor.column, l.cursor.index⟩
        :: l.keys.drop 1 }
  else some l

/-! ## 7. One token -/

/-- A token of `length` characters. -/
def mark (l : Layout) (t : Token) (length : Nat) (keyAllowed : Bool) : Layout :=
  { l.push t with cursor := l.cursor.skip length, keyAllowed := keyAllowed }

/-- The start or the end of a document. -/
def documentMark? (l : Layout) (t : Token) : Option Layout := do
  let l ← l.closeAll.dropKey?
  some (l.mark t 3 false)

/-- A line behind a percent sign. -/
def directive? (l : Layout) : Option Layout := do
  let l ← l.closeAll.dropKey?
  let (name, behind) := (l.cursor.skip 1).takeWhile isNameChar
  let value := behind.skipWhile isBlank
  let (t, rest) ←
    if !endsWord behind.next then none
    else if name = "YAML".toList then versionAt? value
    else if name = "TAG".toList then handleAt? value
    else none
  let rest := rest.skipWhile isBlank
  let rest := if rest.startsWith '#' then rest.skipToBreak else rest
  if endsWord rest.next then
    some { l.push t with cursor := rest.takeBreak.2, keyAllowed := false }
  else none

/-- An opening bracket. -/
def openBracket? (l : Layout) (t : Token) : Option Layout := do
  let l ← l.saveKey?
  some { l.mark t 1 true with keys := none :: l.keys }

/-- A closing bracket. -/
def closeBracket? (l : Layout) (t : Token) : Option Layout := do
  let l ← l.dropKey?
  let l := if l.bracketed then { l with keys := l.keys.drop 1 } else l
  some (l.mark t 1 false)

/-- A comma. -/
def comma? (l : Layout) : Option Layout := do
  let l ← l.dropKey?
  some (l.mark .comma 1 true)

/-- The mark of an item or of a key, which begins a collection where there is none. -/
def entryMark? (l : Layout) (t start : Token) (keyAllowed : Bool) : Option Layout :=
  if !l.bracketed && !l.keyAllowed then none
  else do
    let l ← (l.openAt l.cursor.column l.count start).dropKey?
    some (l.mark t 1 keyAllowed)

/-- A colon.  It makes a key of the possible key before it. -/
def value? (l : Layout) : Option Layout :=
  match l.keys with
  | some k :: rest =>
    let l := (l.insertAt k.position .key).openAt k.column k.position .mappingStart
    some ({ l with keys := none :: rest }.mark .value 1 false)
  | _ =>
    if l.bracketed then some (l.mark .value 1 false)
    else if !l.keyAllowed then none
    else some ((l.openAt l.cursor.column l.count .mappingStart).mark .value 1 true)

/-- Whether a character may follow the name of an anchor. -/
def endsName (c : Option Char) : Bool :=
  endsWord c || c.any fun c => "?:,]\x7D%@\x60".toList.contains c

/-- The name of an anchor or of an alias, behind its mark. -/
def name? (l : Layout) (t : String → Token) : Option Layout := do
  let l ← l.saveKey?
  let (name, behind) := (l.cursor.skip 1).takeWhile isNameChar
  if name.isEmpty || !endsName behind.next then none
  else some (l.mark (t (String.ofList name)) (name.length + 1) false)

/-- A tag: behind `!` or behind a handle, or whole between angle brackets.  The mark alone is whole
as well. -/
def tag? (l : Layout) : Option Layout := do
  let l ← l.saveKey?
  let (handle, suffix, length) ←
    match l.cursor.rest.drop 1 with
    | '<' :: rest =>
      let run := rest.takeWhile (isTagChar true)
      if run.isEmpty || rest[run.length]? != some '>' then none
      else (tagText? run).map fun suffix => ("", suffix, run.length + 3)
    | rest =>
      let name := rest.takeWhile isNameChar
      if rest[name.length]? = some '!' then
        let run := (rest.drop (name.length + 1)).takeWhile (isTagChar false)
        let length := name.length + run.length + 2
        if run.isEmpty then none
        else (tagText? run).map fun suffix => (closedHandle name, suffix, length)
      else
        let run := rest.takeWhile (isTagChar false)
        (tagText? run).map fun suffix =>
          if suffix.isEmpty then ("", "!", run.length + 1) else ("!", suffix, run.length + 1)
  let behind := l.cursor.ahead length
  if endsWord behind || (l.bracketed && behind == some ',') then
    some (l.mark (.tag handle suffix) length false)
  else none

/-- A block. -/
def block? (l : Layout) (folds : Bool) : Option Layout := do
  let l ← l.dropKey?
  let (scalar, c) ← Yaml.block? folds l.columns.head? l.cursor
  some { l.push (.scalar scalar) with cursor := c, keyAllowed := true }

/-- A quoted scalar. -/
def quoted? (l : Layout) (quote : Char) : Option Layout := do
  let l ← l.saveKey?
  let (scalar, c) ← Yaml.quoted? quote l.cursor
  some { l.push (.scalar scalar) with cursor := c, keyAllowed := false }

/-- A plain scalar.  When it ends on a later line, a key may follow. -/
def plain? (l : Layout) : Option Layout := do
  let l ← l.saveKey?
  let indent := match l.columns.head? with
    | some column => column + 1
    | none => 0
  let (scalar, newLine, c) ← Yaml.plain? l.bracketed indent l.cursor
  some { l.push (.scalar scalar) with cursor := c, keyAllowed := newLine }

/-- Whether a plain scalar can begin with a character before another one. -/
def beginsPlain (bracketed : Bool) (c : Char) (next : Option Char) : Bool :=
  if c = '-' then !next.any isBlank
  else if c = '?' || c = ':' then !bracketed && !endsWord next
  else !isBlank c && !isBreak c && !",[]\x7B\x7D#&*!|>'\"%@\x60".toList.contains c

/-- The next token, from its first character. -/
def token? (l : Layout) (c : Char) : Option Layout :=
  let next := l.cursor.ahead 1
  if l.cursor.column = 0 && c = '%' then l.directive?
  else if l.cursor.atDocumentMark '-' then l.documentMark? .documentStart
  else if l.cursor.atDocumentMark '.' then l.documentMark? .documentEnd
  else if c = '[' then l.openBracket? .listOpen
  else if c = '\x7B' then l.openBracket? .braceOpen
  else if c = ']' then l.closeBracket? .listClose
  else if c = '\x7D' then l.closeBracket? .braceClose
  else if c = ',' then l.comma?
  else if c = '-' && endsWord next then l.entryMark? .item .sequenceStart true
  else if c = '?' && (l.bracketed || endsWord next) then
    l.entryMark? .key .mappingStart (!l.bracketed)
  else if c = ':' && (l.bracketed || endsWord next) then l.value?
  else if c = '*' then l.name? .alias
  else if c = '&' then l.name? .anchor
  else if c = '!' then l.tag?
  else if c = '|' && !l.bracketed then l.block? false
  else if c = '>' && !l.bracketed then l.block? true
  else if c = '\'' || c = '"' then l.quoted? c
  else if beginsPlain l.bracketed c next then l.plain?
  else none

/-! ## 8. All tokens -/

/-- The place of the next token.  Where a key may begin, a tab is no blank; a new line outside
brackets is such a place. -/
def skipBlanks : (fuel : Nat) → Layout → Layout
  | 0, l => l
  | fuel + 1, l =>
    let tabs := l.bracketed || !l.keyAllowed
    let c := l.cursor.skipWhile fun ch => ch = ' ' || (tabs && ch = '\t')
    let c := if c.startsWith '#' then c.skipToBreak else c
    if c.atBreak then
      skipBlanks fuel
        { l with cursor := c.takeBreak.2, keyAllowed := l.keyAllowed || !l.bracketed }
    else { l with cursor := c }

/-- The tokens up to the end of the text. -/
def finish? : (fuel : Nat) → Layout → Option (List Token)
  | 0, _ => none
  | fuel + 1, l =>
    match (skipBlanks (l.cursor.rest.length + 1) l).dropStale? with
    | none => none
    | some l =>
      let l := l.closeRight
      match l.cursor.next with
      | none => l.dropKey?.map fun l => l.closeAll.tokens.reverse
      | some c =>
        match l.token? c with
        | some l => finish? fuel l
        | none => none

end Layout

/-- The tokens of a text.  Every token but the last takes a character of it. -/
def tokens? (text : String) : Option (List Token) :=
  let cs := text.toList
  if cs.all isAllowed then Layout.finish? (cs.length + 2) (Layout.start cs) else none

end SchemaMock.Yaml
