/-
# The texts of scalars

A scalar is written in one of five ways: plain, between single or double quotes, or as a block
behind `|` or `>`.  Plain and quoted scalars may run over several lines, which are folded: a single
break becomes a blank, and of several breaks the first is dropped.  A block keeps its breaks behind
`|`, and folds those between lines that begin with no blank behind `>`; how many breaks stay at its
end is said in its first line.

Every reader stands at the start of a scalar and gives its text and the place behind it, or nothing
if the scalar is not well formed.  A reader moves on by a character at least in every turn, so the
length of the rest is fuel enough.
-/
import SchemaMock.Text.Digits
import SchemaMock.Yaml.Cursor

namespace SchemaMock.Yaml

/-- How a scalar is written. -/
inductive ScalarStyle where
  | plain
  | quoted
  | literal
  | folded
  deriving DecidableEq, Repr

/-- The text of a scalar, and how it is written. -/
structure Scalar where
  text : String
  style : ScalarStyle
  deriving DecidableEq, Repr

/-! ## 1. Plain scalars -/

/-- The characters that have a meaning in collections between brackets. -/
def isBracketMark (c : Char) : Bool :=
  c = ',' || c = '[' || c = ']' || c = '\x7B' || c = '\x7D'

/-- The word of a plain scalar at the front of a text.  A colon ends it before a blank; between
brackets their marks end it, and a colon may not stand before one of them or a question mark. -/
def plainWord? (bracketed : Bool) : List Char → Option (List Char)
  | [] => some []
  | c :: rest =>
    if isBlank c || isBreak c then some []
    else if c = ':' && bracketed && rest.head?.any (fun d => isBracketMark d || d = '?') then none
    else if c = ':' && endsWord rest.head? then some []
    else if bracketed && isBracketMark c then some []
    else (plainWord? bracketed rest).map (c :: ·)

/-- A plain scalar as far as it has been read. -/
structure PlainText where
  /-- The words and gaps of the text, the last one first. -/
  pieces : List (List Char)
  /-- The gap behind the last word. -/
  gap : Gap

/-- The rest of a plain scalar whose lines begin at `indent` at least. -/
def plainRest? (bracketed : Bool) (indent : Nat) :
    (fuel : Nat) → PlainText → Cursor → Option (PlainText × Cursor)
  | 0, text, c => some (text, c)
  | fuel + 1, text, c =>
    if c.atDocumentEdge || c.startsWith '#' then some (text, c)
    else
      match plainWord? bracketed c.rest with
      | none => none
      | some word =>
        let text : PlainText :=
          if word.isEmpty then text else ⟨word :: text.gap.folded :: text.pieces, Gap.none⟩
        let behind := c.skip word.length
        if behind.atBlank || behind.atBreak then
          let (gap, c) := behind.gap indent
          if gap.strayTab then none
          else if !bracketed && c.column < indent then some (⟨text.pieces, gap⟩, c)
          else plainRest? bracketed indent fuel ⟨text.pieces, gap⟩ c
        else some (text, behind)

/-- A plain scalar, and whether the place behind it is on a later line. -/
def plain? (bracketed : Bool) (indent : Nat) (c : Cursor) : Option (Scalar × Bool × Cursor) :=
  (plainRest? bracketed indent (c.rest.length + 1) ⟨[], Gap.none⟩ c).map fun (text, c) =>
    (⟨String.ofList text.pieces.reverse.flatten, .plain⟩, !text.gap.breaks.isEmpty, c)

/-! ## 2. Quoted scalars -/

/-- The character with a number that is written in `width` digits of base sixteen. -/
def hexChar? (width : Nat) (cs : List Char) : Option Char :=
  if cs.length < width then none else Text.charOfHex? (cs.take width)

/-- The character that an escape stands for, and the number of characters of the escape behind its
backslash. -/
def escape? : List Char → Option (Char × Nat)
  | [] => none
  | c :: rest =>
    match c with
    | '0' => some ('\x00', 1)
    | 'a' => some ('\x07', 1)
    | 'b' => some ('\x08', 1)
    | 't' => some ('\t', 1)
    | '\t' => some ('\t', 1)
    | 'n' => some ('\n', 1)
    | 'v' => some ('\x0B', 1)
    | 'f' => some ('\x0C', 1)
    | 'r' => some ('\r', 1)
    | 'e' => some ('\x1B', 1)
    | ' ' => some (' ', 1)
    | '"' => some ('"', 1)
    | '/' => some ('/', 1)
    | '\\' => some ('\\', 1)
    | 'N' => some ('\u0085', 1)
    | '_' => some ('\u00A0', 1)
    | 'L' => some ('\u2028', 1)
    | 'P' => some ('\u2029', 1)
    | 'x' => (hexChar? 2 rest).map (·, 3)
    | 'u' => (hexChar? 4 rest).map (·, 5)
    | 'U' => (hexChar? 8 rest).map (·, 9)
    | _ => none

/-- The rest of a scalar between quotes, behind the pieces that have been read, the last one first.
-/
def quotedRest? (quote : Char) :
    (fuel : Nat) → List (List Char) → Cursor → Option (List Char × Cursor)
  | 0, _, _ => none
  | fuel + 1, pieces, c =>
    if c.atDocumentEdge then none
    else
      match c.rest with
      | [] => none
      | ch :: rest =>
        if isBlank ch || isBreak ch then
          let (gap, c) := c.gap 0
          quotedRest? quote fuel (gap.folded :: pieces) c
        else if ch = quote then
          if quote = '\'' && rest.head? = some '\'' then
            quotedRest? quote fuel (['\''] :: pieces) (c.skip 2)
          else some (pieces.reverse.flatten, c.skip 1)
        else if ch = '\\' && quote = '"' then
          if rest.head?.any isBreak then
            let (gap, c) := (c.skip 1).takeBreak.2.gap 0
            quotedRest? quote fuel (gap.breaks.flatten :: pieces) c
          else
            match escape? rest with
            | some (d, length) => quotedRest? quote fuel ([d] :: pieces) (c.skip (length + 1))
            | none => none
        else quotedRest? quote fuel ([ch] :: pieces) (c.skip 1)

/-- A scalar between quotes. -/
def quoted? (quote : Char) (c : Cursor) : Option (Scalar × Cursor) :=
  (quotedRest? quote (c.rest.length + 1) [] (c.skip 1)).map fun (text, c) =>
    (⟨String.ofList text, .quoted⟩, c)

/-! ## 3. Blocks -/

/-- What the first line of a block says: the number of columns that its lines begin at, counted from
the collection around it, and which breaks stay at its end. -/
structure BlockHeader where
  indent : Option Nat
  /-- `-` keeps none, `+` keeps all, and without a mark the break of the last line stays. -/
  ending : Option Char

/-- The mark for the breaks at the end. -/
def endingMark? (c : Cursor) : Option Char × Cursor :=
  match c.next with
  | some '+' => (some '+', c.skip 1)
  | some '-' => (some '-', c.skip 1)
  | _ => (none, c)

/-- The digit for the indentation; zero is none. -/
def indentMark? (c : Cursor) : Option (Option Nat × Cursor) :=
  match c.next with
  | some '0' => none
  | some d => if d.isDigit then some (some (d.toNat - 48), c.skip 1) else some (none, c)
  | none => some (none, c)

/-- The first line of a block behind its indicator. -/
def blockHeader? (c : Cursor) : Option (BlockHeader × Cursor) :=
  let finish := fun (header : BlockHeader) (c : Cursor) =>
    let c := c.skipWhile isBlank
    let c := if c.startsWith '#' then c.skipToBreak else c
    if c.atBreak then some (header, c.takeBreak.2)
    else if c.atEnd then some (header, c)
    else none
  match endingMark? c with
  | (some mark, c) =>
    match indentMark? c with
    | some (indent, c) => finish ⟨indent, some mark⟩ c
    | none => none
  | (none, c) =>
    match indentMark? c with
    | some (none, c) => finish ⟨none, none⟩ c
    | some (some indent, c) => finish ⟨some indent, (endingMark? c).1⟩ (endingMark? c).2
    | none => none

/-- The breaks in front of the next line of a block, the widest indentation on the way and the place
where the line begins.  Without an indentation the line begins at its first character that is no
space. -/
def blockBreaks? (indent : Option Nat) :
    (fuel : Nat) → (breaks : List (List Char)) → (widest : Nat) → Cursor →
      Option (List (List Char) × Nat × Cursor)
  | 0, _, _, _ => none
  | fuel + 1, breaks, widest, c =>
    let spaces := (c.takeWhile (· = ' ')).1.length
    let wanted := match indent with
      | some indent => min spaces (indent - c.column)
      | none => spaces
    let c := c.skip wanted
    let widest := max widest c.column
    let short := match indent with
      | some indent => c.column < indent
      | none => true
    if short && c.startsWith '\t' then none
    else if c.atBreak then
      let (text, c) := c.takeBreak
      blockBreaks? indent fuel (breaks ++ [text]) widest c
    else some (breaks, widest, c)

/-- A block as far as it has been read. -/
structure BlockText where
  /-- The pieces of the text, the last one first. -/
  pieces : List (List Char)
  /-- The break of the last line. -/
  leading : List Char
  /-- The breaks of the blank lines behind it. -/
  trailing : List (List Char)
  /-- Whether the last line begins with a blank. -/
  blankStart : Bool

/-- The text with one line more. -/
def BlockText.push (b : BlockText) (folds : Bool) (line leading : List Char) : BlockText :=
  let blankStart := line.head?.any isBlank
  let joined :=
    if folds && b.leading == ['\n'] && !b.blankStart && !blankStart then
      if b.trailing.isEmpty then [' '] else []
    else b.leading
  ⟨line :: b.trailing.flatten :: joined :: b.pieces, leading, [], blankStart⟩

/-- The lines of a block that begin at `indent`. -/
def blockLines? (folds : Bool) (indent : Nat) :
    (fuel : Nat) → BlockText → Cursor → Option (BlockText × Cursor)
  | 0, _, _ => none
  | fuel + 1, b, c =>
    if c.column = indent && !c.atEnd then
      let (line, c) := c.takeWhile fun _ => true
      let (leading, c) := c.takeBreak
      match blockBreaks? (some indent) (c.rest.length + 1) [] 0 c with
      | some (trailing, _, c) =>
        blockLines? folds indent fuel { b.push folds line leading with trailing := trailing } c
      | none => none
    else some (b, c)

/-- A block.  `around` is the column of the collection around it, if there is one; the lines of the
block begin behind it. -/
def block? (folds : Bool) (around : Option Nat) (c : Cursor) : Option (Scalar × Cursor) := do
  let (header, c) ← blockHeader? (c.skip 1)
  let indent := header.indent.map fun n => around.getD 0 + n
  let (trailing, widest, c) ← blockBreaks? indent (c.rest.length + 1) [] 0 c
  let least := match around with
    | some column => column + 1
    | none => 1
  let indent := indent.getD (max widest (max least 1))
  let (b, c) ← blockLines? folds indent (c.rest.length + 1) ⟨[], [], trailing, false⟩ c
  let ending :=
    match header.ending with
    | some '-' => []
    | some _ => b.leading ++ b.trailing.flatten
    | none => b.leading
  some (⟨String.ofList (b.pieces.reverse.flatten ++ ending),
    if folds then .folded else .literal⟩, c)

end SchemaMock.Yaml
