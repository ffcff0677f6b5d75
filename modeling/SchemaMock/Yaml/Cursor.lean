/-
# A place in a text with lines

YAML is about lines and columns: what a character means depends on how far it stands from the start
of its line.  A cursor is the rest of a text together with the line and the column that it begins
at.

Five characters end a line, and a carriage return with a line feed behind it counts as one.  The
two separators of lines and paragraphs stay what they are in the text of a scalar; the other breaks
become line feeds.
-/

namespace SchemaMock.Yaml

/-! ## 1. Characters -/

/-- A blank inside a line. -/
def isBlank (c : Char) : Bool := c = ' ' || c = '\t'

/-- A character that ends a line. -/
def isBreak (c : Char) : Bool :=
  c = '\n' || c = '\r' || c.toNat = 0x85 || c.toNat = 0x2028 || c.toNat = 0x2029

/-- Whether a character, or the end of the text, ends a word. -/
def endsWord : Option Char → Bool
  | none => true
  | some c => isBlank c || isBreak c

/-- Whether a character can stand in a text: control characters cannot, except for the tab and the
breaks. -/
def isAllowed (c : Char) : Bool :=
  let n := c.toNat
  n = 9 || n = 10 || n = 13 || n = 0x85 || (0x20 ≤ n && n ≤ 0x7E) || (0xA0 ≤ n && n ≤ 0xFFFD)
    || 0x10000 ≤ n

/-- What a break is in the text of a scalar. -/
def breakChar (c : Char) : Char := if c.toNat = 0x2028 ∨ c.toNat = 0x2029 then c else '\n'

/-! ## 2. Cursors -/

/-- The rest of a text, and where it begins. -/
structure Cursor where
  rest : List Char
  line : Nat
  column : Nat
  /-- The number of characters before it. -/
  index : Nat

namespace Cursor

/-- The start of a text.  A byte order mark in front is passed over and takes a column. -/
def start : List Char → Cursor
  | '\uFEFF' :: rest => ⟨rest, 0, 1, 1⟩
  | cs => ⟨cs, 0, 0, 0⟩

/-- The character that is `n` characters ahead. -/
def ahead (c : Cursor) (n : Nat) : Option Char := c.rest[n]?

/-- The next character. -/
def next (c : Cursor) : Option Char := c.rest.head?

/-- Whether the next character is `ch`. -/
def startsWith (c : Cursor) (ch : Char) : Bool := c.next == some ch

/-- Whether the next character is a blank. -/
def atBlank (c : Cursor) : Bool := c.next.any isBlank

/-- Whether the next character is a break. -/
def atBreak (c : Cursor) : Bool := c.next.any isBreak

/-- Whether the text is over. -/
def atEnd (c : Cursor) : Bool := c.rest.isEmpty

/-- The place behind `n` characters of the line. -/
def skip (c : Cursor) (n : Nat) : Cursor :=
  ⟨c.rest.drop n, c.line, c.column + n, c.index + n⟩

/-- The characters of the line for as long as they are of a kind, and the place behind them. -/
def takeWhile (c : Cursor) (p : Char → Bool) : List Char × Cursor :=
  let run := c.rest.takeWhile fun ch => p ch && !isBreak ch
  (run, c.skip run.length)

/-- The place behind the characters of a kind. -/
def skipWhile (c : Cursor) (p : Char → Bool) : Cursor := (c.takeWhile p).2

/-- The place at the end of the line. -/
def skipToBreak (c : Cursor) : Cursor := c.skipWhile fun _ => true

/-- The break at a place as text, and the start of the next line; at the end of the text there is no
break. -/
def takeBreak (c : Cursor) : List Char × Cursor :=
  match c.rest with
  | '\r' :: '\n' :: rest => (['\n'], ⟨rest, c.line + 1, 0, c.index + 2⟩)
  | ch :: rest => ([breakChar ch], ⟨rest, c.line + 1, 0, c.index + 1⟩)
  | [] => ([], c)

/-- Whether a line begins here with three times the same mark, `---` or `...`, as a word. -/
def atDocumentMark (c : Cursor) (mark : Char) : Bool :=
  c.column = 0 && c.rest.take 3 == [mark, mark, mark] && endsWord (c.ahead 3)

/-- Whether a document begins or ends here. -/
def atDocumentEdge (c : Cursor) : Bool := c.atDocumentMark '-' || c.atDocumentMark '.'

end Cursor

/-! ## 3. Gaps between words -/

/-- What stands between two words of a scalar. -/
structure Gap where
  /-- The blanks before the first break. -/
  blanks : List Char
  /-- The breaks. -/
  breaks : List (List Char)
  /-- A tab stands to the left of the column where the lines of the scalar begin. -/
  strayTab : Bool

namespace Gap

/-- No gap. -/
def none : Gap := ⟨[], [], false⟩

/-- What is left of a gap when lines are folded: the blanks within a line; a blank for a single line
feed; and all further breaks. -/
def folded (g : Gap) : List Char :=
  match g.breaks with
  | [] => g.blanks
  | first :: rest =>
    if first ≠ ['\n'] then first ++ rest.flatten
    else if rest.isEmpty then [' ']
    else rest.flatten

end Gap

namespace Cursor

/-- The lines that are blank up to their break, from inside the first of them. -/
def blankLines (indent : Nat) : (fuel : Nat) → Gap → Cursor → Gap × Cursor
  | 0, gap, c => (gap, c)
  | fuel + 1, gap, c =>
    let (blanks, behind) := c.takeWhile isBlank
    let stray := !gap.breaks.isEmpty && (blanks.take (indent - c.column)).contains '\t'
    let gap := { gap with
      blanks := if gap.breaks.isEmpty then blanks else gap.blanks
      strayTab := gap.strayTab || stray }
    if behind.atBreak then
      let (text, c) := behind.takeBreak
      blankLines indent fuel { gap with breaks := gap.breaks ++ [text] } c
    else (gap, behind)

/-- The gap at a place. -/
def gap (c : Cursor) (indent : Nat) : Gap × Cursor :=
  blankLines indent (c.rest.length + 1) Gap.none c

end Cursor

end SchemaMock.Yaml
