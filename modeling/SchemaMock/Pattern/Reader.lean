/-
# Reading patterns

The text of a pattern is read from left to right, one item at a time, and the state holds the
groups that are open.  An item is a character, a class, an assertion or a group; repetitions apply
to the item before them, and so are refused at the start of a group or of an alternative and behind
a change of flags.

**What is refused, exactly**: groups and classes that are not closed, a closing parenthesis without
its opening one, repetitions of nothing, bounds that are missing, too large or in the wrong order,
looking ahead or behind, references to groups, unknown escapes, classes and flags, a group's name
that comes twice or is no name, and patterns that are too large when their repetitions are written
out.  All else is a character that stands for itself.
-/
import SchemaMock.Pattern.Basic
import SchemaMock.Rule.Basic
import SchemaMock.Text.Digits

namespace SchemaMock.Pattern

/-! ## 1. Flags -/

/-- How characters are read and matched, up to the end of the group. -/
structure Flags where
  ignoreCase : Bool := false
  /-- Lines have starts and ends of their own. -/
  byLine : Bool := false
  /-- A dot takes line breaks too. -/
  dotAll : Bool := false
  /-- A carriage return breaks lines too. -/
  anyBreak : Bool := false
  /-- Blanks and comments between items are skipped. -/
  spaced : Bool := false

namespace Flags

/-- The flags after one of them has been set.  That repetitions prefer fewer turns (`U`) and that
classes reach beyond the first 128 characters (`u`) changes nothing. -/
def assign (f : Flags) (value : Bool) : Char → Flags
  | 'i' => { f with ignoreCase := value }
  | 'm' => { f with byLine := value }
  | 's' => { f with dotAll := value }
  | 'R' => { f with anyBreak := value }
  | 'x' => { f with spaced := value }
  | _ => f

/-- The flags after some letters: those behind a hyphen are taken back. -/
def assignAll (value : Bool) (f : Flags) : List Char → Flags
  | [] => f
  | '-' :: rest => assignAll false f rest
  | c :: rest => assignAll value (f.assign value c) rest

/-- The letters of a change of flags, what ends it and the text behind.  No letter comes twice. -/
def letters? (seen : List Char) : List Char → Option (List Char × Char × List Char)
  | [] => none
  | c :: rest =>
    if c = ':' ∨ c = ')' then
      if seen.head? = some '-' then none else some (seen.reverse, c, rest)
    else if seen.contains c || !"imsUuRx-".toList.contains c then none
    else letters? (c :: seen) rest

/-- A change of flags.  Classes cannot be restricted to the first 128 characters. -/
def read? (f : Flags) (cs : List Char) : Option (Flags × List Char × Char × List Char) :=
  match letters? [] cs with
  | some (letters, stop, rest) =>
    if (letters.dropWhile (· ≠ '-')).contains 'u' then none
    else some (assignAll true f letters, letters, stop, rest)
  | none => none

/-- The text without blanks and comments in front, where those are skipped. -/
def skip (f : Flags) (cs : List Char) : List Char := if f.spaced then go false cs else cs
where
  /-- Skips blanks, and all characters up to the end of the line in a comment. -/
  go (comment : Bool) : List Char → List Char
  | [] => []
  | c :: rest =>
    if comment then go (c ≠ '\n') rest
    else if CharSet.isBlank c then go false rest
    else if c = '#' then go true rest
    else c :: rest

/-- The set of a character that stands for itself. -/
def literal (f : Flags) (c : Char) : CharSet := (CharSet.single c).foldIf f.ignoreCase

/-- The set of a dot. -/
def dot (f : Flags) : CharSet :=
  if f.dotAll then .everything
  else if f.anyBreak then .compl (.union (.single '\r') (.single '\n'))
  else .compl (.single '\n')

/-- The condition of a caret. -/
def caret (f : Flags) : Assertion :=
  if !f.byLine then .textStart else if f.anyBreak then .lineStartAnyBreak else .lineStart

/-- The condition of a dollar sign. -/
def dollar (f : Flags) : Assertion :=
  if !f.byLine then .textEnd else if f.anyBreak then .lineEndAnyBreak else .lineEnd

end Flags

/-! ## 2. Escapes -/

/-- What a backslash and the characters behind it stand for. -/
inductive Escape where
  | char (c : Char)
  | set (s : CharSet)
  | place (a : Assertion)

/-- A character by its number: in braces, or in as many digits as its letter asks for. -/
def hexEscape? (width : Nat) : List Char → Option (Escape × List Char)
  | '\x7B' :: rest =>
    match Text.splitFirst '\x7D' rest with
    | (digits, some behind) => (Text.charOfHex? digits).map fun c => (.char c, behind)
    | (_, none) => none
  | cs =>
    if cs.length < width then none
    else (Text.charOfHex? (cs.take width)).map fun c => (.char c, cs.drop width)

/-- A class by its name: in braces, or of one letter. -/
def classEscape? (f : Flags) (negated : Bool) (cs : List Char) : Option (Escape × List Char) :=
  let finish := fun (s : CharSet) => Escape.set ((s.foldIf f.ignoreCase).negateIf negated)
  match cs with
  | [] => none
  | '\x7B' :: rest =>
    match Text.splitFirst '\x7D' rest with
    | (name, some behind) => (CharSet.named? name).map fun s => (finish s, behind)
    | (_, none) => none
  | c :: rest => (CharSet.property? (CharSet.looseName [c])).map fun s => (finish s, rest)

/-- The conditions on words that have a name. -/
def wordCondition? : String → Option Assertion
  | "start" => some .wordStart
  | "end" => some .wordEnd
  | "start-half" => some .wordStartHalf
  | "end-half" => some .wordEndHalf
  | _ => none

/-- A condition on words: a name in braces may follow, but braces with a number are a repetition. -/
def boundaryEscape? : List Char → Option (Escape × List Char)
  | '\x7B' :: rest =>
    let isNamePart := fun (c : Char) => c.isAlpha || c = '-'
    match rest.takeWhile isNamePart, rest.dropWhile isNamePart with
    | [], [] => none
    | [], _ => some (.place .wordBoundary, '\x7B' :: rest)
    | name, '\x7D' :: behind =>
      (wordCondition? (String.ofList name)).map fun a => (.place a, behind)
    | _, _ => none
  | rest => some (.place .wordBoundary, rest)

/-- Whether a character may have a backslash that changes nothing. -/
def isPlainEscape (c : Char) : Bool :=
  Text.isAscii c && !c.isAlphanum && c != '<' && c != '>'

/-- What follows a backslash. -/
def escape? (f : Flags) : List Char → Option (Escape × List Char)
  | [] => none
  | c :: rest =>
    match c with
    | 'x' => hexEscape? 2 rest
    | 'u' => hexEscape? 4 rest
    | 'U' => hexEscape? 8 rest
    | 'p' => classEscape? f false rest
    | 'P' => classEscape? f true rest
    | 'd' => some (.set .digit, rest)
    | 's' => some (.set .space, rest)
    | 'w' => some (.set .word, rest)
    | 'D' => some (.set (.compl .digit), rest)
    | 'S' => some (.set (.compl .space), rest)
    | 'W' => some (.set (.compl .word), rest)
    | 'a' => some (.char '\x07', rest)
    | 'f' => some (.char '\x0C', rest)
    | 't' => some (.char '\t', rest)
    | 'n' => some (.char '\n', rest)
    | 'r' => some (.char '\r', rest)
    | 'v' => some (.char '\x0B', rest)
    | 'A' => some (.place .textStart, rest)
    | 'z' => some (.place .textEnd, rest)
    | 'b' => boundaryEscape? rest
    | 'B' => some (.place .noWordBoundary, rest)
    | '<' => some (.place .wordStart, rest)
    | '>' => some (.place .wordEnd, rest)
    | c => if isPlainEscape c then some (.char c, rest) else none

/-! ## 3. Classes -/

/-- One end of a range, or an item of a class on its own. -/
def classPart? (f : Flags) : List Char → Option (Escape × List Char)
  | [] => none
  | '\\' :: rest => escape? f rest
  | c :: rest => some (.char c, rest)

/-- An item of a class: a set, a range or a character.  A hyphen makes a range unless the class ends
or a difference begins there. -/
def classItem? (f : Flags) (cs : List Char) : Option (CharSet × List Char) :=
  match classPart? f cs with
  | none => none
  | some (first, rest) =>
    let alone := fun (rest : List Char) =>
      match first with
      | .char c => some (f.literal c, rest)
      | .set s => some (s, rest)
      | .place _ => none
    match f.skip rest with
    | [] => none
    | '-' :: behind =>
      match f.skip behind with
      | ']' :: _ => alone ('-' :: behind)
      | '-' :: _ => alone ('-' :: behind)
      | ahead =>
        match first, classPart? f ahead with
        | .char a, some (.char b, rest) =>
          if a ≤ b then some ((CharSet.range a b).foldIf f.ignoreCase, rest) else none
        | _, _ => none
    | rest => alone rest

/-- A class with a name between colons, behind its bracket. -/
def namedClass? (f : Flags) : List Char → Option (CharSet × List Char)
  | ':' :: cs =>
    let (negated, cs) := match cs with
      | '^' :: rest => (true, rest)
      | _ => (false, cs)
    match Text.splitFirst ':' cs with
    | (name, some (']' :: rest)) =>
      (CharSet.asciiClass? (String.ofList name)).map fun s =>
        ((s.foldIf f.ignoreCase).negateIf negated, rest)
    | _ => none
  | _ => none

/-- How a class begins behind its bracket: whether it is a complement, and the hyphens or the
bracket that stand for themselves there. -/
def classStart (f : Flags) (cs : List Char) : Bool × List CharSet × List Char :=
  let (negated, cs) := match cs with
    | '^' :: rest => (true, rest)
    | _ => (false, cs)
  match cs with
  | ']' :: rest => (negated, [f.literal ']'], rest)
  | _ =>
    let isHyphen := fun (c : Char) => c = '-'
    (negated, (cs.takeWhile isHyphen).map f.literal, cs.dropWhile isHyphen)

/-- The rest of a class behind some items.  `combine` takes the last operand of the operations
before; these have one rank and group to the left. -/
def classRest? (f : Flags) :
    Nat → (CharSet → CharSet) → List CharSet → List Char → Option (CharSet × List Char)
  | 0, _, _, _ => none
  | fuel + 1, combine, items, cs =>
    let operand := combine (.unions items)
    match f.skip cs with
    | [] => none
    | ']' :: rest => some (operand, rest)
    | '&' :: '&' :: rest => classRest? f fuel (.inter operand) [] rest
    | '-' :: '-' :: rest => classRest? f fuel (.diff operand) [] rest
    | '~' :: '~' :: rest => classRest? f fuel (.either operand) [] rest
    | '[' :: rest =>
      match namedClass? f rest with
      | some (s, rest) => classRest? f fuel combine (s :: items) rest
      | none =>
        let (negated, start, rest) := classStart f rest
        match classRest? f fuel id start rest with
        | some (s, rest) => classRest? f fuel combine (s.negateIf negated :: items) rest
        | none => none
    | c :: rest =>
      match classItem? f (c :: rest) with
      | some (s, rest) => classRest? f fuel combine (s :: items) rest
      | none => none

/-- A class behind its bracket. -/
def class? (f : Flags) (cs : List Char) : Option (CharSet × List Char) :=
  let (negated, start, rest) := classStart f cs
  (classRest? f (cs.length + 1) id start rest).map fun (s, rest) => (s.negateIf negated, rest)

/-! ## 4. Repetitions and groups -/

/-- A bound of a repetition; blanks may surround it. -/
def bound? (cs : List Char) : Option (Nat × List Char) :=
  let cs := cs.dropWhile CharSet.isBlank
  let digits := cs.takeWhile Char.isDigit
  match Text.numberIn? 10 digits with
  | some n =>
    let behind := (cs.dropWhile Char.isDigit).dropWhile CharSet.isBlank
    if n < Nat.pow 2 32 then some (n, behind) else none
  | none => none

/-- The bounds of a repetition behind its brace, as what it makes of a pattern. -/
def bounds? (cs : List Char) : Option ((Pattern → Pattern) × List Char) :=
  match bound? cs with
  | some (low, '\x7D' :: rest) => some (.between low 0, rest)
  | some (low, ',' :: '\x7D' :: rest) => some (.atLeast low, rest)
  | some (low, ',' :: rest) =>
    match bound? rest with
    | some (high, '\x7D' :: rest) =>
      if low ≤ high then some (.between low (high - low), rest) else none
    | _ => none
  | _ => none

/-- The repetition that a character begins. -/
def repetition? (c : Char) (rest : List Char) : Option ((Pattern → Pattern) × List Char) :=
  match c with
  | '*' => some (.atLeast 0, rest)
  | '+' => some (.atLeast 1, rest)
  | '?' => some (.between 0 1, rest)
  | _ => bounds? rest

/-- How a group begins behind its parenthesis. -/
inductive GroupStart where
  /-- A group, its name if it has one and the flags in it. -/
  | opens (name : Option (List Char)) (flags : Flags)
  /-- No group: from here on the flags are others. -/
  | changes (flags : Flags)

/-- The name of a group, up to its angle bracket. -/
def groupName? (cs : List Char) : Option (List Char × List Char) :=
  match Text.splitFirst '>' cs with
  | (c :: name, some rest) =>
    let isPart := fun (c : Char) =>
      c = '_' || c = '.' || c = '[' || c = ']' || Text.isAlphanumeric c
    if (c = '_' || Text.isAlphabetic c) && name.all isPart then some (c :: name, rest) else none
  | _ => none

/-- The start of a group. -/
def groupStart? (f : Flags) (cs : List Char) : Option (GroupStart × List Char) :=
  let named := fun (rest : List Char) =>
    (groupName? rest).map fun (name, rest) => (GroupStart.opens (some name) f, rest)
  match cs with
  | '?' :: '<' :: '=' :: _ => none
  | '?' :: '<' :: '!' :: _ => none
  | '?' :: 'P' :: '<' :: rest => named rest
  | '?' :: '<' :: rest => named rest
  | '?' :: rest =>
    match f.read? rest with
    | some (flags, letters, ')', rest) =>
      if letters.isEmpty then none else some (.changes flags, rest)
    | some (flags, _, _, rest) => some (.opens none flags, rest)
    | none => none
  | cs => some (.opens none f, cs)

/-! ## 5. The whole pattern -/

/-- The alternatives of a group as far as they have been read, the last one first. -/
structure Branches where
  done : List Pattern := []
  /-- The items of the last alternative before its last one, the last one first. -/
  items : List Pattern := []
  /-- The item that a repetition would apply to. -/
  last : Option Pattern := none

namespace Branches

/-- The items of the last alternative, the last one first. -/
def run (b : Branches) : List Pattern := b.last.toList ++ b.items

/-- One more item. -/
def push (b : Branches) (p : Pattern) : Branches := { b with items := b.run, last := some p }

/-- No repetition may follow. -/
def settle (b : Branches) : Branches := { b with items := b.run, last := none }

/-- The next alternative begins. -/
def next (b : Branches) : Branches := ⟨.seqs b.run.reverse :: b.done, [], none⟩

/-- The pattern of the group. -/
def close (b : Branches) : Pattern := .alts b.next.done.reverse

end Branches

/-- What has been read of a pattern. -/
structure Reading where
  flags : Flags := {}
  branches : Branches := {}
  /-- The groups that are open around this one, each with the flags to go back to. -/
  around : List (Flags × Branches) := []
  /-- The names of the groups. -/
  names : List (List Char) := []

namespace Reading

/-- One more item in the group being read. -/
def push (r : Reading) (p : Pattern) : Reading := { r with branches := r.branches.push p }

/-- A group or a change of flags, behind its parenthesis. -/
def enter? (r : Reading) (cs : List Char) : Option (Reading × List Char) :=
  match groupStart? r.flags cs with
  | none => none
  | some (.changes flags, rest) =>
    some ({ r with flags := flags, branches := r.branches.settle }, rest)
  | some (.opens name flags, rest) =>
    if name.any r.names.contains then none
    else
      some (⟨flags, {}, (r.flags, r.branches.settle) :: r.around, name.toList ++ r.names⟩, rest)

/-- The end of a group. -/
def leave? (r : Reading) : Option Reading :=
  match r.around with
  | [] => none
  | (flags, branches) :: around => some ⟨flags, branches.push r.branches.close, around, r.names⟩

/-- A repetition of the last item.  A question mark behind it only says which match is preferred. -/
def repeat? (r : Reading) (c : Char) (rest : List Char) : Option (Reading × List Char) :=
  match r.branches.last, repetition? c rest with
  | some p, some (wrap, rest) =>
    let rest := match rest with
      | '?' :: rest => rest
      | _ => rest
    some ({ r with branches := { r.branches with last := some (wrap p) } }, rest)
  | _, _ => none

/-- One item of a pattern. -/
def step? (r : Reading) (c : Char) (rest : List Char) : Option (Reading × List Char) :=
  match c with
  | '(' => r.enter? rest
  | ')' => r.leave?.map fun r => (r, rest)
  | '|' => some ({ r with branches := r.branches.next }, rest)
  | '[' => (class? r.flags rest).map fun (s, rest) => (r.push (.one s), rest)
  | '*' | '+' | '?' | '\x7B' => r.repeat? c rest
  | '.' => some (r.push (.one r.flags.dot), rest)
  | '^' => some (r.push (.assert r.flags.caret), rest)
  | '$' => some (r.push (.assert r.flags.dollar), rest)
  | '\\' =>
    (escape? r.flags rest).map fun (e, rest) =>
      match e with
      | .char c => (r.push (.one (r.flags.literal c)), rest)
      | .set s => (r.push (.one s), rest)
      | .place a => (r.push (.assert a), rest)
  | c => some (r.push (.one (r.flags.literal c)), rest)

/-- The pattern of a text behind what has been read.  Every item takes a character at least, so the
length of the text is fuel enough. -/
def finish? : Nat → Reading → List Char → Option Pattern
  | 0, _, _ => none
  | fuel + 1, r, cs =>
    match r.flags.skip cs with
    | [] => if r.around.isEmpty then some r.branches.close else none
    | c :: rest =>
      match r.step? c rest with
      | some (r, rest) => finish? fuel r rest
      | none => none

end Reading

/-- The size that a pattern may have. -/
def sizeLimit : Nat := 262144

/-- The pattern that a text stands for. -/
def ofText? (text : String) : Option Pattern :=
  match Reading.finish? (text.toList.length + 1) {} text.toList with
  | some p => if p.size ≤ sizeLimit then some p else none
  | none => none

/-- The test for names that a pattern makes. -/
def engine : PatternEngine := fun text => (ofText? text).map fun p name => p.occursIn name

end SchemaMock.Pattern
