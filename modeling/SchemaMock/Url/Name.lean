/-
# Names of hosts

A name is labels with dots between them.  What is written stands for plain characters, composed
where there is one for a letter and its mark; only those make the name.  Characters beyond the first
half of a byte are not sent over the network: a label that has any is written behind `xn--`, its
other characters first and then, as numbers of varying base, where the missing ones go.  A label may
be written so in the first place, and is then no other than the plain label that it stands for.

Which characters may stand beside each other in a label is a matter of how they are read.  Below
code point 128 every question is answered without a table.
-/
import SchemaMock.Text.Case
import SchemaMock.Url.NameTables

namespace SchemaMock.Url.Name

/-! ## 1. Plain characters -/

/-- The plain characters that a character stands for. -/
def plainForm (c : Char) : List Char :=
  if Text.isAscii c then [c.toLower]
  else if ignored.contains c then []
  else (plainForms.get? c).getD (Text.toLower c)

/-- Whether a character is assigned, by the standard and not by private agreement, and one that
names have. -/
def isAllowed (c : Char) : Bool :=
  Text.isAscii c ||
    (Text.Category.anyContains Text.Category.assigned c &&
      !Text.Category.privateUse.contains c && !refused.contains c)

/-- Whether a character belongs to the one before it. -/
def isMark (c : Char) : Bool :=
  !Text.isAscii c && Text.Category.anyContains Text.Category.marks c

/-- Whether a character is a mark that takes no room of its own. -/
def isLightMark (c : Char) : Bool :=
  !Text.isAscii c &&
    (Text.Category.nonspacingMark.contains c || Text.Category.enclosingMark.contains c)

/-! ## 2. Composition -/

/-- The class of a mark; a character of class 0 keeps its place. -/
def markClass (c : Char) : Nat :=
  if Text.isAscii c then 0
  else ((markClasses.find? fun e => e.2.contains c).map Prod.fst).getD 0

/-- The two parts of a syllable of Korean letters. -/
def syllableParts? (c : Char) : Option (Char × Char) :=
  let n := c.toNat - 0xAC00
  if 0xAC00 ≤ c.toNat ∧ c.toNat < 0xD7A4 then
    if n % 28 = 0 then some (Char.ofNat (0x1100 + n / 588), Char.ofNat (0x1161 + n % 588 / 28))
    else some (Char.ofNat (0xAC00 + (n - n % 28)), Char.ofNat (0x11A7 + n % 28))
  else none

/-- The syllable of two parts. -/
def syllable? (a b : Char) : Option Char :=
  let first := a.toNat
  let second := b.toNat
  if 0x1100 ≤ first ∧ first < 0x1113 ∧ 0x1161 ≤ second ∧ second < 0x1176 then
    some (Char.ofNat (0xAC00 + ((first - 0x1100) * 21 + (second - 0x1161)) * 28))
  else if 0xAC00 ≤ first ∧ first < 0xD7A4 ∧ (first - 0xAC00) % 28 = 0 ∧
      0x11A7 < second ∧ second < 0x11C3 then
    some (Char.ofNat (first + (second - 0x11A7)))
  else none

/-- Two characters as a pair. -/
def pairOf? : List Char → Option (Char × Char)
  | [a, b] => some (a, b)
  | _ => none

/-- A character taken apart, with the last of its marks behind the rest. -/
def parts? (c : Char) : Option (Char × Char) :=
  ((composites.get? c).bind pairOf?).or (syllableParts? c)

/-- The letter of a character and all of its marks; no letter has more than `most`. -/
def decomposed : (most : Nat) → Char → List Char
  | 0, c => [c]
  | most + 1, c =>
    if Text.isAscii c then [c]
    else (parts? c).elim [c] fun (a, b) => decomposed most a ++ [b]

/-- The character of two parts. -/
def composite? (a b : Char) : Option Char :=
  if Text.isAscii b then none
  else ((composites.preimage a).find? fun c => parts? c == some (a, b)).or (syllable? a b)

/-- A character in front of marks in the order of their classes, put in this order. -/
def insertMark (c : Char) : List Char → List Char
  | [] => [c]
  | d :: rest =>
    if markClass d ≠ 0 ∧ markClass d < markClass c then d :: insertMark c rest else c :: d :: rest

/-- Composes a letter with what comes behind it and behind the marks that it has kept, the last one
first.  A mark goes into the letter if none of a class as high stands between. -/
def composedFrom (letter : Char) (kept : List Char) : List Char → List Char
  | [] => letter :: kept.reverse
  | c :: rest =>
    let whole := if kept.head?.any (markClass c ≤ markClass ·) then none else composite? letter c
    match whole with
    | some whole => composedFrom whole kept rest
    | none =>
      if markClass c = 0 then letter :: kept.reverse ++ composedFrom c [] rest
      else composedFrom letter (c :: kept) rest

/-- A text of plain characters, composed. -/
def composed (cs : List Char) : List Char :=
  match (cs.flatMap (decomposed 3)).foldr insertMark [] with
  | [] => []
  | c :: rest => composedFrom c [] rest

/-! ## 3. Encoded labels -/

/-- The threshold of a digit at a place of a delta. -/
def threshold (place bias : Nat) : Nat :=
  if place ≤ bias then 1 else if bias + 26 ≤ place then 26 else place - bias

/-- A digit of base thirty-six. -/
def deltaDigit (n : Nat) : Char := if n < 26 then Char.ofNat (97 + n) else Char.ofNat (22 + n)

/-- The value of a digit of base thirty-six. -/
def deltaValue? (c : Char) : Option Nat :=
  if c.isLower then some (c.toNat - 97) else if c.isDigit then some (c.toNat - 22) else none

/-- A delta as digits of varying base, from its lowest place. -/
def deltaDigits (bias : Nat) : (fuel place q : Nat) → List Char
  | 0, _, _ => []
  | fuel + 1, place, q =>
    let t := threshold place bias
    if q < t then [deltaDigit q]
    else
      deltaDigit (t + (q - t) % (36 - t)) ::
        deltaDigits bias fuel (place + 36) ((q - t) / (36 - t))

/-- The delta that a text begins with, and what is behind its digits; `weight` is what a digit at
the place counts, and `delta` what the digits before it come to. -/
def readDelta? (bias : Nat) : (place weight delta : Nat) → List Char → Option (Nat × List Char)
  | _, _, _, [] => none
  | place, weight, delta, c :: rest => do
    let digit ← deltaValue? c
    let t := threshold place bias
    let delta := delta + digit * weight
    if digit < t then some (delta, rest)
    else readDelta? bias (place + 36) (weight * (36 - t)) delta rest

/-- The steps of the adaption of the bias. -/
def adaptSteps : (fuel delta place : Nat) → Nat
  | 0, delta, place => place + 36 * delta / (delta + 38)
  | fuel + 1, delta, place =>
    if 455 < delta then adaptSteps fuel (delta / 35) (place + 36)
    else place + 36 * delta / (delta + 38)

/-- The bias for the next delta. -/
def adapt (delta count : Nat) (isFirst : Bool) : Nat :=
  let delta := if isFirst then delta / 700 else delta / 2
  adaptSteps 64 (delta + delta / count) 0

/-- What is known in the course of encoding a label: the digits so far, in reverse, the number of
characters handled, the bias, the delta and the code point reached. -/
structure LabelState where
  digits : List Char
  handled : Nat
  basic : Nat
  bias : Nat
  delta : Nat
  reached : Nat

/-- One character of the label on the way through the code point `reached`. -/
def LabelState.step (reached : Nat) (s : LabelState) (c : Char) : LabelState :=
  if c.toNat < reached then { s with delta := s.delta + 1 }
  else if c.toNat = reached then
    { s with
      digits := (deltaDigits s.bias 64 36 s.delta).reverse ++ s.digits
      bias := adapt s.delta (s.handled + 1) (s.handled == s.basic)
      delta := 0
      handled := s.handled + 1 }
  else s

/-- The code points of a label, one round for each of them in ascending order. -/
def labelRounds (label : List Char) : (rounds : Nat) → LabelState → LabelState
  | 0, s => s
  | rounds + 1, s =>
    match ((label.map Char.toNat).filter (s.reached ≤ ·)).min? with
    | none => s
    | some next =>
      let s := { s with delta := s.delta + (next - s.reached) * (s.handled + 1), reached := next }
      let s := label.foldl (LabelState.step next) s
      labelRounds label rounds { s with delta := s.delta + 1, reached := next + 1 }

/-- What a label that is written in other characters begins with. -/
def encodedMark : List Char := ['x', 'n', '-', '-']

/-- A label as it is written. -/
def encodeLabel (label : List Char) : List Char :=
  if label.all Text.isAscii then label
  else
    let basic := label.filter Text.isAscii
    let n := basic.length
    let s := labelRounds label label.length ⟨[], n, n, 72, 0, 128⟩
    encodedMark ++ (if n = 0 then [] else basic ++ ['-']) ++ s.digits.reverse

/-- The label of some characters and of those that digits say where to put; `reached` is the last
code point, and `place` where the next one may go.  A delta has a digit at least. -/
def putDeltas? (bias reached place : Nat) (label : List Char) :
    (fuel : Nat) → List Char → Option (List Char)
  | _, [] => some label
  | 0, _ => none
  | fuel + 1, digits => do
    let (delta, rest) ← readDelta? bias 36 1 0 digits
    let count := label.length + 1
    let next := reached + (place + delta) / count
    let spot := (place + delta) % count
    if next.isValidChar then
      putDeltas? (adapt delta count (place == 0)) next (spot + 1)
        (label.take spot ++ Char.ofNat next :: label.drop spot) fuel rest
    else none

/-- The label that stands behind the mark of an encoded one.  The last hyphen ends the characters
that are written as they are, of which there must be some. -/
def decodeLabel? (text : List Char) : Option (List Char) :=
  let digits := (text.reverse.takeWhile (· ≠ '-')).reverse
  let basic := text.take (text.length - (digits.length + 1))
  if basic.all Text.isAscii then
    putDeltas? 72 128 0 basic digits.length (if basic.isEmpty then text else digits)
  else none

/-! ## 4. Joiners -/

/-- Whether letters are joined across a character. -/
def isTransparent (c : Char) : Bool := isLightMark c || c.toNat == 0x1E94B

/-- Whether a letter joins the one behind it. -/
def joinsBehind (c : Char) : Bool :=
  !Text.isAscii c && (joinedBehind.contains c || joinedBoth.contains c)

/-- Whether a letter joins the one before it. -/
def joinsBefore (c : Char) : Bool :=
  !Text.isAscii c && (joinedBefore.contains c || joinedBoth.contains c)

/-- Whether the joiners of a text stand where they change how it is written: both of them behind a
mark that takes the vowel from its letter, and the one that keeps letters apart also between letters
that would join.  `before` is what stands in front of the text, in reverse. -/
def joinersFit (before : List Char) : List Char → Bool
  | [] => true
  | c :: rest =>
    let silenced := before.head?.any (markClass · == 9)
    let parts := ((before.dropWhile isTransparent).head?.any joinsBehind) &&
      ((rest.dropWhile isTransparent).head?.any joinsBefore)
    (c != '\u200C' && c != '\u200D' || silenced || c == '\u200C' && parts) &&
      joinersFit (c :: before) rest

/-! ## 5. Directions -/

/-- How a character is read. -/
inductive Direction where
  | left
  | right
  | number
  | arabicNumber
  | mark
  | neutral
  deriving DecidableEq, Repr

/-- How a character is read. -/
def direction (c : Char) : Direction :=
  if Text.isAscii c then if c.isDigit then .number else if c.isAlpha then .left else .neutral
  else if isLightMark c && !leftMarks.contains c then .mark
  else if rightToLeft.contains c then .right
  else if arabicNumber.contains c then .arabicNumber
  else if otherNumber.contains c then .number
  else if neutral.contains c then .neutral
  else .left

/-- Whether a label can only be read with regard to its directions. -/
def isMixed (label : List Char) : Bool :=
  label.any fun c => direction c == .right || direction c == .arabicNumber

/-- Whether a label is read in one direction from its first character to its last. -/
def directionsFit (label : List Char) : Bool :=
  let directions := label.map direction
  let last := (directions.reverse.dropWhile (· == .mark)).head?
  match directions.head? with
  | none => true
  | some .left =>
    directions.all (fun d => d != .right && d != .arabicNumber) &&
      (last == some .left || last == some .number)
  | some .right =>
    directions.all (· != .left) && last != some .neutral &&
      !(directions.contains .number && directions.contains .arabicNumber)
  | some _ => false

/-! ## 6. Names -/

/-- A label: the characters that it stands for, and what is written for them. -/
structure Label where
  chars : List Char
  written : List Char

/-- The label of a text of plain characters.  An encoded one stands for plain characters as well,
and for one at least that needs it. -/
def Label.ofText? (text : List Char) : Option Label :=
  if encodedMark.isPrefixOf text then do
    let chars ← decodeLabel? (text.drop encodedMark.length)
    if chars.all Text.isAscii || chars.flatMap plainForm != chars || composed chars != chars then
      none
    else some ⟨chars, text⟩
  else some ⟨text, encodeLabel text⟩

/-- Whether a label can stand in a name. -/
def Label.isSound (l : Label) : Bool :=
  l.chars.all isAllowed && !l.chars.head?.any isMark && joinersFit [] l.chars

/-- What is sent over the network for a name. -/
def encode? (name : List Char) : Option (List Char) := do
  let labels ← (Text.cut '.' (composed (name.flatMap plainForm))).mapM Label.ofText?
  if labels.all Label.isSound &&
      (labels.all (fun l => directionsFit l.chars) || !labels.any fun l => isMixed l.chars) then
    some (Text.joinWith '.' (labels.map Label.written))
  else none

end SchemaMock.Url.Name
