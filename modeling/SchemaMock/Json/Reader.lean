/-
# Reading documents from text

Reading is guided by an expectation: what kind of value the reader of the result wants at each
place.  The text is read once from left to right, and the first thing that is wrong decides the
answer, be it a character that no document may have there, a value of the wrong kind, or the end of
the text.  A whole document is read with the expectation `any`; a settings file has an expectation
with named fields.

Three rules follow from reading once.

* A scalar of the wrong kind is read to its end before it is refused, so a fault inside it comes
  first; an array or an object of the wrong kind is refused at its bracket.
* A field that is told twice is refused at its name, before its value is looked at.
* A field that nobody wants is passed over: its value must have the form of a document, but its
  depth is not counted, its numbers may have any size and its escapes may name any code unit.

The reader calls itself once for each bracket, so its recursion is bounded by a count that starts
above twice the length of the text; the wrappers supply it.
-/
import SchemaMock.Json.Basic
import SchemaMock.Text.Digits

namespace SchemaMock

/-! ## 1. Faults and expectations -/

/-- Why a text is not the document that is wanted. -/
inductive ReadFault where
  /-- A character that cannot stand where it stands. -/
  | malformed
  /-- A well-formed value of the wrong kind, or a field told twice. -/
  | mismatch
  /-- The text ends too early. -/
  | truncated
  deriving DecidableEq, Repr

/-- What is wanted at a place of a document. -/
inductive Expected where
  /-- Any value. -/
  | any
  /-- No value: whatever stands there is passed over. -/
  | ignored
  /-- `true` or `false`. -/
  | bool
  /-- A whole number from 0 to 2^64 - 1. -/
  | word
  /-- A string. -/
  | text
  /-- An object with any names, whose values are all wanted alike. -/
  | table (entry : Expected)
  /-- An object with some known names, or an array of their values in the order of the names. -/
  | record (fields : List (String × Expected))

namespace Json.Reader

/-! ## 2. Blanks and words -/

/-- The blanks of a document. -/
def isBlank (c : Char) : Bool := c == ' ' || c == '\n' || c == '\t' || c == '\r'

/-- The text from the first character that is no blank. -/
def skipBlanks (cs : List Char) : List Char := cs.dropWhile isBlank

/-- The text behind the letters `letters`. -/
def expectLetters : (letters cs : List Char) → Except ReadFault (List Char)
  | [], cs => .ok cs
  | _ :: _, [] => .error .truncated
  | l :: letters, c :: cs => if l = c then expectLetters letters cs else .error .malformed

/-! ## 3. Strings -/

/-- The code unit written in the next four characters.  Fewer than four bytes of text are an early
end, whatever they are. -/
def codeUnit (cs : List Char) : Except ReadFault Nat :=
  if ((cs.take 4).map Char.utf8Size).foldl (· + ·) 0 < 4 then .error .truncated
  else
    match cs with
    | a :: b :: c :: d :: _ =>
      match Text.hexValue? a, Text.hexValue? b, Text.hexValue? c, Text.hexValue? d with
      | some a, some b, some c, some d => .ok (((a * 16 + b) * 16 + c) * 16 + d)
      | _, _, _, _ => .error .malformed
    | _ => .error .malformed

/-- The character of an escape of one letter. -/
def letterEscape? (c : Char) : Option Char :=
  match c with
  | '"' => some '"'
  | '\\' => some '\\'
  | '/' => some '/'
  | 'b' => some '\x08'
  | 'f' => some '\x0c'
  | 'n' => some '\n'
  | 'r' => some '\r'
  | 't' => some '\t'
  | _ => none

/-- The letters of a string behind its opening quote, collected in reverse.  With `lenient` a code
unit may stand for no character; it is then left out. -/
def readLetters (lenient : Bool) (done : List Char) (cs : List Char) :
    Except ReadFault (String × List Char) :=
  match cs with
  | [] => .error .truncated
  | '"' :: rest => .ok (String.ofList done.reverse, rest)
  | '\\' :: [] => .error .truncated
  | '\\' :: 'u' :: tail => do
    let unit ← codeUnit tail
    if unit < 0xD800 ∨ 0xDFFF < unit then
      readLetters lenient (Char.ofNat unit :: done) (tail.drop 4)
    else if lenient then readLetters lenient done (tail.drop 4)
    else if 0xDC00 ≤ unit then .error .malformed
    else
      match tail.drop 4 with
      | [] => .error .truncated
      | '\\' :: [] => .error .truncated
      | '\\' :: 'u' :: low => do
        let second ← codeUnit low
        if second < 0xDC00 ∨ 0xDFFF < second then .error .malformed
        else
          let c := Char.ofNat (0x10000 + (unit - 0xD800) * 0x400 + (second - 0xDC00))
          readLetters lenient (c :: done) (tail.drop 10)
      | _ => .error .malformed
  | '\\' :: c :: rest =>
    match letterEscape? c with
    | some c => readLetters lenient (c :: done) rest
    | none => .error .malformed
  | c :: rest =>
    if c.toNat < 32 then .error .malformed else readLetters lenient (c :: done) rest
termination_by cs.length
decreasing_by all_goals simp_all <;> omega

/-! ## 4. Numbers -/

/-- The largest whole number of 64 bits. -/
def largestWord : Nat := 18446744073709551615

/-- The largest exponent that is read as it stands. -/
def largestPower : Nat := 2147483647

/-- The value of a decimal digit. -/
def digitValue (c : Char) : Nat := c.toNat - 48

/-- The digits at the front of a text, and the text behind them. -/
def digits (cs : List Char) : List Char × List Char :=
  (cs.takeWhile Char.isDigit, cs.dropWhile Char.isDigit)

/-- Digits put behind a number for as long as the result has 64 bits, and how many are left. -/
def accumulate : (number : Nat) → List Char → Nat × Nat
  | number, [] => (number, 0)
  | number, c :: rest =>
    let next := number * 10 + digitValue c
    if largestWord < next then (number, rest.length + 1) else accumulate next rest

/-- A power of ten as a double. -/
def powerOfTen (n : Nat) : Float := Float.ofScientific 1 false n

/-- `x · 10^power` for a negative power below the range of doubles, in steps of 308 places.  Two
steps bring every 64-bit number down to zero. -/
def scaleDown : (steps : Nat) → Float → (power : Nat) → Float
  | 0, _, _ => 0.0
  | steps + 1, x, power =>
    if power ≤ 308 then x / powerOfTen power
    else if x == 0.0 then x
    else scaleDown steps (x / powerOfTen 308) (power - 308)

/-- The double of `significand · 10^power`: one multiplication or division by a power of ten, each
rounded.  A number above the range of doubles has none. -/
def scale? (significand : Nat) (power : Int) : Option Float :=
  let x := (UInt64.ofNat significand).toFloat
  if power < 0 then some (scaleDown 4 x power.natAbs)
  else if power ≤ 308 then
    let y := x * powerOfTen power.natAbs
    if y.isInf then none else some y
  else if significand = 0 then some x
  else none

/-- The double with a sign. -/
def signed (negative : Bool) (x : Float) : Float := if negative then -x else x

/-- The exponent of a number, behind its letter: whether it is negative, and its digits. -/
def exponentDigits (lenient : Bool) (cs : List Char) :
    Except ReadFault (Bool × List Char × List Char) :=
  let (negative, cs) :=
    match cs with
    | '+' :: rest => (false, rest)
    | '-' :: rest => (true, rest)
    | _ => (false, cs)
  match cs with
  | [] => .error (if lenient then .malformed else .truncated)
  | c :: _ =>
    if c.isDigit then
      let (ds, rest) := digits cs
      .ok (negative, ds, rest)
    else .error .malformed

/-- The power of ten that exponent digits add, if it is small enough to be read as it stands. -/
def powerOfDigits? (ds : List Char) : Option Nat :=
  ds.foldl (fun n c => n.bind fun n =>
    let next := n * 10 + digitValue c
    if largestPower < next then none else some next) (some 0)

/-- The double of a significand, a power of ten and an optional exponent behind it. -/
def readPower (lenient negative : Bool) (significand : Nat) (power : Int) (cs : List Char) :
    Except ReadFault (Number × List Char) :=
  let finish (power : Int) (rest : List Char) : Except ReadFault (Number × List Char) :=
    match scale? significand power with
    | some x => .ok (.float (signed negative x), rest)
    | none => if lenient then .ok (.int 0, rest) else .error .malformed
  match cs with
  | c :: tail =>
    if c = 'e' ∨ c = 'E' then do
      let (down, ds, rest) ← exponentDigits lenient tail
      match powerOfDigits? ds with
      | some p => finish (if down then power - p else power + p) rest
      | none =>
        if significand ≠ 0 ∧ ¬ down ∧ ¬ lenient then .error .malformed
        else .ok (.float (signed negative 0.0), rest)
    else finish power cs
  | [] => finish power cs

/-- A number behind its sign.  Without a point and an exponent it is whole as long as it fits into
64 bits, and `-0` is the double. -/
def readMagnitude (lenient negative : Bool) (cs : List Char) :
    Except ReadFault (Number × List Char) :=
  match cs with
  | [] => .error (if lenient then .malformed else .truncated)
  | c :: tail =>
    if ¬ c.isDigit then .error .malformed
    else if c = '0' ∧ (tail.head?.map Char.isDigit).getD false then .error .malformed
    else
      let (whole, rest) := digits cs
      let (significand, left) := accumulate 0 whole
      match rest with
      | '.' :: tail =>
        let (fraction, rest) := digits tail
        if fraction.isEmpty then
          .error (if rest.isEmpty ∧ ¬ lenient then .truncated else .malformed)
        else
          let (significand, unused) := accumulate significand fraction
          readPower lenient negative significand (left - (fraction.length - unused : Nat)) rest
      | c :: _ =>
        if c = 'e' ∨ c = 'E' then readPower lenient negative significand left rest
        else wholeNumber significand left rest
      | [] => wholeNumber significand left rest
where
  /-- A number without point and exponent. -/
  wholeNumber (significand left : Nat) (rest : List Char) :
      Except ReadFault (Number × List Char) :=
    if left ≠ 0 then readPower lenient negative significand left rest
    else if ¬ negative then .ok (.int significand, rest)
    else if significand = 0 ∨ 9223372036854775808 < significand then
      .ok (.float (-(UInt64.ofNat significand).toFloat), rest)
    else .ok (.int (-significand), rest)

/-! ## 5. Values -/

/-- A scalar, from its first character. -/
def readScalar (lenient : Bool) (cs : List Char) : Except ReadFault (Json × List Char) :=
  match cs with
  | [] => .error .truncated
  | '"' :: rest => do
    let (s, rest) ← readLetters lenient [] rest
    .ok (.str s, rest)
  | 'n' :: rest => do .ok (.null, ← expectLetters ['u', 'l', 'l'] rest)
  | 't' :: rest => do .ok (.bool true, ← expectLetters ['r', 'u', 'e'] rest)
  | 'f' :: rest => do .ok (.bool false, ← expectLetters ['a', 'l', 's', 'e'] rest)
  | '-' :: rest => do
    let (n, rest) ← readMagnitude lenient true rest
    .ok (.num n, rest)
  | c :: _ =>
    if c.isDigit then do
      let (n, rest) ← readMagnitude lenient false cs
      .ok (.num n, rest)
    else .error .malformed

/-- Whether a scalar is of the kind that is wanted. -/
def suits : Expected → Json → Bool
  | .any, _ => true
  | .ignored, _ => true
  | .bool, value => value.bool?.isSome
  | .word, value => value.word?.isSome
  | .text, value => value.text?.isSome
  | .table _, _ => false
  | .record _, _ => false

/-- The value or the closing bracket that follows in an array or an object: `none` at the bracket.
Behind a value a comma must stand, and behind a comma a value. -/
def nextEntry (closing : Char) (first : Bool) (cs : List Char) :
    Except ReadFault (Option (List Char)) :=
  match skipBlanks cs with
  | [] => .error .truncated
  | c :: rest =>
    if c = closing then .ok none
    else if first then .ok (some (c :: rest))
    else if c = ',' then
      match skipBlanks rest with
      | [] => .error .truncated
      | d :: rest => if d = closing then .error .malformed else .ok (some (d :: rest))
    else .error .malformed

/-- The name of a member, and the text behind it. -/
def readName (lenient : Bool) (cs : List Char) : Except ReadFault (String × List Char) :=
  match cs with
  | '"' :: rest => readLetters lenient [] rest
  | _ => .error .malformed

/-- The text behind the colon that must follow. -/
def readColon (cs : List Char) : Except ReadFault (List Char) :=
  match skipBlanks cs with
  | [] => .error .truncated
  | ':' :: rest => .ok rest
  | _ => .error .malformed

/-- The text behind the closing bracket that must follow. -/
def readClosing (closing : Char) (cs : List Char) : Except ReadFault (List Char) :=
  match skipBlanks cs with
  | [] => .error .truncated
  | c :: rest => if c = closing then .ok rest else .error .malformed

/-- Whether a value that is wanted is passed over. -/
def isIgnored : Expected → Bool
  | .ignored => true
  | _ => false

mutual
/-- The value at the front of a text.  `depth` is the number of brackets that may still be opened
around one another. -/
def readValue : (fuel depth : Nat) → Expected → List Char → Except ReadFault (Json × List Char)
  | 0, _, _, _ => .error .malformed
  | fuel + 1, depth, expected, cs =>
    match skipBlanks cs with
    | '[' :: rest =>
      match expected with
      | .any =>
        if depth = 0 then .error .malformed else readItems fuel (depth - 1) .any true [] rest
      | .ignored => readItems fuel depth .ignored true [] rest
      | .record fields =>
        if depth = 0 then .error .malformed else readFields fuel (depth - 1) fields true [] rest
      | _ => .error .mismatch
    | '\x7b' :: rest =>
      match expected with
      | .any =>
        if depth = 0 then .error .malformed
        else readMembers fuel (depth - 1) (fun _ => .any) true [] rest
      | .ignored => readMembers fuel depth (fun _ => .ignored) true [] rest
      | .table entry =>
        if depth = 0 then .error .malformed
        else readMembers fuel (depth - 1) (fun _ => entry) true [] rest
      | .record fields =>
        if depth = 0 then .error .malformed
        else readRecord fuel (depth - 1) fields true [] rest
      | _ => .error .mismatch
    | cs => do
      let (value, rest) ← readScalar (isIgnored expected) cs
      if suits expected value then .ok (value, rest) else .error .mismatch

/-- The items of an array up to its bracket, collected in reverse. -/
def readItems : (fuel depth : Nat) → Expected → (first : Bool) → List Json → List Char →
    Except ReadFault (Json × List Char)
  | 0, _, _, _, _, _ => .error .malformed
  | fuel + 1, depth, expected, first, done, cs => do
    match ← nextEntry ']' first cs with
    | none => .ok (.arr done.reverse, ← readClosing ']' cs)
    | some cs =>
      let (item, rest) ← readValue fuel depth expected cs
      readItems fuel depth expected false (item :: done) rest

/-- The members of an object up to its bracket; a name that comes again takes the later value. -/
def readMembers : (fuel depth : Nat) → (String → Expected) → (first : Bool) → Entries Json →
    List Char → Except ReadFault (Json × List Char)
  | 0, _, _, _, _, _ => .error .malformed
  | fuel + 1, depth, expected, first, done, cs => do
    match ← nextEntry '\x7d' first cs with
    | none => .ok (.obj done, ← readClosing '\x7d' cs)
    | some cs =>
      let (key, rest) ← readName (isIgnored (expected "")) cs
      let (value, rest) ← readValue fuel depth (expected key) (← readColon rest)
      readMembers fuel depth expected false (done.put key value) rest

/-- The known members of a record up to its bracket. -/
def readRecord : (fuel depth : Nat) → List (String × Expected) → (first : Bool) → Entries Json →
    List Char → Except ReadFault (Json × List Char)
  | 0, _, _, _, _, _ => .error .malformed
  | fuel + 1, depth, fields, first, done, cs => do
    match ← nextEntry '\x7d' first cs with
    | none => .ok (.obj done, ← readClosing '\x7d' cs)
    | some cs =>
      let (key, rest) ← readName false cs
      match Entries.get? key fields with
      | none =>
        let (_, rest) ← readValue fuel depth .ignored (← readColon rest)
        readRecord fuel depth fields false done rest
      | some expected =>
        if (done.get? key).isSome then .error .mismatch
        else
          let (value, rest) ← readValue fuel depth expected (← readColon rest)
          readRecord fuel depth fields false (done.put key value) rest

/-- The members of a record from an array of their values. -/
def readFields : (fuel depth : Nat) → List (String × Expected) → (first : Bool) → Entries Json →
    List Char → Except ReadFault (Json × List Char)
  | 0, _, _, _, _, _ => .error .malformed
  | _ + 1, _, [], _, done, cs => do .ok (.obj done, ← readClosing ']' cs)
  | fuel + 1, depth, (key, expected) :: fields, first, done, cs => do
    match ← nextEntry ']' first cs with
    | none => .ok (.obj done, ← readClosing ']' cs)
    | some cs =>
      let (value, rest) ← readValue fuel depth expected cs
      readFields fuel depth fields false (done.put key value) rest
end

/-- The number of brackets that may be open at once. -/
def mostBrackets : Nat := 127

/-- A text that holds one value and nothing else but blanks. -/
def read (expected : Expected) (text : String) : Except ReadFault Json := do
  let cs := text.toList
  let (value, rest) ← readValue (2 * cs.length + 2) mostBrackets expected cs
  if (skipBlanks rest).isEmpty then .ok value else .error .malformed

end Json.Reader

/-- The document that a text holds. -/
def Json.parse (text : String) : Except ReadFault Json := Json.Reader.read .any text

end SchemaMock
