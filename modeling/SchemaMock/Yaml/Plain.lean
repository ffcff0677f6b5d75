/-
# What plain scalars stand for

A plain scalar stands for nothing, a truth value, a number or its text.  Whole numbers are written
in base ten, or behind `0x`, `0o` and `0b` in another; digits behind a leading zero are a text and
no number.  A whole number of more than 64 bits has no place in a document, up to the 128 bits
within which it is still one.  All other numbers are doubles; a text that says more than a double
can hold is a text, and a number without a finite value stands for nothing.
-/
import SchemaMock.Json.Basic
import SchemaMock.Text.Digits

namespace SchemaMock.Yaml.Plain

/-! ## 1. Words -/

/-- Whether a text says that there is nothing. -/
def isNull (text : String) : Bool := ["null", "Null", "NULL", "~"].contains text

/-- The truth value that a text says. -/
def bool? (text : String) : Option Bool :=
  if ["true", "True", "TRUE"].contains text then some true
  else if ["false", "False", "FALSE"].contains text then some false
  else none

/-! ## 2. Whole numbers -/

/-- Whether digits stand behind a leading zero. -/
def isPadded (cs : List Char) : Bool :=
  cs.length > 1 && cs.head? == some '0' && cs.all Char.isDigit

/-- The whole number that a text without a sign says. -/
def magnitude? : List Char → Option Nat
  | '0' :: 'x' :: rest => Text.numberIn? 16 rest
  | '0' :: 'o' :: rest => Text.numberIn? 8 rest
  | '0' :: 'b' :: rest => Text.numberIn? 2 rest
  | cs => if isPadded cs then none else Text.numberIn? 10 cs

/-- The whole number that a text says; a sign stands before the base. -/
def int? : List Char → Option Int
  | '+' :: rest => (magnitude? rest).map Int.ofNat
  | '-' :: rest => (magnitude? rest).map fun n => -Int.ofNat n
  | cs => (magnitude? cs).map Int.ofNat

/-- The whole number from 0 to 2^64 - 1 that a text says; it has no minus. -/
def word? (text : String) : Option Nat :=
  match text.toList with
  | '-' :: _ => none
  | cs =>
    match int? cs with
    | some n => if n < wordLimit then some n.toNat else none
    | none => none

/-! ## 3. Doubles -/

/-- The power of ten that digits behind an exponent's letter say. -/
def power? : List Char → Option Int
  | '+' :: rest => (Text.numberIn? 10 rest).map Int.ofNat
  | '-' :: rest => (Text.numberIn? 10 rest).map fun n => -Int.ofNat n
  | cs => (Text.numberIn? 10 cs).map Int.ofNat

/-- The double next to `n` times a power of ten; nothing above the doubles.  Far below them it is
zero. -/
def nearest? (n : Nat) (length : Nat) (power : Int) : Option Float :=
  if n = 0 ∨ power + length < -400 then some 0.0
  else if 400 < power + length then none
  else
    let x := Float.ofScientific n (power < 0) power.natAbs
    if x.isInf then none else some x

/-- The double that a text without a sign says in digits. -/
def decimal? (cs : List Char) : Option Float :=
  let isPower := fun c => c = 'e' || c = 'E'
  let mantissa := cs.takeWhile fun c => !isPower c
  let behind := cs.dropWhile fun c => !isPower c
  let whole := mantissa.takeWhile (· ≠ '.')
  let fraction := (mantissa.dropWhile (· ≠ '.')).drop 1
  match (if behind.isEmpty then some 0 else power? (behind.drop 1)),
      Text.numberIn? 10 (whole ++ fraction) with
  | some power, some n => nearest? n (whole.length + fraction.length) (power - fraction.length)
  | _, _ => none

/-- The finite double that a text says in digits. -/
def float? : List Char → Option Float
  | '+' :: rest => decimal? rest
  | '-' :: rest => (decimal? rest).map fun x => -x
  | cs => decimal? cs

/-- Whether a text says a number without a finite value. -/
def isUnbounded (text : String) : Bool :=
  [".inf", ".Inf", ".INF", "+.inf", "+.Inf", "+.INF", "-.inf", "-.Inf", "-.INF", ".nan", ".NaN",
    ".NAN"].contains text

/-! ## 4. Values -/

/-- A whole number as a value; nothing beyond 64 bits. -/
def ofInt? (n : Int) : Option Json :=
  if -9223372036854775808 ≤ n ∧ n < wordLimit then some (.num (.int n)) else none

/-- Whether a whole number has more than 128 bits, with one for the sign of a negative one. -/
def isHuge (n : Int) : Bool := n < -(Int.pow 2 127) || Int.pow 2 128 ≤ n

/-- The double that a text says, as a value. -/
def floatValue? (text : String) : Option Json :=
  if isUnbounded text then some .null
  else (float? text.toList).map fun x => .num (.float x)

/-- Whether a text is digits behind a leading zero, with a sign or without. -/
def isPaddedText (text : String) : Bool :=
  match text.toList with
  | '+' :: rest => isPadded rest
  | '-' :: rest => isPadded rest
  | cs => isPadded cs

/-- The value of a text that is no word and no whole number. -/
def otherValue (text : String) : Json :=
  if isPaddedText text then .str text else (floatValue? text).getD (.str text)

/-- The value of a plain scalar; nothing for a whole number that is too large. -/
def value? (text : String) : Option Json :=
  if text.isEmpty || isNull text then some .null
  else
    match bool? text, int? text.toList with
    | some b, _ => some (.bool b)
    | none, some n => if isHuge n then some (otherValue text) else ofInt? n
    | none, none => some (otherValue text)

end SchemaMock.Yaml.Plain
