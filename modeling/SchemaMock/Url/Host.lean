/-
# Hosts

A host is a name, or an address of four or of sixteen bytes.  Of the schemes that everybody knows
the hosts are names of the network, and a name whose last part is a number must be an address.  The
host of any other scheme is taken as it is.
-/
import SchemaMock.Url.Name
import SchemaMock.Url.Percent

namespace SchemaMock.Url.Host

/-! ## 1. Addresses of four bytes -/

/-- A number of an address: in base sixteen behind `0x`, in base eight behind `0`, and otherwise in
base ten.  The outer `none` says that the text is no number. -/
def number? (cs : List Char) : Option Nat :=
  let value (base : Nat) (digits : List Char) : Option Nat :=
    if digits.isEmpty then some 0 else Text.numberIn? base digits
  match cs with
  | [] => none
  | '0' :: 'x' :: digits => value 16 digits
  | '0' :: 'X' :: digits => value 16 digits
  | '0' :: c :: digits => value 8 (c :: digits)
  | digits => value 10 digits

/-- The parts of a name; an empty part at the end does not count. -/
def partsOf (name : List Char) : List (List Char) :=
  let parts := Text.cut '.' name
  if 1 < parts.length ∧ parts.getLast?.map List.isEmpty = some true then parts.dropLast else parts

/-- Whether the last part of a name is a number. -/
def endsInNumber (name : List Char) : Bool :=
  match (partsOf name).getLast? with
  | none => false
  | some last => (!last.isEmpty && last.all Char.isDigit) || (number? last).isSome

/-- The text of an address of four bytes. -/
def renderFour (n : Nat) : List Char :=
  let byte (i : Nat) := (Nat.repr (n / Nat.pow 256 i % 256)).toList
  byte 3 ++ '.' :: byte 2 ++ '.' :: byte 1 ++ '.' :: byte 0

/-- The address of four bytes that a name stands for.  Every part but the last is a byte, and the
last part fills the rest. -/
def four? (name : List Char) : Option (List Char) := do
  let numbers ← (partsOf name).mapM number?
  let last ← numbers.getLast?
  let first := numbers.dropLast
  if 3 < first.length ∨ first.any (255 < ·) ∨ Nat.pow 256 (4 - first.length) ≤ last then none
  else
    let place (i : Nat) : Nat := Nat.pow 256 (3 - i)
    some (renderFour (last + ((List.range first.length).map fun i =>
      first.getD i 0 * place i).foldl (· + ·) 0))

/-! ## 2. Addresses of sixteen bytes -/

/-- The value of one to four digits of base sixteen. -/
def piece? (cs : List Char) : Option Nat :=
  if 4 < cs.length then none else Text.numberIn? 16 cs

/-- A byte in base ten, without zeros in front. -/
def byte? (cs : List Char) : Option Nat :=
  if cs.isEmpty ∨ 3 < cs.length ∨ ¬ cs.all Char.isDigit ∨ (1 < cs.length ∧ cs.head? = some '0') then
    none
  else
    let n := cs.foldl (fun n c => n * 10 + (c.toNat - 48)) 0
    if n < 256 then some n else none

/-- The pieces between colons.  The last one may be an address of four bytes, which makes two. -/
def pieces? (isLast : Bool) : List (List Char) → Option (List Nat)
  | [] => some []
  | [cs] =>
    match isLast, Text.cut '.' cs with
    | true, [a, b, c, d] => do
      some [(← byte? a) * 256 + (← byte? b), (← byte? c) * 256 + (← byte? d)]
    | _, _ => (piece? cs).map fun n => [n]
  | cs :: rest => do some ((← piece? cs) :: (← pieces? isLast rest))

/-- A text before its first double colon, and the text behind it. -/
def splitGap (done : List Char) : List Char → List Char × Option (List Char)
  | ':' :: ':' :: rest => (done.reverse, some rest)
  | c :: rest => splitGap (c :: done) rest
  | [] => (done.reverse, none)

/-- The eight pieces of an address of sixteen bytes; a double colon stands for pieces of zero. -/
def sixteen? (cs : List Char) : Option (List Nat) :=
  let side (isLast : Bool) (cs : List Char) : Option (List Nat) :=
    if cs.isEmpty then some [] else pieces? isLast (Text.cut ':' cs)
  match splitGap [] cs with
  | (all, none) => (side true all).bind fun ps => if ps.length = 8 then some ps else none
  | (front, some back) => do
    let front ← side false front
    let back ← side true back
    let zeros := 8 - (front.length + back.length)
    if zeros = 0 then none else some (front ++ List.replicate zeros 0 ++ back)

/-- The first of the longest runs of zeros, as its place and its length. -/
def longestGap (pieces : List Nat) : Nat × Nat :=
  let run (i : Nat) : Nat := ((pieces.drop i).takeWhile (· == 0)).length
  (List.range pieces.length).foldl
    (fun best i => if best.2 < run i then (i, run i) else best) (0, 0)

/-- The text of an address of sixteen bytes; the longest run of zeros, if there are two or more, is
a double colon. -/
def renderSixteen (pieces : List Nat) : List Char :=
  let render (ps : List Nat) : List Char :=
    Text.joinWith ':' (ps.map fun n => Nat.toDigits 16 n)
  let (start, length) := longestGap pieces
  let body :=
    if length < 2 then render pieces
    else render (pieces.take start) ++ ':' :: ':' :: render (pieces.drop (start + length))
  '[' :: body ++ [']']

/-! ## 3. Names -/

/-- Characters that no name of the network has. -/
def isForbiddenInName (c : Char) : Bool :=
  c.toNat ≤ 32 || c.toNat == 127 ||
    ['#', '%', '/', ':', '<', '>', '?', '@', '[', '\\', ']', '^', '|'].contains c

/-- Characters that no other host has. -/
def isForbidden (c : Char) : Bool :=
  ['\x00', '\t', '\n', '\r', ' ', '#', '/', ':', '<', '>', '?', '@', '[', '\\', ']', '^',
    '|'].contains
    c

/-- The host of a scheme that everybody knows. -/
def known? (cs : List Char) : Option (List Char) :=
  match cs with
  | '[' :: rest =>
    if rest.getLast? = some ']' then (sixteen? rest.dropLast).map renderSixteen else none
  | _ => do
    let name ← Name.encode? (← decode? cs)
    if name.isEmpty ∨ name.any isForbiddenInName then none
    else if endsInNumber name then four? name
    else some name

/-- The host of any other scheme. -/
def other? (cs : List Char) : Option (List Char) :=
  match cs with
  | '[' :: rest =>
    if rest.getLast? = some ']' then (sixteen? rest.dropLast).map renderSixteen else none
  | _ => if cs.any isForbidden then none else some (encode isControl cs)

end SchemaMock.Url.Host
