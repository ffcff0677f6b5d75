/-
# Patterns and where they match

A pattern is a tree, and its meaning is a relation between the places of a text: which places a
match can end at, if it begins at given ones.  A place is a gap between two characters, before the
first or behind the last, so a text of `n` characters has `n + 1` of them, and a set of places is a
list of `n + 1` truth values.

A pattern occurs in a text when a match can end anywhere after having begun anywhere.  Which of
several matches is preferred plays no part in that, so lazy and greedy repetitions are the same
pattern, and groups leave no trace.
-/
import SchemaMock.Pattern.CharSet

namespace SchemaMock

/-! ## 1. Places -/

/-- A gap in a text: the character before it and the character behind it. -/
structure Place where
  before : Option Char
  after : Option Char

namespace Place

/-- The places of a text that a character may precede. -/
def ofText (before : Option Char) : List Char → List Place
  | [] => [⟨before, none⟩]
  | c :: rest => ⟨before, some c⟩ :: ofText (some c) rest

/-- Whether there is a character, and it is one of a set. -/
def inSet (s : CharSet) (c : Option Char) : Bool := c.any fun c => s.contains c

end Place

/-- A condition on a place. -/
inductive Assertion where
  | textStart
  | textEnd
  | lineStart
  | lineEnd
  /-- The start of a line where a carriage return ends lines too. -/
  | lineStartAnyBreak
  /-- The end of a line where a carriage return ends lines too. -/
  | lineEndAnyBreak
  | wordBoundary
  | noWordBoundary
  | wordStart
  | wordEnd
  /-- No word ends here. -/
  | wordStartHalf
  /-- No word begins here. -/
  | wordEndHalf

/-- Whether a place meets a condition. -/
def Assertion.holds (a : Assertion) (place : Place) : Bool :=
  let wordBefore := Place.inSet .word place.before
  let wordAfter := Place.inSet .word place.after
  match a with
  | textStart => place.before.isNone
  | textEnd => place.after.isNone
  | lineStart => place.before.isNone || place.before == some '\n'
  | lineEnd => place.after.isNone || place.after == some '\n'
  | lineStartAnyBreak =>
    place.before.isNone || place.before == some '\n'
      || (place.before == some '\r' && place.after != some '\n')
  | lineEndAnyBreak =>
    place.after.isNone || place.after == some '\r'
      || (place.after == some '\n' && place.before != some '\r')
  | wordBoundary => wordBefore != wordAfter
  | noWordBoundary => wordBefore == wordAfter
  | wordStart => !wordBefore && wordAfter
  | wordEnd => wordBefore && !wordAfter
  | wordStartHalf => !wordBefore
  | wordEndHalf => !wordAfter

/-! ## 2. Patterns -/

/-- What a pattern asks for. -/
inductive Pattern where
  /-- Nothing, which is everywhere. -/
  | empty
  /-- One character of a set. -/
  | one (s : CharSet)
  /-- A place that meets a condition. -/
  | assert (a : Assertion)
  | seq (p q : Pattern)
  | alt (p q : Pattern)
  /-- `p`, `low` times at least. -/
  | atLeast (low : Nat) (p : Pattern)
  /-- `p`, `low` times at least and `extra` times more at most. -/
  | between (low extra : Nat) (p : Pattern)

namespace Pattern

/-- Patterns one after another. -/
def seqs : List Pattern → Pattern
  | [] => empty
  | [p] => p
  | p :: rest => seq p (seqs rest)

/-- Patterns of which one is asked for. -/
def alts : List Pattern → Pattern
  | [] => empty
  | [p] => p
  | p :: rest => alt p (alts rest)

/-- The number of characters and conditions of a pattern with its repetitions written out. -/
def size : Pattern → Nat
  | empty => 1
  | one _ => 1
  | assert _ => 1
  | seq p q => p.size + q.size
  | alt p q => p.size + q.size
  | atLeast low p => (low + 1) * p.size
  | between low extra p => (low + extra) * p.size + 1

/-! ## 3. Sets of places -/

/-- The places of two sets. -/
def join (a b : List Bool) : List Bool := List.zipWith (· || ·) a b

/-- A step, taken a number of times. -/
def stepTimes (step : List Bool → List Bool) : Nat → List Bool → List Bool
  | 0, here => here
  | n + 1, here => stepTimes step n (step here)

/-- The places that a step reaches from a set when it is taken any number of times up to `n`. -/
def stepUpTo (step : List Bool → List Bool) : Nat → List Bool → List Bool
  | 0, here => here
  | n + 1, here =>
    let next := join here (step here)
    if next = here then here else stepUpTo step n next

/-- The places behind those that a character of a set follows. -/
def advance (text : List Char) (s : CharSet) (here : List Bool) : List Bool :=
  false :: List.zipWith (fun on c => on && s.contains c) here text

/-- The places of a set that meet a condition. -/
def keep (text : List Char) (a : Assertion) (here : List Bool) : List Bool :=
  List.zipWith (fun on place => on && a.holds place) here (Place.ofText none text)

/-! ## 4. Meaning -/

/-- The places of a text at which a match can end that begins at one of a set.  A step never goes
back, so as many steps as the text has characters reach all that any number of them does. -/
def ends (text : List Char) : Pattern → List Bool → List Bool
  | empty, here => here
  | one s, here => advance text s here
  | assert a, here => keep text a here
  | seq p q, here => ends text q (ends text p here)
  | alt p q, here => join (ends text p here) (ends text q here)
  | atLeast low p, here =>
    stepUpTo (fun on => ends text p on) text.length (stepTimes (fun on => ends text p on) low here)
  | between low extra p, here =>
    stepUpTo (fun on => ends text p on) extra (stepTimes (fun on => ends text p on) low here)

/-- Whether a pattern occurs in a text. -/
def occursIn (p : Pattern) (text : String) : Bool :=
  (ends text.toList p (List.replicate (text.toList.length + 1) true)).any id

end Pattern

end SchemaMock
