/-
# Sets of code points, and maps between them

Character classes and case maps are data of a standard.  They are kept as text, in the shortest form
that a person can still read, and are taken apart once:

* `41-5A` stands for the code points from `41` to `5A` in base sixteen, and `100-12E/2` for every
  second one from `100` to `12E`;
* `41-5A>61` maps the first of them to `61`, the second to `62`, and so on; `DF>53+53` maps one code
  point to two.
-/
import SchemaMock.Text.Pieces

namespace SchemaMock.Text

/-! ## 1. Sets -/

/-- Code points in equal steps. -/
structure Span where
  first : Nat
  last : Nat
  step : Nat

/-- Whether a code point is one of a span. -/
def Span.contains (s : Span) (n : Nat) : Bool :=
  s.first ≤ n && n ≤ s.last && (n - s.first) % s.step == 0

/-- A number in base sixteen, written with capitals. -/
def hexNumber (cs : List Char) : Nat :=
  cs.foldl (fun n c => n * 16 + (if c.isDigit then c.toNat - 48 else c.toNat - 55)) 0

/-- The span that an entry of a table stands for. -/
def Span.ofEntry (entry : List Char) : Span :=
  let (range, step) := splitFirst '/' entry
  let (first, last) := splitFirst '-' range
  ⟨hexNumber first, hexNumber (last.getD first), (step.map hexNumber).getD 1⟩

/-- The entries of a table's text. -/
def tableEntries (text : String) : List (List Char) :=
  (cut ' ' (text.toList.map fun c => if c = '\n' then ' ' else c)).filter fun e => !e.isEmpty

/-- A set of code points. -/
structure CodePoints where
  spans : Array Span

namespace CodePoints

/-- The set that a table's text stands for. -/
def ofText (text : String) : CodePoints :=
  ⟨((tableEntries text).map Span.ofEntry).toArray⟩

/-- Whether a character is in the set. -/
def contains (s : CodePoints) (c : Char) : Bool := s.spans.any fun span => span.contains c.toNat

end CodePoints

/-! ## 2. Maps -/

/-- A span whose code points go to others, in the same steps; the first of them goes to the first of
`targets`, and what follows in `targets` comes behind each. -/
structure Shift where
  source : Span
  targets : List Nat

/-- The map entry that an entry of a table stands for. -/
def Shift.ofEntry (entry : List Char) : Shift :=
  let (source, targets) := splitFirst '>' entry
  ⟨Span.ofEntry source, (cut '+' (targets.getD [])).map hexNumber⟩

/-- The characters that a code point of the span goes to. -/
def Shift.apply (s : Shift) (n : Nat) : List Char :=
  match s.targets with
  | [] => []
  | target :: rest => Char.ofNat (target + (n - s.source.first)) :: rest.map Char.ofNat

/-- A map between code points. -/
structure CodePointMap where
  shifts : Array Shift

namespace CodePointMap

/-- The map that a table's text stands for. -/
def ofText (text : String) : CodePointMap :=
  ⟨((tableEntries text).map Shift.ofEntry).toArray⟩

/-- Where a character goes, if it is moved. -/
def get? (m : CodePointMap) (c : Char) : Option (List Char) :=
  (m.shifts.find? fun s => s.source.contains c.toNat).map fun s => s.apply c.toNat

/-- The characters that go to `c`. -/
def preimage (m : CodePointMap) (c : Char) : List Char :=
  m.shifts.toList.flatMap fun s =>
    let target := s.targets.headD 0
    let n := s.source.first + (c.toNat - target)
    if target ≤ c.toNat ∧ s.source.contains n then [Char.ofNat n] else []

end CodePointMap

end SchemaMock.Text
