/-
# Digits

The values of digits, and the number that digits say in a base.
-/

namespace SchemaMock.Text

/-- The value of a digit of base sixteen in either case. -/
def hexValue? (c : Char) : Option Nat :=
  if '0' ≤ c ∧ c ≤ '9' then some (c.toNat - 48)
  else if 'a' ≤ c ∧ c ≤ 'f' then some (c.toNat - 87)
  else if 'A' ≤ c ∧ c ≤ 'F' then some (c.toNat - 55)
  else none

/-- The value of a digit of a base up to sixteen. -/
def digitIn? (base : Nat) (c : Char) : Option Nat := (hexValue? c).filter (· < base)

/-- The number that digits say in a base; there must be one at least. -/
def numberIn? (base : Nat) (cs : List Char) : Option Nat :=
  if cs.isEmpty then none
  else (cs.mapM (digitIn? base)).map fun ds => ds.foldl (fun n d => n * base + d) 0

/-- The character whose number digits of base sixteen say. -/
def charOfHex? (cs : List Char) : Option Char :=
  match numberIn? 16 cs with
  | some n => if n.isValidChar then some (Char.ofNat n) else none
  | none => none

end SchemaMock.Text
