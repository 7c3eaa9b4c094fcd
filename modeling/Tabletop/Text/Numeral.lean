import Tabletop.Amount
import Tabletop.Text.DecimalDigit

/-!
# Tabletop — Text — Numerals

Numbers read from text: decimal digits of ASCII, for an amount with an optional sign in front.
Leading zeros are allowed; a number out of its range is no number.
-/

namespace Tabletop.Text

/-- The value of a digit of ASCII. -/
def digitValue (c : Char) : Nat := c.toNat - 0x30

/-- The value of a run of digits of ASCII. -/
def digitsValue (ds : List Char) : Nat := ds.foldl (fun n d => 10 * n + digitValue d) 0

/-- The number that a non-empty run of digits of ASCII spells. -/
def readNat? (ds : List Char) : Option Nat :=
  if ds ≠ [] ∧ ds.all isAsciiDigit then some (digitsValue ds) else none

/-- The integer that an optional sign and digits spell. -/
def readInt? : List Char → Option Int
  | '-' :: ds => (readNat? ds).map fun n => -(n : Int)
  | '+' :: ds => (readNat? ds).map fun n => (n : Int)
  | ds => (readNat? ds).map fun n => (n : Int)

/-- The count that digits spell. -/
def readCount? (ds : List Char) : Option Nat := (readNat? ds).filter (· ≤ Count.greatest)

/-- The amount that an optional sign and digits spell. -/
def readAmount? (cs : List Char) : Option Int := (readInt? cs).filter (decide <| Amount.Fits ·)

end Tabletop.Text
