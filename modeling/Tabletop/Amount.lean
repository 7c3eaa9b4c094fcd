/-!
# Tabletop — Amount

The signed amounts the rules count with: modifiers, totals, hit points, armour classes.  An amount
lies between `Amount.least` and `Amount.greatest`; `Amount.clamp` brings any integer into that
range, and `Amount.Fits` says that an integer is in it already.
-/

namespace Tabletop

namespace Amount

/-- The least amount, `-2^31`. -/
def least : Int := -2147483648

/-- The greatest amount, `2^31 - 1`. -/
def greatest : Int := 2147483647

/-- An integer that is an amount. -/
def Fits (x : Int) : Prop := least ≤ x ∧ x ≤ greatest

instance (x : Int) : Decidable (Fits x) := inferInstanceAs (Decidable (_ ∧ _))

/-- The amount nearest to an integer. -/
def clamp (x : Int) : Int := max least (min x greatest)

theorem clamp_of_fits {x : Int} (h : Fits x) : clamp x = x := by
  unfold Fits at h
  unfold clamp
  omega

theorem fits_clamp (x : Int) : Fits (clamp x) := by
  unfold Fits clamp least greatest
  omega

/-- A count as an amount, the greatest amount standing in for what is larger. -/
def ofCount (n : Nat) : Int := min (n : Int) greatest

/-- A sum of two amounts that stays in range. -/
def add (x y : Int) : Int := clamp (x + y)

/-- A sum of two amounts, absent when it leaves the range. -/
def add? (x y : Int) : Option Int := if Fits (x + y) then some (x + y) else none

/-- An amount with its sign always written. -/
def signed (x : Int) : String := if 0 ≤ x then s!"+{x}" else toString x

end Amount

namespace Count

/-- The greatest count of dice, sides, feet, rounds or levels, `2^32 - 1`. -/
def greatest : Nat := 4294967295

end Count

end Tabletop
