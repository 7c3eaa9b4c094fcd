import Tabletop.Roll.Roller

/-!
# Tabletop — Roll — Checks

A check is a roll of a twenty-sided die against a difficulty class.
-/

namespace Tabletop

/-- The outcome of a check. -/
structure Check where
  /-- The roll. -/
  roll : Roll
  /-- Its total. -/
  total : Int
  /-- The difficulty class. -/
  difficulty : Int
  /-- The total reaches the difficulty class. -/
  passed : Bool
  deriving DecidableEq, Repr

namespace Roller

/-- A check with a modifier against a difficulty class, remembered under a label. -/
def check (r : Roller) (modifier difficulty : Int) (mode : Mode) (label : Option String) :
    Check × Roller :=
  let rolled := r.rollFormula (Formula.d20 modifier mode) label
  (⟨rolled.1, rolled.1.total, difficulty, decide (difficulty ≤ rolled.1.total)⟩, rolled.2)

end Roller

end Tabletop
