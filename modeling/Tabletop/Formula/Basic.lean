import Tabletop.Amount
import Tabletop.Mode

/-!
# Tabletop — Formula

A roll formula such as `4d6k3+2 advantage`: how many dice of how many sides are thrown, which of
them count, what is added, and in which mode.  A formula without dice is a plain modifier.
`Formula.render` writes the one canonical text of a formula.
-/

namespace Tabletop

/-- Which dice of a pool count. -/
inductive KeepRule where
  /-- The given number of the highest faces. -/
  | highest (count : Nat)
  /-- The given number of the lowest faces. -/
  | lowest (count : Nat)
  deriving DecidableEq, Repr

namespace KeepRule

/-- How many dice count. -/
def count : KeepRule → Nat
  | .highest n => n
  | .lowest n => n

/-- The rule as a formula spells it. -/
def spell : KeepRule → String
  | .highest n => s!"k{n}"
  | .lowest n => s!"l{n}"

end KeepRule

/-- A roll formula. -/
structure Formula where
  /-- The number of dice. -/
  count : Nat
  /-- The number of sides of each die. -/
  sides : Nat
  /-- What is added to the dice. -/
  modifier : Int
  /-- Which dice count; all of them without a rule. -/
  keep : Option KeepRule
  /-- The mode of a single twenty-sided die. -/
  mode : Mode
  deriving DecidableEq, Repr

namespace Formula

/-- The most dice a written formula may throw. -/
def maxCount : Nat := 1000

/-- The most sides a die of a written formula may have. -/
def maxSides : Nat := 1000

/-- A modifier without dice. -/
def ofModifier (modifier : Int) (mode : Mode) : Formula := ⟨0, 0, modifier, none, mode⟩

/-- One twenty-sided die and a modifier: attacks, checks and initiative. -/
def d20 (modifier : Int) (mode : Mode) : Formula := ⟨1, 20, modifier, none, mode⟩

/-- A formula that throws no dice. -/
def isModifierOnly (f : Formula) : Bool := f.count == 0

/-- A lone twenty-sided die without a keep rule, the only shape that knows modes and criticals. -/
def isSingleD20 (f : Formula) : Bool := f.count == 1 && f.sides == 20 && f.keep.isNone

/-! ### The canonical text -/

/-- A modifier behind dice: nothing for zero, otherwise a signed number. -/
def spellModifier (m : Int) : String := if m = 0 then "" else Amount.signed m

/-- The mode as a keyword behind the rest; nothing for the normal mode. -/
def spellMode : Mode → String
  | .normal => ""
  | .advantage => " advantage"
  | .disadvantage => " disadvantage"

/-- The dice of a formula with their keep rule. -/
def spellDice (f : Formula) : String :=
  s!"{f.count}d{f.sides}" ++ (f.keep.map KeepRule.spell).getD ""

/-- The canonical text of a formula. -/
def render (f : Formula) : String :=
  (if f.isModifierOnly then toString f.modifier else f.spellDice ++ spellModifier f.modifier) ++
    spellMode f.mode

instance : ToString Formula := ⟨render⟩

@[simp] theorem isModifierOnly_ofModifier (m : Int) (mode : Mode) :
    (ofModifier m mode).isModifierOnly = true := rfl

@[simp] theorem isSingleD20_d20 (m : Int) (mode : Mode) : (d20 m mode).isSingleD20 = true := rfl

@[simp] theorem isModifierOnly_d20 (m : Int) (mode : Mode) :
    (d20 m mode).isModifierOnly = false := rfl

end Formula

end Tabletop
