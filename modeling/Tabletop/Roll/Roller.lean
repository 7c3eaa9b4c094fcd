import Tabletop.Formula.Parser
import Tabletop.Roll.Throw

/-!
# Tabletop — Roll — Roller

A roller owns the dice and remembers every roll, oldest first.  Rolling a text that is no formula
draws no dice and is remembered as a roll with an error.
-/

namespace Tabletop

/-- Dice, and the rolls they have given. -/
structure Roller where
  /-- The dice. -/
  dice : Dice
  /-- The rolls so far, oldest first. -/
  history : Array Roll
  deriving DecidableEq

namespace Roller

/-- A roller that has not rolled. -/
def ofDice (dice : Dice) : Roller := ⟨dice, #[]⟩

/-- A roller after a roll that left the dice in the given state. -/
def remember (r : Roller) (rolled : Roll × Dice) : Roll × Roller :=
  (rolled.1, { r with dice := rolled.2, history := r.history.push rolled.1 })

/-- A formula, rolled. -/
def rollFormula (r : Roller) (f : Formula) (label : Option String) : Roll × Roller :=
  r.remember (f.rollWith f.render label r.dice)

/-- A text, read as a formula and rolled. -/
def roll (r : Roller) (text : String) (label : Option String) : Roll × Roller :=
  match Formula.parse text with
  | .ok f => r.remember (f.rollWith (String.ofList (Text.trim text.toList)) label r.dice)
  | .error e => r.remember (Roll.failed text label e.message, r.dice)

/-- The last rolls, `limit` of them or all, oldest first. -/
def recent (r : Roller) (limit : Option Nat) : List Roll :=
  match limit with
  | some n => r.history.toList.drop (r.history.size - n)
  | none => r.history.toList

/-- The roller without its memory. -/
def forget (r : Roller) : Roller := { r with history := #[] }

@[simp] theorem history_remember (r : Roller) (rolled : Roll × Dice) :
    (r.remember rolled).2.history = r.history.push rolled.1 := rfl

@[simp] theorem dice_remember (r : Roller) (rolled : Roll × Dice) :
    (r.remember rolled).2.dice = rolled.2 := rfl

end Roller

end Tabletop
