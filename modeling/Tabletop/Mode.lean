/-!
# Tabletop — Mode

Advantage and disadvantage on a twenty-sided die.  The two cancel when they meet (`Mode.combine`),
and `Mode.normal` adds nothing.  Several circumstances are taken one after the other
(`Mode.combineAll`): what has cancelled is forgotten, so that a third one counts again.
-/

namespace Tabletop

/-- How a twenty-sided die is thrown. -/
inductive Mode where
  /-- One die. -/
  | normal
  /-- Two dice, the better one counts. -/
  | advantage
  /-- Two dice, the worse one counts. -/
  | disadvantage
  deriving DecidableEq, Repr, Inhabited

namespace Mode

/-- The mode two circumstances give: one alone decides, both together cancel. -/
def ofFlags (advantage disadvantage : Bool) : Mode :=
  match advantage, disadvantage with
  | true, false => .advantage
  | false, true => .disadvantage
  | _, _ => .normal

/-- Two modes at once: opposite ones cancel. -/
def combine : Mode → Mode → Mode
  | .disadvantage, .advantage => .normal
  | .advantage, .disadvantage => .normal
  | .normal, other => other
  | .advantage, _ => .advantage
  | .disadvantage, _ => .disadvantage

/-- The mode of several circumstances, taken one after the other. -/
def combineAll (modes : List Mode) : Mode := modes.foldl combine .normal

/-- The name of a mode. -/
def name : Mode → String
  | .normal => "normal"
  | .advantage => "advantage"
  | .disadvantage => "disadvantage"

@[simp] theorem normal_combine (m : Mode) : combine .normal m = m := by cases m <;> rfl

@[simp] theorem combine_normal (m : Mode) : combine m .normal = m := by cases m <;> rfl

theorem combine_comm (m n : Mode) : combine m n = combine n m := by cases m <;> cases n <;> rfl

end Mode

end Tabletop
