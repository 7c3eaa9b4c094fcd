import Tabletop.Creature.Combatant

/-!
# Tabletop — Encounter — Settings

The house rules of a fight.
-/

namespace Tabletop

/-- When conditions grow older. -/
inductive ConditionTiming where
  /-- Those of every combatant, whenever a new round begins. -/
  | roundEnd
  /-- Those of a combatant, whenever its turn comes. -/
  | turnStart
  deriving DecidableEq, Repr, Inhabited

/-- The house rules of a fight. -/
structure Settings where
  /-- The seed of the dice; without one they are thrown anew each time. -/
  seed : Option Nat
  /-- The turns of combatants that are down are passed over. -/
  skipFallen : Bool
  /-- When conditions grow older. -/
  conditionTiming : ConditionTiming
  /-- The feet a combatant may move where its stat block says nothing. -/
  defaultMovement : Nat
  deriving DecidableEq, Repr

/-- The rules where nothing else is said. -/
def Settings.standard : Settings := ⟨none, true, .roundEnd, Combatant.defaultMovement⟩

end Tabletop
