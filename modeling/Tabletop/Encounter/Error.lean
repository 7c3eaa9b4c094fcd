import Tabletop.Creature.Combatant

/-!
# Tabletop — Encounter — Phases and errors

The phases of a fight, and why an operation on it is refused.
-/

namespace Tabletop

/-- The phases of a fight.  It moves from `inactive` by way of `initiative` to `active`, back and
forth between `active` and `paused`, and from anywhere to `ended`. -/
inductive Phase where
  /-- Not begun. -/
  | inactive
  /-- Initiative is being rolled. -/
  | initiative
  /-- Turns are taken. -/
  | active
  /-- Turns are suspended. -/
  | paused
  /-- Over. -/
  | ended
  deriving DecidableEq, Repr, Inhabited

/-- The name of a phase. -/
def Phase.name : Phase → String
  | .inactive => "inactive"
  | .initiative => "initiative"
  | .active => "active"
  | .paused => "paused"
  | .ended => "ended"

instance : ToString Phase := ⟨Phase.name⟩

/-- What an operation takes and there is no more of. -/
inductive Shortage where
  /-- What is left of a combatant's turn. -/
  | turn (e : Exhausted)
  /-- Rounds: the last that can be counted is being fought. -/
  | rounds
  deriving DecidableEq, Repr

/-- The message for something that there is no more of. -/
def Shortage.message : Shortage → String
  | .turn e => e.message
  | .rounds => "there is no round left to begin"

/-- Why an operation on an encounter is refused. -/
inductive EncounterError where
  /-- No combatant has the identity. -/
  | unknownCombatant (id : CombatantId)
  /-- There is nothing left of what the operation takes. -/
  | exhausted (s : Shortage)
  /-- Turns are taken in an active fight only. -/
  | notActive (phase : Phase)
  /-- It is another combatant's turn, or nobody's. -/
  | notYourTurn (id : CombatantId) (current : Option CombatantId)
  /-- There is nobody to fight. -/
  | noCombatants
  /-- The fight cannot go from one phase to the other. -/
  | invalidTransition (source target : Phase)
  deriving DecidableEq, Repr

/-- The message for a refused operation. -/
def EncounterError.message : EncounterError → String
  | .unknownCombatant id => s!"unknown combatant {id}"
  | .exhausted s => s.message
  | .notActive phase => s!"combat is not active (phase: {phase})"
  | .notYourTurn id _ => s!"it is not {id}'s turn"
  | .noCombatants => "cannot start combat without combatants"
  | .invalidTransition source target => s!"cannot move combat from {source} to {target}"

end Tabletop
