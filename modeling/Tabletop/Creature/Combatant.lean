import Tabletop.Creature.Condition
import Tabletop.Creature.Health
import Tabletop.Creature.StatBlock

/-!
# Tabletop — Creature — Combatants

A creature in a fight: its health, its conditions, and what it may still do in its turn.  The
operations act on one combatant alone; the encounter decides when they happen.
-/

namespace Tabletop

/-- The identity of a combatant.  Names may be shared, identities are not. -/
structure CombatantId where
  /-- The number of the combatant. -/
  number : Nat
  deriving DecidableEq, Repr

instance : ToString CombatantId := ⟨fun id => s!"c{id.number}"⟩

/-- What an action takes out of a turn. -/
inductive ActionKind where
  /-- The action. -/
  | action
  /-- The bonus action. -/
  | bonusAction
  /-- The reaction. -/
  | reaction
  /-- Feet of movement. -/
  | movement
  /-- Nothing. -/
  | freeAction
  deriving DecidableEq, Repr, Inhabited

namespace ActionKind

/-- The words for a kind of action. -/
def words : ActionKind → String
  | .action => "action"
  | .bonusAction => "bonus action"
  | .reaction => "reaction"
  | .movement => "movement"
  | .freeAction => "free action"

end ActionKind

/-- A combatant asked for more than its turn has left. -/
structure Exhausted where
  /-- The name of the combatant. -/
  name : String
  /-- What it has no more of. -/
  kind : ActionKind
  deriving DecidableEq, Repr

/-- The message for a combatant that asked for too much. -/
def Exhausted.message (e : Exhausted) : String := s!"{e.name} has no {e.kind.words} available"

/-- What damage did to a combatant. -/
structure DamageOutcome where
  /-- The damage taken. -/
  taken : Int
  /-- The kind of damage. -/
  damageType : DamageType
  /-- The hit points left. -/
  hp : Int
  /-- The combatant is unconscious. -/
  unconscious : Bool
  /-- The combatant is dead. -/
  dead : Bool
  /-- This damage took the combatant from its feet. -/
  dropped : Bool
  deriving DecidableEq, Repr

/-- What healing did to a combatant. -/
structure HealOutcome where
  /-- The hit points restored. -/
  restored : Int
  /-- The hit points it has now. -/
  hp : Int
  /-- The healing woke the combatant. -/
  revived : Bool
  deriving DecidableEq, Repr

/-- A creature in a fight. -/
structure Combatant where
  /-- Its identity. -/
  id : CombatantId
  /-- Its name. -/
  name : String
  /-- Its hit points and life state. -/
  health : Health
  /-- What an attack has to reach. -/
  armorClass : Int
  /-- What is added to its initiative. -/
  initiativeBonus : Int
  /-- Its initiative, once it has been rolled. -/
  initiative : Option Int
  /-- It has its action. -/
  hasAction : Bool
  /-- It has its bonus action. -/
  hasBonusAction : Bool
  /-- It has its reaction. -/
  hasReaction : Bool
  /-- The feet it may still move. -/
  movement : Nat
  /-- The feet it may move in a turn. -/
  maxMovement : Nat
  /-- What is added to its attacks. -/
  attackBonus : Int
  /-- The formula of its damage, as it is written. -/
  damageDice : String
  /-- What is added to its damage. -/
  damageBonus : Int
  /-- The kind of its damage. -/
  damageType : DamageType
  /-- Its conditions. -/
  conditions : ConditionSet
  /-- A player controls it, so that it falls unconscious where others die. -/
  isPlayer : Bool
  deriving BEq, Repr

namespace Combatant

/-- The feet a combatant may move in a turn where nothing is written down. -/
def defaultMovement : Nat := 30

/-- A fresh combatant with the attributes of a stat block. -/
def ofStatBlock (id : CombatantId) (s : StatBlock) : Combatant :=
  let feet := s.maxMovement.getD defaultMovement
  { id, name := s.name, health := .full s.maxHp, armorClass := s.armorClass
    initiativeBonus := s.initiativeBonus, initiative := none
    hasAction := true, hasBonusAction := true, hasReaction := true
    movement := feet, maxMovement := feet
    attackBonus := s.attackBonus, damageDice := s.damageDice, damageBonus := s.damageBonus
    damageType := s.damageType, conditions := .empty, isPlayer := s.isPlayer }

/-- The combatant is dead. -/
def isDead (c : Combatant) : Bool := c.health.state == .dead

/-- The combatant is unconscious. -/
def isUnconscious (c : Combatant) : Bool := c.health.isUnconscious

/-- The combatant is not dead and has hit points. -/
def isAlive (c : Combatant) : Bool := c.health.isAlive

/-! ### Health -/

/-- The combatant takes damage.  Without a player it dies at 0 hit points. -/
def takeDamage (c : Combatant) (amount : Int) (damageType : DamageType) :
    DamageOutcome × Combatant :=
  let hurt := c.health.damage amount !c.isPlayer
  ({ taken := hurt.1.1, damageType, hp := hurt.2.current
     unconscious := hurt.2.isUnconscious, dead := hurt.2.state == .dead, dropped := hurt.1.2 },
    { c with health := hurt.2 })

/-- The combatant is healed. -/
def heal (c : Combatant) (amount : Int) : HealOutcome × Combatant :=
  let healed := c.health.heal amount
  (⟨healed.1.1, healed.2.current, healed.1.2⟩, { c with health := healed.2 })

/-- A dying combatant is made stable. -/
def stabilize (c : Combatant) : Bool × Combatant :=
  (c.health.stabilize.1, { c with health := c.health.stabilize.2 })

/-- The combatant makes a death save with a natural roll. -/
def deathSave (c : Combatant) (natural : Nat) : DeathSaveOutcome × Combatant :=
  ((c.health.deathSave natural).1, { c with health := (c.health.deathSave natural).2 })

/-! ### Conditions -/

/-- A condition is applied; gives the one it replaces. -/
def addCondition (c : Combatant) (condition : Condition) : Option Condition × Combatant :=
  ((c.conditions.insert condition).1, { c with conditions := (c.conditions.insert condition).2 })

/-- The condition of a name is taken away; gives it. -/
def removeCondition (c : Combatant) (name : String) : Option Condition × Combatant :=
  ((c.conditions.remove name).1, { c with conditions := (c.conditions.remove name).2 })

/-- The conditions grow one round older; gives the names of those that ended. -/
def ageConditions (c : Combatant) : List String × Combatant :=
  (c.conditions.age.1, { c with conditions := c.conditions.age.2 })

/-! ### What a turn allows -/

/-- A new turn: everything is available again. -/
def resetTurn (c : Combatant) : Combatant :=
  { c with
    hasAction := true, hasBonusAction := true, hasReaction := true, movement := c.maxMovement }

/-- The combatant has what a kind of action takes. -/
def canSpend (c : Combatant) : ActionKind → Bool
  | .action => c.hasAction
  | .bonusAction => c.hasBonusAction
  | .reaction => c.hasReaction
  | .movement => true
  | .freeAction => true

/-- The combatant after a kind of action.  Movement is spent by the foot, and free actions take
nothing. -/
def charge (c : Combatant) : ActionKind → Combatant
  | .action => { c with hasAction := false }
  | .bonusAction => { c with hasBonusAction := false }
  | .reaction => { c with hasReaction := false }
  | .movement => c
  | .freeAction => c

/-- The combatant spends what a kind of action takes. -/
def spend (c : Combatant) (kind : ActionKind) : Except Exhausted Combatant :=
  if c.canSpend kind then .ok (c.charge kind) else .error ⟨c.name, kind⟩

/-- The combatant moves some feet. -/
def move (c : Combatant) (feet : Nat) : Except Exhausted Combatant :=
  if feet ≤ c.movement then .ok { c with movement := c.movement - feet }
  else .error ⟨c.name, .movement⟩

@[simp] theorem isAlive_resetTurn (c : Combatant) : c.resetTurn.isAlive = c.isAlive := rfl

@[simp] theorem id_resetTurn (c : Combatant) : c.resetTurn.id = c.id := rfl

@[simp] theorem isAlive_ageConditions (c : Combatant) : c.ageConditions.2.isAlive = c.isAlive := rfl

@[simp] theorem id_ageConditions (c : Combatant) : c.ageConditions.2.id = c.id := rfl

end Combatant

end Tabletop
