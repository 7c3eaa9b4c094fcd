import Tabletop.Creature.DamageType

/-!
# Tabletop — Creature — Stat blocks

What is written down about a creature before a fight.
-/

namespace Tabletop

/-- The written attributes of a creature. -/
structure StatBlock where
  /-- Its name, which others may share. -/
  name : String
  /-- Its hit points. -/
  maxHp : Int
  /-- What an attack has to reach. -/
  armorClass : Int
  /-- What is added to its initiative. -/
  initiativeBonus : Int
  /-- A player controls it. -/
  isPlayer : Bool
  /-- What is added to its attacks. -/
  attackBonus : Int
  /-- The formula of its damage, as it is written. -/
  damageDice : String
  /-- What is added to its damage. -/
  damageBonus : Int
  /-- The kind of its damage. -/
  damageType : DamageType
  /-- The feet it may move in a turn, if that is written down. -/
  maxMovement : Option Nat
  deriving DecidableEq, Repr

namespace StatBlock

/-- The armour class of a creature where none is written down. -/
def defaultArmorClass : Int := 10

/-- The damage of a creature where none is written down. -/
def defaultDamageDice : String := "1d6"

/-- A stat block with a name, hit points and an armour class. -/
def basic (name : String) (maxHp armorClass : Int) : StatBlock :=
  { name, maxHp, armorClass, initiativeBonus := 0, isPlayer := false, attackBonus := 0
    damageDice := defaultDamageDice, damageBonus := 0, damageType := .bludgeoning
    maxMovement := none }

/-- The stat block with another weapon. -/
def withWeapon (s : StatBlock) (attackBonus : Int) (dice : String) (damageBonus : Int) :
    StatBlock :=
  { s with attackBonus, damageDice := dice, damageBonus }

end StatBlock

end Tabletop
