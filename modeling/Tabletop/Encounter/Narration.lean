import Tabletop.Creature.Combatant
import Tabletop.Roll.Basic

/-!
# Tabletop — Encounter — Narration

The lines in which the log tells what happened.
-/

namespace Tabletop.Narration

/-- The faces of an attack roll and the one that counts. -/
def attackDice (faces : List Nat) (kept : Nat) : String :=
  match faces with
  | [first, second] => s!"d20={first} vs d20={second} (keep={kept})"
  | _ => s!"d20={kept} (keep={kept})"

/-- What came of an attack roll. -/
def attackVerdict (roll : Roll) (hit critical : Bool) : String :=
  if critical then "CRIT!"
  else if hit then "HIT"
  else if roll.criticalFail then "MISS (NAT1)"
  else if roll.criticalHit then "MISS (NAT20)"
  else "MISS"

/-- The line for an attack roll. -/
def attackLine (attacker target : String) (roll : Roll) (hit critical : Bool)
    (armorClass : Int) : String :=
  let dice := attackDice roll.faces (roll.kept.headD 0)
  let verdict := attackVerdict roll hit critical
  let mark := if hit then "✔" else "✖"
  s!"[ATTACK][{attacker} → {target}] {dice} → {verdict} to-hit={roll.total} vs AC={armorClass} " ++
    mark

/-- The line for the damage of a hit. -/
def damageLine (attacker dice : String) (bonus : Int) (critical : Bool) (taken : Int)
    (damageType : DamageType) : String :=
  let rolled := if critical then s!"crit: rolled 2×({dice})" else s!"rolled {dice}"
  s!"[DMG][{attacker}] {rolled} {Amount.signed bonus} = {taken} [{damageType}]"

/-- The line for hit points that changed. -/
def hpLine (name : String) (before now : Int) : String := s!"[HP][{name}] {before} → {now}"

/-- The line for a combatant that went down. -/
def stateLine (name : String) (dead : Bool) : String :=
  s!"[STATE][{name}] drops to 0 HP → " ++ if dead then "Dead" else "Unconscious"

/-- The line for a spell. -/
def spellLine (caster spell : String) (level : Nat) (targets : List String) : String :=
  s!"[SPELL][{caster}] casts {spell} (level {level})" ++
    if targets.isEmpty then "" else " at " ++ ", ".intercalate targets

/-- The line for a move. -/
def moveLine (name : String) (feet left : Nat) : String :=
  s!"[MOVE][{name}] moves {feet} ft ({left} ft left)"

/-- Lines on one line. -/
def join (lines : List String) : String := " | ".intercalate lines

end Tabletop.Narration
