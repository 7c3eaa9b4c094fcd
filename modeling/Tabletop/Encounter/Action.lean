import Tabletop.Encounter.Basic
import Tabletop.Encounter.Narration

/-!
# Tabletop — Encounter — Actions

What combatants do in their turns.  Every action takes what its kind takes out of the turn and is
recorded in the log.  An attack rolls against the armour class of its target; a hit rolls the
damage dice once, or twice if it is critical, and adds the damage bonus once.
-/

namespace Tabletop

/-- An attack that was made. -/
structure Attack where
  /-- Its number in the log. -/
  actionId : ActionId
  /-- Who attacked. -/
  attacker : CombatantId
  /-- Who was attacked. -/
  target : CombatantId
  /-- The roll reached the armour class. -/
  hit : Bool
  /-- It hit with a natural 20. -/
  criticalHit : Bool
  /-- The roll was a natural 1. -/
  criticalFail : Bool
  /-- The attack roll. -/
  attackRoll : Roll
  /-- The rolls for damage: one for a hit, two for a critical one, none for a miss. -/
  damageRolls : List Roll
  /-- What was added to the damage. -/
  damageBonus : Int
  /-- The damage dealt. -/
  totalDamage : Int
  /-- What the damage did to the target. -/
  damage : Option DamageOutcome
  /-- The hit points of the target after it. -/
  targetHp : Int
  /-- The hit points the target can have. -/
  targetMaxHp : Int
  /-- The attack in words. -/
  description : String
  deriving DecidableEq, Repr

/-- A spell that was cast. -/
structure SpellCast where
  /-- Its number in the log. -/
  actionId : ActionId
  /-- Who cast it. -/
  caster : CombatantId
  /-- What it is called. -/
  spell : String
  /-- The level at which it was cast. -/
  level : Nat
  /-- Whom it was aimed at. -/
  targets : List CombatantId
  /-- The spell in words. -/
  description : String
  deriving DecidableEq, Repr

/-- What a blow did after the attack roll. -/
structure Blow where
  /-- The rolls for damage. -/
  rolls : List Roll
  /-- The damage dealt. -/
  total : Int
  /-- What the damage did to the target. -/
  outcome : Option DamageOutcome

namespace Encounter

/-- A deed is recorded in the current round; gives the number of its entry. -/
def record (e : Encounter) (deed : Deed) : ActionId × Encounter :=
  ((e.log.record deed e.round).1, { e with log := (e.log.record deed e.round).2 })

/-- A combatant spends what a kind of action takes; gives the combatant after it. -/
def spend (e : Encounter) (id : CombatantId) (kind : ActionKind) : Outcome Combatant :=
  e.use id fun c => c.spend kind

/-- The names of combatants, in the order in which they are given. -/
def namesOf (e : Encounter) : List CombatantId → Outcome (List String)
  | [] => (.ok [], e)
  | id :: rest =>
    (e.lookup id).andThen fun c e =>
      (e.namesOf rest).andThen fun names e => (.ok (c.name :: names), e)

/-! ### Attacks -/

/-- The rolls for the damage of a hit. -/
def rollDamage (dice : String) (critical : Bool) (r : Roller) : List Roll × Roller :=
  let first := r.roll dice (some "Damage")
  if critical then
    let second := first.2.roll dice (some "Critical Damage")
    ([first.1, second.1], second.2)
  else ([first.1], first.2)

/-- The damage of a hit: the bonus and the totals of the rolls. -/
def totalDamage (bonus : Int) (rolls : List Roll) : Int :=
  rolls.foldl (fun sum roll => Amount.add sum roll.total) bonus

/-- The damage of an attack is rolled and dealt, if it hit. -/
def strike (e : Encounter) (attacker : Combatant) (target : CombatantId) (hit critical : Bool) :
    Outcome Blow :=
  if hit then
    let rolled := rollDamage attacker.damageDice critical e.roller
    let total := totalDamage attacker.damageBonus rolled.1
    ({ e with roller := rolled.2 }.damage target total attacker.damageType).andThen
      fun outcome e => (.ok ⟨rolled.1, total, some outcome⟩, e)
  else (.ok ⟨[], 0, none⟩, e)

/-- The tags of an attack in the log. -/
def attackEffects (roll : Roll) (hit critical : Bool) (outcome : Option DamageOutcome) :
    List String :=
  [if hit then "hit" else "miss"] ++
    (if critical then ["critical"] else []) ++
    (if roll.criticalFail then ["fumble"] else []) ++
    (match roll.mode with
      | .advantage => ["advantage"]
      | .disadvantage => ["disadvantage"]
      | .normal => []) ++
    (match outcome with
      | some o =>
        if o.dropped then [if o.dead then "target_dead" else "target_unconscious"] else []
      | none => [])

/-- An attack in words. -/
def attackText (attacker target : Combatant) (roll : Roll) (hit critical : Bool)
    (outcome : Option DamageOutcome) : String :=
  Narration.join <|
    Narration.attackLine attacker.name target.name roll hit critical target.armorClass ::
    match outcome with
    | some o =>
      [Narration.damageLine attacker.name attacker.damageDice attacker.damageBonus critical o.taken
          attacker.damageType,
        Narration.hpLine target.name target.health.current o.hp] ++
        if o.dropped then [Narration.stateLine target.name o.dead] else []
    | none => []

/-- The log entry for damage that an attack did. -/
def damageEntry (target : CombatantId) (critical : Bool) (o : DamageOutcome) : DamageEntry :=
  ⟨target, o.taken, o.damageType, critical⟩

/-- One combatant attacks another with its weapon.  The action is spent whether or not the attack
hits. -/
def attack (e : Encounter) (attackerId targetId : CombatantId) (advantage disadvantage : Bool) :
    Outcome Attack :=
  (e.lookup attackerId).andThen fun attacker e =>
  (e.lookup targetId).andThen fun target e =>
  if !attacker.hasAction then (.error (.exhausted (.turn ⟨attacker.name, .action⟩)), e)
  else
    let formula := Formula.d20 attacker.attackBonus (.ofFlags advantage disadvantage)
    let rolled := e.roller.rollFormula formula (some "Attack Roll")
    let roll := rolled.1
    let hit := decide (target.armorClass ≤ roll.total)
    let critical := hit && roll.criticalHit
    ({ e with roller := rolled.2 }.spend attackerId .action).andThen fun _ e =>
    (e.strike attacker targetId hit critical).andThen fun blow e =>
    (e.lookup targetId).andThen fun after e =>
      let description := attackText attacker target roll hit critical blow.outcome
      let recorded := e.record
        { actor := attackerId, kind := .action, name := "Attack", description
          targets := [targetId], rolls := roll :: blow.rolls
          damage := (blow.outcome.map (damageEntry targetId critical)).toList
          effects := attackEffects roll hit critical blow.outcome }
      (.ok
        { actionId := recorded.1, attacker := attackerId, target := targetId, hit
          criticalHit := critical, criticalFail := roll.criticalFail, attackRoll := roll
          damageRolls := blow.rolls, damageBonus := attacker.damageBonus
          totalDamage := blow.total, damage := blow.outcome
          targetHp := after.health.current, targetMaxHp := after.health.maximum, description },
        recorded.2)

/-! ### Other actions -/

/-- A combatant casts a spell.  Only the action is spent; what the spell does is up to whoever
keeps the rules of magic. -/
def cast (e : Encounter) (casterId : CombatantId) (spell : String) (targets : List CombatantId)
    (level : Nat) : Outcome SpellCast :=
  (e.namesOf targets).andThen fun names e =>
  (e.spend casterId .action).andThen fun caster e =>
    let description := Narration.spellLine caster.name spell level names
    let recorded := e.record
      { actor := casterId, kind := .action, name := spell, description, targets, rolls := []
        damage := [], effects := ["spell", s!"spell_level:{level}"] }
    (.ok ⟨recorded.1, casterId, spell, level, targets, description⟩, recorded.2)

/-- A combatant does something else; gives the number of its entry in the log. -/
def act (e : Encounter) (actor : CombatantId) (kind : ActionKind) (name description : String)
    (targets : List CombatantId) : Outcome ActionId :=
  (e.namesOf targets).andThen fun _ e =>
  (e.spend actor kind).andThen fun _ e =>
    let recorded := e.record
      { actor, kind, name, description, targets, rolls := [], damage := [], effects := [] }
    (.ok recorded.1, recorded.2)

/-- A combatant moves some feet; gives the feet it has left. -/
def move (e : Encounter) (id : CombatantId) (feet : Nat) : Outcome Nat :=
  (e.use id fun c => c.move feet).andThen fun c e =>
    let recorded := e.record
      { actor := id, kind := .movement, name := "Move"
        description := Narration.moveLine c.name feet c.movement
        targets := [], rolls := [], damage := [], effects := [s!"feet:{feet}"] }
    (.ok c.movement, recorded.2)

end Encounter

end Tabletop
