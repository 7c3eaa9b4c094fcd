import Tabletop.Encounter.Action
import Tabletop.Encounter.Turn
import Tabletop.Roll.Request

/-!
# Tabletop — Encounter — Commands

Everything that can be done to a fight, as one type, so that the history of a fight is a list of
commands (`Encounter.performAll`).
-/

namespace Tabletop

/-- Something done to a fight. -/
inductive Command where
  /-- A combatant joins. -/
  | add (s : StatBlock)
  /-- A combatant leaves. -/
  | remove (id : CombatantId)
  /-- The fight begins. -/
  | start
  /-- The turn goes to the next combatant. -/
  | nextTurn
  /-- A combatant ends its turn. -/
  | endTurn (id : CombatantId)
  /-- The fight is suspended. -/
  | pause
  /-- The fight goes on. -/
  | resume
  /-- The fight is over. -/
  | finish
  /-- A combatant takes damage. -/
  | damage (id : CombatantId) (amount : Int) (damageType : DamageType)
  /-- A combatant is healed. -/
  | heal (id : CombatantId) (amount : Int)
  /-- A condition is applied. -/
  | applyCondition (id : CombatantId) (condition : Condition)
  /-- A condition is taken away. -/
  | removeCondition (id : CombatantId) (name : String)
  /-- A combatant attacks another. -/
  | attack (attacker target : CombatantId) (advantage disadvantage : Bool)
  /-- A combatant casts a spell. -/
  | cast (caster : CombatantId) (spell : String) (targets : List CombatantId) (level : Nat)
  /-- A combatant does something else. -/
  | act (actor : CombatantId) (kind : ActionKind) (name description : String)
      (targets : List CombatantId)
  /-- A combatant moves. -/
  | move (id : CombatantId) (feet : Nat)
  /-- Something is asked of the dice. -/
  | roll (request : RollRequest)

/-- The answer to a command. -/
inductive Reply where
  /-- Somebody joined. -/
  | joined (id : CombatantId)
  /-- Somebody left. -/
  | left (c : Combatant)
  /-- The fight began. -/
  | started (report : InitiativeReport)
  /-- The turn went on. -/
  | advanced (advance : TurnAdvance)
  /-- Nothing to tell. -/
  | done
  /-- The fight is over. -/
  | finished (summary : Summary)
  /-- Damage was taken. -/
  | damaged (outcome : DamageOutcome)
  /-- Hit points were restored. -/
  | healed (outcome : HealOutcome)
  /-- A condition went, or none. -/
  | condition (former : Option Condition)
  /-- An attack was made. -/
  | attacked (attack : Attack)
  /-- A spell was cast. -/
  | cast (cast : SpellCast)
  /-- Something else was done. -/
  | acted (id : ActionId)
  /-- Somebody moved and has feet left. -/
  | moved (left : Nat)
  /-- The dice answered. -/
  | rolled (reply : RollReply)

namespace Outcome

/-- The same outcome with another answer. -/
def map {α β : Type} (f : α → β) (o : Outcome α) : Outcome β := o.andThen fun a e => (.ok (f a), e)

/-- What was done cannot be refused. -/
def always {α : Type} (done : α × Encounter) : Outcome α := (.ok done.1, done.2)

end Outcome

namespace Encounter

/-- A command is carried out. -/
def perform (e : Encounter) : Command → Outcome Reply
  | .add s => (Outcome.always (e.add s)).map .joined
  | .remove id => (e.remove id).map .left
  | .start => e.start.map .started
  | .nextTurn => e.nextTurn.map .advanced
  | .endTurn id => (e.endTurn id).map .advanced
  | .pause => e.pause.map fun _ => .done
  | .resume => e.resume.map fun _ => .done
  | .finish => (Outcome.always e.finish).map .finished
  | .damage id amount damageType => (e.damage id amount damageType).map .damaged
  | .heal id amount => (e.heal id amount).map .healed
  | .applyCondition id condition => (e.applyCondition id condition).map .condition
  | .removeCondition id name => (e.removeCondition id name).map .condition
  | .attack attacker target advantage disadvantage =>
    (e.attack attacker target advantage disadvantage).map .attacked
  | .cast caster spell targets level => (e.cast caster spell targets level).map .cast
  | .act actor kind name description targets =>
    (e.act actor kind name description targets).map .acted
  | .move id feet => (e.move id feet).map .moved
  | .roll request => (Outcome.always (e.withRoller (·.answer request))).map .rolled

/-- Commands are carried out one after the other, whether or not some are refused. -/
def performAll (e : Encounter) : List Command → List (Except EncounterError Reply) × Encounter
  | [] => ([], e)
  | c :: rest =>
    let first := e.perform c
    let others := first.2.performAll rest
    (first.1 :: others.1, others.2)

end Encounter

end Tabletop
