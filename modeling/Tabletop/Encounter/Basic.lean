import Tabletop.Encounter.Error
import Tabletop.Encounter.Log
import Tabletop.Encounter.Settings
import Tabletop.Roll.Roller

/-!
# Tabletop — Encounter

The state of one fight: who takes part, in which order they act, whose turn it is, the dice and the
log.  An operation gives its answer or the reason why it was refused, together with the state it
leaves (`Outcome`); `Outcome.andThen` puts operations in a row.  This module holds the operations
that act on single combatants; turns and actions have modules of their own.
-/

namespace Tabletop

/-- The state of a fight. -/
structure Encounter where
  /-- The house rules. -/
  settings : Settings
  /-- The dice and their history. -/
  roller : Roller
  /-- Those who take part, in the order in which they came. -/
  combatants : List Combatant
  /-- The order in which they act, settled when the fight begins. -/
  order : List CombatantId
  /-- The place in the order whose turn it is. -/
  turn : Nat
  /-- The round, 0 before the fight begins and `Count.greatest` at most. -/
  round : Nat
  /-- The phase of the fight. -/
  phase : Phase
  /-- What has been done. -/
  log : ActionLog
  /-- The number of the next combatant. -/
  nextNumber : Nat
  deriving BEq

/-- The answer of an operation or the reason why it was refused, and the state it leaves. -/
abbrev Outcome (α : Type) : Type := Except EncounterError α × Encounter

/-- One operation after another.  The first refusal ends them, and what was done stays done. -/
def Outcome.andThen {α β : Type} (o : Outcome α) (next : α → Encounter → Outcome β) : Outcome β :=
  match o with
  | (.ok a, e) => next a e
  | (.error err, e) => (.error err, e)

@[simp] theorem Outcome.andThen_ok {α β : Type} (a : α) (e : Encounter)
    (next : α → Encounter → Outcome β) :
    Outcome.andThen (.ok a, e) next = next a e := rfl

@[simp] theorem Outcome.andThen_error {α β : Type} (err : EncounterError) (e : Encounter)
    (next : α → Encounter → Outcome β) :
    Outcome.andThen (.error err, e) next = (.error err, e) := rfl

namespace Encounter

/-- A fight that has not begun, with the given dice. -/
def withDice (settings : Settings) (dice : Dice) : Encounter :=
  { settings, roller := .ofDice dice, combatants := [], order := [], turn := 0, round := 0
    phase := .inactive, log := .empty, nextNumber := 1 }

/-- A fight that has not begun, with dice of the seed in the settings, or else of `entropy`. -/
def ofSettings (settings : Settings) (entropy : Nat) : Encounter :=
  withDice settings (.ofSeed (settings.seed.getD entropy))

/-! ### Those who take part -/

/-- The combatant of an identity. -/
def find? (e : Encounter) (id : CombatantId) : Option Combatant :=
  e.combatants.find? fun c => c.id == id

/-- A combatant in the place of the one with its identity. -/
def replace (e : Encounter) (c : Combatant) : Encounter :=
  { e with combatants := e.combatants.map fun other => if other.id = c.id then c else other }

/-- The combatant whose turn it is. -/
def current? (e : Encounter) : Option Combatant :=
  if e.phase = .active ∨ e.phase = .paused then e.order[e.turn]?.bind e.find? else none

/-- The combatant of an identity, or a refusal. -/
def lookup (e : Encounter) (id : CombatantId) : Outcome Combatant :=
  match e.find? id with
  | some c => (.ok c, e)
  | none => (.error (.unknownCombatant id), e)

/-- Something happens to the combatant of an identity. -/
def change {α : Type} (e : Encounter) (id : CombatantId) (f : Combatant → α × Combatant) :
    Outcome α :=
  (e.lookup id).andThen fun c e => (.ok (f c).1, e.replace (f c).2)

/-- The combatant of an identity uses up something, if it has it; gives the combatant after it. -/
def use (e : Encounter) (id : CombatantId) (f : Combatant → Except Exhausted Combatant) :
    Outcome Combatant :=
  (e.lookup id).andThen fun c e =>
    match f c with
    | .ok c => (.ok c, e.replace c)
    | .error err => (.error (.exhausted (.turn err)), e)

/-- A combatant joins with the attributes of a stat block; gives its identity.  One that joins
after the fight has begun is not in the turn order. -/
def add (e : Encounter) (s : StatBlock) : CombatantId × Encounter :=
  let id := ⟨e.nextNumber⟩
  let feet := s.maxMovement.getD e.settings.defaultMovement
  let c := Combatant.ofStatBlock id { s with maxMovement := some feet }
  (id, { e with combatants := e.combatants ++ [c], nextNumber := e.nextNumber + 1 })

/-- Combatants join one after the other; gives their identities. -/
def addAll (e : Encounter) : List StatBlock → List CombatantId × Encounter
  | [] => ([], e)
  | s :: rest =>
    let first := e.add s
    let others := first.2.addAll rest
    (first.1 :: others.1, others.2)

/-- The combatant of an identity leaves, the turn order too; gives the combatant. -/
def remove (e : Encounter) (id : CombatantId) : Outcome Combatant :=
  (e.lookup id).andThen fun c e =>
    let order := e.order.filter fun other => other != id
    (.ok c,
      { e with
        combatants := e.combatants.filter fun other => other.id != id
        order
        turn := if e.turn < order.length then e.turn else 0 })

/-! ### What happens to single combatants -/

/-- A combatant takes damage. -/
def damage (e : Encounter) (id : CombatantId) (amount : Int) (damageType : DamageType) :
    Outcome DamageOutcome :=
  e.change id fun c => c.takeDamage amount damageType

/-- A combatant is healed. -/
def heal (e : Encounter) (id : CombatantId) (amount : Int) : Outcome HealOutcome :=
  e.change id fun c => c.heal amount

/-- A condition is applied to a combatant; gives the one it replaces. -/
def applyCondition (e : Encounter) (id : CombatantId) (condition : Condition) :
    Outcome (Option Condition) :=
  e.change id fun c => c.addCondition condition

/-- The condition of a name is taken from a combatant; gives it. -/
def removeCondition (e : Encounter) (id : CombatantId) (name : String) :
    Outcome (Option Condition) :=
  e.change id fun c => c.removeCondition name

/-- Rolls with the dice of the fight. -/
def withRoller {α : Type} (e : Encounter) (f : Roller → α × Roller) : α × Encounter :=
  ((f e.roller).1, { e with roller := (f e.roller).2 })

end Encounter

end Tabletop
