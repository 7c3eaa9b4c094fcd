import Tabletop.Creature.Combatant
import Tabletop.Roll.Basic

/-!
# Tabletop — Encounter — Action log

The log of a fight only grows.  Its entries are numbered from 1 in the order in which they were
recorded, and each is stamped with the round in which it happened.
-/

namespace Tabletop

/-- The number of a log entry. -/
structure ActionId where
  /-- The number, from 1. -/
  number : Nat
  deriving DecidableEq, Repr

instance : ToString ActionId := ⟨fun id => s!"a{id.number}"⟩

/-- Damage that an action did. -/
structure DamageEntry where
  /-- Who took it. -/
  target : CombatantId
  /-- How much. -/
  amount : Int
  /-- Of which kind. -/
  damageType : DamageType
  /-- It came from a critical hit. -/
  critical : Bool
  deriving DecidableEq, Repr

/-- What somebody did. -/
structure Deed where
  /-- Who did it. -/
  actor : CombatantId
  /-- What it took out of the turn. -/
  kind : ActionKind
  /-- What it is called. -/
  name : String
  /-- What happened, in words. -/
  description : String
  /-- Whom it was aimed at. -/
  targets : List CombatantId
  /-- The rolls it took. -/
  rolls : List Roll
  /-- The damage it did. -/
  damage : List DamageEntry
  /-- Tags for what came of it. -/
  effects : List String
  deriving DecidableEq, Repr

/-- A deed in the log. -/
structure LogEntry extends Deed where
  /-- Its number. -/
  id : ActionId
  /-- The round in which it happened, 0 before the fight begins. -/
  round : Nat
  deriving DecidableEq, Repr

/-- The deeds of a fight, oldest first. -/
structure ActionLog where
  /-- The entries. -/
  entries : Array LogEntry
  deriving DecidableEq, Repr

namespace ActionLog

/-- The log of a fight in which nothing has happened. -/
def empty : ActionLog := ⟨#[]⟩

/-- The number of entries. -/
def size (log : ActionLog) : Nat := log.entries.size

/-- The number that the next entry gets. -/
def nextId (log : ActionLog) : ActionId := ⟨log.size + 1⟩

/-- A deed is recorded in a round; gives the number of its entry. -/
def record (log : ActionLog) (deed : Deed) (round : Nat) : ActionId × ActionLog :=
  (log.nextId, ⟨log.entries.push { deed with id := log.nextId, round }⟩)

/-- The entry of a number. -/
def get? (log : ActionLog) (id : ActionId) : Option LogEntry :=
  log.entries.toList.find? fun entry => entry.id == id

/-- The last entries, `limit` of them at most, oldest first. -/
def recent (log : ActionLog) (limit : Nat) : List LogEntry :=
  log.entries.toList.drop (log.size - limit)

/-- The entries of what a combatant did. -/
def ofActor (log : ActionLog) (id : CombatantId) : List LogEntry :=
  log.entries.toList.filter fun entry => entry.actor == id

@[simp] theorem entries_record (log : ActionLog) (deed : Deed) (round : Nat) :
    (log.record deed round).2.entries =
      log.entries.push { deed with id := log.nextId, round } := rfl

@[simp] theorem size_record (log : ActionLog) (deed : Deed) (round : Nat) :
    (log.record deed round).2.size = log.size + 1 := by
  simp [size]

end ActionLog

end Tabletop
