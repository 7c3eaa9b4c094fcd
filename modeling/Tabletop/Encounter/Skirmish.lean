import Tabletop.Encounter.Action
import Tabletop.Encounter.Turn

/-!
# Tabletop — Encounter — Skirmishes

A fight that runs by itself: in turn order, everybody who is up attacks the first of the other side
who is up, until one side is down or the rounds are over.
-/

namespace Tabletop

/-- Which side is left standing. -/
inductive Winner where
  /-- The players. -/
  | players
  /-- Their enemies. -/
  | enemies
  /-- Both, or neither. -/
  | draw
  deriving DecidableEq, Repr, Inhabited

/-- The word for a winner in the last line of a skirmish. -/
def Winner.title : Winner → String
  | .players => "Players"
  | .enemies => "Enemies"
  | .draw => "Draw"

/-- Why a skirmish did not take place. -/
inductive SkirmishError where
  /-- The fight refused an operation. -/
  | refused (e : EncounterError)
  /-- The fight is paused or over. -/
  | wrongPhase (phase : Phase)
  deriving DecidableEq, Repr

/-- The message for a skirmish that did not take place. -/
def SkirmishError.message : SkirmishError → String
  | .refused e => e.message
  | .wrongPhase phase => s!"cannot run a skirmish while combat is {phase}"

/-- A skirmish that took place. -/
structure SkirmishReport where
  /-- Which side is left standing. -/
  winner : Winner
  /-- The rounds fought. -/
  rounds : Nat
  /-- The fight line by line. -/
  lines : List String
  /-- The fight in summary. -/
  summary : Summary
  deriving DecidableEq, Repr

namespace Encounter

/-- The rounds of a skirmish where nothing else is said. -/
def defaultMaxRounds : Nat := 30

/-- Somebody of a side is up. -/
def sideAlive (e : Encounter) (players : Bool) : Bool :=
  e.combatants.any fun c => c.isPlayer == players && c.isAlive

/-- Both sides have somebody who is up. -/
def bothSidesAlive (e : Encounter) : Bool := e.sideAlive true && e.sideAlive false

/-- The first in turn order who is up and on the other side. -/
def firstFoe? (e : Encounter) (attacker : Combatant) : Option CombatantId :=
  ((e.order.filterMap e.find?).find? fun c =>
    c.isAlive && c.isPlayer != attacker.isPlayer).map (·.id)

/-- The attack that the current combatant makes: itself and its target. -/
def plannedAttack? (e : Encounter) : Option (CombatantId × CombatantId) :=
  (e.current?.filter Combatant.isAlive).bind fun c => (e.firstFoe? c).map fun foe => (c.id, foe)

/-- The current combatant attacks, if it can; gives the line for it. -/
def takeSkirmishTurn (e : Encounter) : Outcome (List String) :=
  match e.plannedAttack? with
  | some (attacker, target) =>
    (e.attack attacker target false false).andThen fun attack e => (.ok [attack.description], e)
  | none => (.ok [], e)

/-- The line for a round that begins. -/
def roundLine (round : Nat) : String := s!"[ROUND] {round}"

/-- Whether a skirmish goes on. -/
inductive Course where
  /-- It goes on. -/
  | on
  /-- It is decided, the rounds are over or nobody can act. -/
  | over
  deriving DecidableEq, Repr

/-- One pass of a skirmish: the current combatant attacks, and the turn goes to the next.  Nothing
more is done once one side is down, the rounds are over or nobody can act.  Gives whether the
skirmish goes on, and its lines so far. -/
def pass (maxRounds : Nat) (lines : List String) (e : Encounter) :
    Outcome (Course × List String) :=
  if maxRounds < e.round || !e.bothSidesAlive then (.ok (.over, lines), e)
  else
    e.takeSkirmishTurn.andThen fun told e =>
      let lines := lines ++ told
      if !e.bothSidesAlive then (.ok (.over, lines), e)
      else
        e.nextTurn.andThen fun advance e =>
          match advance with
          | .noneLiving _ => (.ok (.over, lines), e)
          | .turn info =>
            let opened := info.newRound && decide (info.round ≤ maxRounds)
            (.ok (.on, lines ++ if opened then [roundLine info.round] else []), e)

/-- Passes are made, `passes` of them at most, until the skirmish is over; gives its lines. -/
def fight (maxRounds : Nat) : (passes : Nat) → List String → Encounter → Outcome (List String)
  | 0, lines, e => (.ok lines, e)
  | passes + 1, lines, e =>
    (pass maxRounds lines e).andThen fun (course, lines) e =>
      match course with
      | .on => fight maxRounds passes lines e
      | .over => (.ok lines, e)

/-- More passes than a skirmish can make before the rounds are over. -/
def passesLeft (e : Encounter) (maxRounds : Nat) : Nat :=
  (maxRounds + 1 - e.round) * e.order.length + 1

/-- The fight begins, if it has not begun; gives the line for it. -/
def openSkirmish (e : Encounter) : Outcome (List String) :=
  if e.phase = .inactive then
    e.start.andThen fun report e =>
      (.ok ["[INIT] " ++
        ", ".intercalate (report.entries.map fun entry => s!"{entry.name} {entry.total}")], e)
  else (.ok [], e)

/-- The side that is left standing alone. -/
def winner (e : Encounter) : Winner :=
  match e.sideAlive true, e.sideAlive false with
  | true, false => .players
  | false, true => .enemies
  | _, _ => .draw

/-- The last line of a skirmish. -/
def endLine (winner : Winner) (rounds : Nat) (s : Summary) : String :=
  let survivors := s.survivors.length
  let casualties := s.casualties.length
  s!"[END] winner={winner.title} rounds={rounds} survivors={survivors} casualties={casualties}"

/-- The fight ends and is reported. -/
def closeSkirmish (e : Encounter) (maxRounds : Nat) (lines : List String) :
    SkirmishReport × Encounter :=
  let finished := e.finish
  let rounds := min finished.1.rounds maxRounds
  (⟨e.winner, rounds, lines ++ [endLine e.winner rounds finished.1], finished.1⟩, finished.2)

/-- The fight is fought to its end, or for `maxRounds` rounds. -/
def skirmish (e : Encounter) (maxRounds : Nat) : Except SkirmishError SkirmishReport × Encounter :=
  match e.openSkirmish with
  | (.error err, e) => (.error (.refused err), e)
  | (.ok opening, e) =>
    if e.phase ≠ .active then (.error (.wrongPhase e.phase), e)
    else
      match fight maxRounds (e.passesLeft maxRounds) (opening ++ [roundLine e.round]) e with
      | (.error err, e) => (.error (.refused err), e)
      | (.ok lines, e) =>
        let closed := e.closeSkirmish maxRounds lines
        (.ok closed.1, closed.2)

end Encounter

end Tabletop
