import Tabletop.Encounter.Basic

/-!
# Tabletop — Encounter — Turns

The fight begins with initiative and goes around the turn order until it ends.  `nextTurn` visits
the places after the current one, once around (`upcoming`); every combatant it visits gets its turn
back, and the first that may act has the turn.  Rounds are counted up to `Count.greatest`: the count
is checked, so that a turn in a round beyond that fails instead of beginning with round 0 again.
-/

namespace Tabletop

/-- The initiative of one combatant. -/
structure InitiativeEntry where
  /-- The combatant. -/
  id : CombatantId
  /-- Its name. -/
  name : String
  /-- Its roll. -/
  roll : Roll
  /-- The total of the roll. -/
  total : Int
  deriving DecidableEq, Repr

/-- The initiative of everybody, in turn order. -/
structure InitiativeReport where
  /-- The entries. -/
  entries : List InitiativeEntry
  /-- The round that begins. -/
  round : Nat
  deriving DecidableEq, Repr

/-- The turn order of a report. -/
def InitiativeReport.order (r : InitiativeReport) : List CombatantId := r.entries.map (·.id)

/-- A turn that has come up. -/
structure TurnInfo where
  /-- Whose turn it is. -/
  id : CombatantId
  /-- The name of the combatant. -/
  name : String
  /-- The round. -/
  round : Nat
  /-- The place in the turn order. -/
  turn : Nat
  /-- A round began on the way. -/
  newRound : Bool
  /-- Those passed over because they are down. -/
  skipped : List CombatantId
  /-- The conditions that ended on the way. -/
  expired : List (CombatantId × String)
  /-- The turn in words. -/
  description : String
  deriving DecidableEq, Repr

/-- Where the turn went. -/
inductive TurnAdvance where
  /-- To a combatant. -/
  | turn (info : TurnInfo)
  /-- Nowhere: nobody in the turn order can act. -/
  | noneLiving (round : Nat)
  deriving DecidableEq, Repr

/-- The turn that came up, if one did. -/
def TurnAdvance.info? : TurnAdvance → Option TurnInfo
  | .turn info => some info
  | .noneLiving _ => none

/-- Somebody who is up when the fight ends. -/
structure Survivor where
  /-- The combatant. -/
  id : CombatantId
  /-- Its name. -/
  name : String
  /-- The hit points it has left. -/
  current : Int
  /-- The hit points it can have. -/
  maximum : Int
  deriving DecidableEq, Repr

/-- A fight in summary. -/
structure Summary where
  /-- The last round. -/
  rounds : Nat
  /-- The number of actions. -/
  totalActions : Nat
  /-- Those who are up. -/
  survivors : List Survivor
  /-- The names of those who are down. -/
  casualties : List String
  deriving DecidableEq, Repr

namespace Encounter

/-! ### The beginning -/

/-- The label of an initiative roll. -/
def initiativeLabel (c : Combatant) : String := s!"Initiative ({c.name})"

/-- Initiative for combatants, in the order in which they stand. -/
def rollInitiative : List Combatant → Roller → List InitiativeEntry × Roller
  | [], r => ([], r)
  | c :: rest, r =>
    let rolled := r.rollFormula (Formula.d20 c.initiativeBonus .normal) (some (initiativeLabel c))
    let others := rollInitiative rest rolled.2
    (⟨c.id, c.name, rolled.1, rolled.1.total⟩ :: others.1, others.2)

/-- Entries from the highest total to the lowest; equal totals stay as they stand. -/
def sortInitiative (entries : List InitiativeEntry) : List InitiativeEntry :=
  entries.mergeSort fun a b => decide (b.total ≤ a.total)

/-- A combatant that has rolled initiative, ready for its first turn. -/
def readyWith (entry : InitiativeEntry) (c : Combatant) : Combatant :=
  { c with initiative := some entry.total }.resetTurn

/-- The fight begins: everybody rolls initiative, and the first round is opened. -/
def start (e : Encounter) : Outcome InitiativeReport :=
  if e.phase ≠ .inactive then (.error (.invalidTransition e.phase .initiative), e)
  else if e.combatants.isEmpty then (.error .noCombatants, e)
  else
    let rolled := rollInitiative e.combatants e.roller
    let report : InitiativeReport := ⟨sortInitiative rolled.1, 1⟩
    (.ok report,
      { e with
        roller := rolled.2
        combatants := List.zipWith readyWith rolled.1 e.combatants
        order := report.order
        turn := 0
        round := 1
        phase := .active })

/-! ### Turns -/

/-- The places of the turn order after the current one, once around. -/
def upcoming (e : Encounter) : List (CombatantId × Nat) :=
  e.order.zipIdx.drop (e.turn + 1) ++ e.order.zipIdx.take (e.turn + 1)

/-- The conditions of everybody grow one round older; gives those that ended. -/
def ageAll (e : Encounter) : List (CombatantId × String) × Encounter :=
  (e.combatants.flatMap fun c => c.ageConditions.1.map fun name => (c.id, name),
    { e with combatants := e.combatants.map fun c => c.ageConditions.2 })

/-- The turn moves to a place in the order.  At the first place a new round begins, whether it can
be counted or not; that it can is for `nextTurn` to check. -/
def moveTo (e : Encounter) (place : Nat) : List (CombatantId × String) × Encounter :=
  if place = 0 then
    let e := { e with turn := 0, round := e.round + 1 }
    match e.settings.conditionTiming with
    | .roundEnd => e.ageAll
    | .turnStart => ([], e)
  else ([], { e with turn := place })

/-- A combatant gets its turn back; gives the conditions that ended by that. -/
def refresh (timing : ConditionTiming) (c : Combatant) : List String × Combatant :=
  match timing with
  | .roundEnd => ([], c.resetTurn)
  | .turnStart => c.resetTurn.ageConditions

/-- A turn in words. -/
def turnText (round : Nat) (c : Combatant) : String :=
  s!"[TURN] Round {round}: {c.name}'s turn ({c.health.current}/{c.health.maximum} HP)"

/-- What has happened on the way to the next turn. -/
structure Passage where
  /-- A round began. -/
  newRound : Bool
  /-- Those passed over. -/
  skipped : List CombatantId
  /-- The conditions that ended. -/
  expired : List (CombatantId × String)

/-- A place of the order is visited: the turn moves there, and whoever stands there gets its turn
back.  Gives the combatant as it is then, and the conditions that ended. -/
def visit (e : Encounter) (stop : CombatantId × Nat) :
    Outcome (Combatant × List (CombatantId × String)) :=
  let moved := e.moveTo stop.2
  (moved.2.lookup stop.1).andThen fun c e =>
    let fresh := refresh e.settings.conditionTiming c
    (.ok (fresh.2, moved.1 ++ fresh.1.map fun name => (stop.1, name)), e.replace fresh.2)

/-- The places are visited until one has somebody who may act. -/
def seekTurn (way : Passage) : List (CombatantId × Nat) → Encounter → Outcome TurnAdvance
  | [], e => (.ok (.noneLiving e.round), e)
  | (id, place) :: rest, e =>
    (e.visit (id, place)).andThen fun visited e =>
      let c := visited.1
      let newRound := way.newRound || place == 0
      let expired := way.expired ++ visited.2
      if e.settings.skipFallen && !c.isAlive then
        seekTurn ⟨newRound, way.skipped ++ [id], expired⟩ rest e
      else
        (.ok (.turn
          { id, name := c.name, round := e.round, turn := e.turn, newRound
            skipped := way.skipped, expired, description := turnText e.round c }), e)

/-- Somebody in the turn order can act. -/
def someoneCanAct (e : Encounter) : Bool :=
  !e.order.isEmpty &&
    (!e.settings.skipFallen || e.order.any fun id => (e.find? id).any Combatant.isAlive)

/-- The turn goes to the next combatant, which is never one that is down when those are passed
over.  If nobody can act it stays where it is.  Where the last round that can be counted would have
to be followed by another there is no answer but a failure, and the fight is as it was. -/
def nextTurn (e : Encounter) : Outcome TurnAdvance :=
  if e.phase ≠ .active then (.error (.notActive e.phase), e)
  else if !e.someoneCanAct then (.ok (.noneLiving e.round), e)
  else
    let sought := seekTurn ⟨false, [], []⟩ e.upcoming e
    if sought.2.round ≤ Count.greatest then sought else (.error (.exhausted .rounds), e)

/-- The combatant whose turn it is ends it. -/
def endTurn (e : Encounter) (id : CombatantId) : Outcome TurnAdvance :=
  if e.phase ≠ .active then (.error (.notActive e.phase), e)
  else if e.order[e.turn]? ≠ some id then (.error (.notYourTurn id e.order[e.turn]?), e)
  else e.nextTurn

/-! ### Pause and end -/

/-- The fight is suspended. -/
def pause (e : Encounter) : Outcome Unit :=
  if e.phase ≠ .active then (.error (.invalidTransition e.phase .paused), e)
  else (.ok (), { e with phase := .paused })

/-- The fight goes on. -/
def resume (e : Encounter) : Outcome Unit :=
  if e.phase ≠ .paused then (.error (.invalidTransition e.phase .active), e)
  else (.ok (), { e with phase := .active })

/-- The fight in summary. -/
def summary (e : Encounter) : Summary :=
  { rounds := e.round
    totalActions := e.log.size
    survivors := (e.combatants.filter Combatant.isAlive).map fun c =>
      ⟨c.id, c.name, c.health.current, c.health.maximum⟩
    casualties := (e.combatants.filter fun c => !c.isAlive).map (·.name) }

/-- The fight is over, from whatever phase. -/
def finish (e : Encounter) : Summary × Encounter := (e.summary, { e with phase := .ended })

end Encounter

end Tabletop
