import Tabletop.Amount

/-!
# Tabletop — Creature — Health

Hit points and the life state they drive.  A creature that falls to 0 hit points is unconscious or
dies at once; an unconscious one rolls death saves until it is stable, awake or dead.
-/

namespace Tabletop

/-- Whether a creature is up. -/
inductive LifeState where
  /-- On its feet. -/
  | conscious
  /-- Down; unless stable it is dying. -/
  | unconscious (stable : Bool)
  /-- Dead. -/
  | dead
  deriving DecidableEq, Repr, Inhabited

/-- The death saves a dying creature has made and missed. -/
structure DeathSaves where
  /-- Saves made. -/
  successes : Nat
  /-- Saves missed. -/
  failures : Nat
  deriving DecidableEq, Repr

/-- No death saves. -/
def DeathSaves.none : DeathSaves := ⟨0, 0⟩

/-- What one death save did. -/
inductive DeathSaveOutcome where
  /-- The creature was not dying. -/
  | notDying
  /-- A save made, and how many that makes. -/
  | success (successes : Nat)
  /-- A save missed, and how many that makes. -/
  | failure (failures : Nat)
  /-- A natural 20: awake with one hit point. -/
  | revived
  /-- The third save made. -/
  | stabilized
  /-- The third save missed. -/
  | died
  deriving DecidableEq, Repr

/-- The hit points and the life state of a creature. -/
structure Health where
  /-- The hit points it has. -/
  current : Int
  /-- The hit points it can have. -/
  maximum : Int
  /-- Whether it is up. -/
  state : LifeState
  /-- Its death saves. -/
  saves : DeathSaves
  deriving DecidableEq, Repr

namespace Health

/-- Full health, with one hit point at least. -/
def full (maximum : Int) : Health := ⟨max maximum 1, max maximum 1, .conscious, .none⟩

/-- The creature is not dead and has hit points. -/
def isAlive (h : Health) : Bool := h.state != .dead && decide (0 < h.current)

/-- The creature is unconscious. -/
def isUnconscious (h : Health) : Bool :=
  match h.state with
  | .unconscious _ => true
  | _ => false

/-- The state of a creature that is at 0 hit points after damage. -/
def stateAtZero (diesAtZero : Bool) : LifeState → LifeState
  | .dead => .dead
  | _ => if diesAtZero then .dead else .unconscious false

/-- Damage; a negative amount does none.  Gives the amount applied, and whether this took the
creature from its feet. -/
def damage (h : Health) (amount : Int) (diesAtZero : Bool) : (Int × Bool) × Health :=
  let applied := max amount 0
  let left := max (h.current - applied) 0
  ((applied, h.state == .conscious && left == 0),
    { h with
      current := left
      state := if left = 0 then stateAtZero diesAtZero h.state else h.state })

/-- Healing up to the maximum; a negative amount heals nothing, and the dead stay dead.  Gives the
hit points restored, and whether this woke the creature, which clears its death saves. -/
def heal (h : Health) (amount : Int) : (Int × Bool) × Health :=
  if h.state = .dead then ((0, false), h)
  else
    let healed := min (h.current + max amount 0) h.maximum
    let woke := h.isUnconscious && decide (0 < healed)
    ((healed - h.current, woke),
      if woke then { h with current := healed, state := .conscious, saves := .none }
      else { h with current := healed })

/-- A dying creature is made stable. -/
def stabilize (h : Health) : Bool × Health :=
  if h.state = .unconscious false then (true, { h with state := .unconscious true }) else (false, h)

/-- The creature rolls death saves. -/
def isDying (h : Health) : Bool := h.state == .unconscious false && decide (h.current ≤ 0)

/-- The saves after a natural roll below 20: a 1 counts as two missed. -/
def countSave (natural : Nat) (saves : DeathSaves) : DeathSaves :=
  if natural ≤ 1 then { saves with failures := min (saves.failures + 2) 3 }
  else if 10 ≤ natural then { saves with successes := min (saves.successes + 1) 3 }
  else { saves with failures := min (saves.failures + 1) 3 }

/-- A death save with a natural roll: 20 wakes the creature, otherwise 10 and more makes it. -/
def deathSave (h : Health) (natural : Nat) : DeathSaveOutcome × Health :=
  if !h.isDying then (.notDying, h)
  else if 20 ≤ natural then
    (.revived, { h with current := 1, state := .conscious, saves := .none })
  else
    let saves := countSave natural h.saves
    if 3 ≤ saves.failures then (.died, { h with state := .dead, saves })
    else if 3 ≤ saves.successes then
      (.stabilized, { h with state := .unconscious true, saves })
    else if 10 ≤ natural then (.success saves.successes, { h with saves })
    else (.failure saves.failures, { h with saves })

@[simp] theorem maximum_damage (h : Health) (amount : Int) (d : Bool) :
    (h.damage amount d).2.maximum = h.maximum := rfl

@[simp] theorem saves_damage (h : Health) (amount : Int) (d : Bool) :
    (h.damage amount d).2.saves = h.saves := rfl

@[simp] theorem current_damage (h : Health) (amount : Int) (d : Bool) :
    (h.damage amount d).2.current = max (h.current - max amount 0) 0 := rfl

end Health

end Tabletop
