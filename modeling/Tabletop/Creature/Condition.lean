import Tabletop.Json.Basic

/-!
# Tabletop — Creature — Conditions

Named conditions that last for some rounds.  What a condition does is up to whoever applies it; its
effects are kept as they were given.  A set of conditions holds one condition per name, in the order
in which the names were first applied.
-/

namespace Tabletop

/-- A condition on a creature. -/
structure Condition where
  /-- Its name. -/
  name : String
  /-- What it means. -/
  description : String
  /-- The rounds it has left; negative for ever, and 0 until the next aging. -/
  duration : Int
  /-- Where it came from. -/
  source : String
  /-- The parameters of its effects, in the order given. -/
  effects : List (String × Json)
  deriving BEq, Repr

namespace Condition

/-- The duration of a condition that never ends. -/
def forever : Int := -1

/-- A condition without further details. -/
def ofName (name : String) (duration : Int) : Condition := ⟨name, "", duration, "", []⟩

/-- The condition never ends by itself. -/
def isPermanent (c : Condition) : Bool := decide (c.duration < 0)

/-- Effects with one more; an effect of the same name is replaced where it stands. -/
def setEffect (key : String) (value : Json) : List (String × Json) → List (String × Json)
  | [] => [(key, value)]
  | (other, old) :: rest =>
    if other = key then (key, value) :: rest else (other, old) :: setEffect key value rest

/-- The condition with one more effect. -/
def withEffect (c : Condition) (key : String) (value : Json) : Condition :=
  { c with effects := setEffect key value.canonical c.effects }

/-- The condition one round older. -/
def tick (c : Condition) : Condition :=
  if 0 < c.duration then { c with duration := c.duration - 1 } else c

@[simp] theorem name_tick (c : Condition) : c.tick.name = c.name := by
  unfold tick
  split <;> rfl

end Condition

/-- Conditions, one per name, in the order in which the names were first applied. -/
structure ConditionSet where
  /-- The conditions in order. -/
  toList : List Condition
  deriving BEq, Repr

namespace ConditionSet

/-- No conditions. -/
def empty : ConditionSet := ⟨[]⟩

/-- The names of the conditions. -/
def names (s : ConditionSet) : List String := s.toList.map (·.name)

/-- The condition of a name. -/
def get? (s : ConditionSet) (name : String) : Option Condition :=
  s.toList.find? fun c => c.name == name

/-- There is a condition of a name. -/
def contains (s : ConditionSet) (name : String) : Bool := (s.get? name).isSome

/-- The conditions with a condition in the place of the one of its name, or at the end. -/
def put (c : Condition) : List Condition → List Condition
  | [] => [c]
  | other :: rest => if other.name = c.name then c :: rest else other :: put c rest

/-- A condition is applied; gives the one it replaces. -/
def insert (s : ConditionSet) (c : Condition) : Option Condition × ConditionSet :=
  (s.get? c.name, ⟨put c s.toList⟩)

/-- The condition of a name is taken away; gives it. -/
def remove (s : ConditionSet) (name : String) : Option Condition × ConditionSet :=
  (s.get? name, ⟨s.toList.filter fun c => c.name != name⟩)

/-- One round passes: conditions that have no round left end.  Gives the names of those. -/
def age (s : ConditionSet) : List String × ConditionSet :=
  let older := s.toList.map Condition.tick
  ((older.filter fun c => c.duration == 0).map (·.name),
    ⟨older.filter fun c => c.duration != 0⟩)

end ConditionSet

end Tabletop
