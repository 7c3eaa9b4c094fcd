import Tabletop.Dice.Basic
import Tabletop.Document.Dialect
import Tabletop.Encounter.Settings
import Tabletop.Json.Basic

/-!
# Tabletop — Content — Settings

Settings as a record of a document.  Every field may be left out.
-/

namespace Tabletop

namespace ConditionTiming

/-- The name of a timing. -/
def name : ConditionTiming → String
  | .roundEnd => "round_end"
  | .turnStart => "turn_start"

/-- The timing of a name. -/
def ofName? (name : String) : Option ConditionTiming :=
  [roundEnd, turnStart].find? fun timing => timing.name == name

end ConditionTiming

namespace Settings

/-- The fields of settings, in their order. -/
def fieldNames : List String :=
  ["seed", "auto_end_dead_turns", "condition_timing", "default_movement"]

/-- The settings that a value of a document holds. -/
def read? {Value : Type} (d : Dialect Value) (v : Value) : Option Settings := do
  let fields ← d.fields? fieldNames v
  let seed ← Dialect.optional? fields "seed" standard.seed
    (d.option? (d.naturalUpTo? Dice.greatestSeed))
  let skipFallen ← Dialect.optional? fields "auto_end_dead_turns" standard.skipFallen d.truth?
  let conditionTiming ← Dialect.optional? fields "condition_timing" standard.conditionTiming
    (d.oneOf? ConditionTiming.ofName?)
  let defaultMovement ← Dialect.optional? fields "default_movement" standard.defaultMovement
    (d.naturalUpTo? Count.greatest)
  return { seed, skipFallen, conditionTiming, defaultMovement }

/-- Settings in a document. -/
def schema : Schema Settings := ⟨.record fieldNames, read?⟩

/-- Settings as a JSON value. -/
def toJson (s : Settings) : Json :=
  .record
    [("seed", .ofOption (↑·) s.seed), ("auto_end_dead_turns", s.skipFallen),
     ("condition_timing", s.conditionTiming.name), ("default_movement", s.defaultMovement)]

end Settings

end Tabletop
