import Tabletop.Roll.Check
import Tabletop.Roll.Generation

/-!
# Tabletop — Roll — Requests

Everything that can be asked of a roller, as one type, so that a session with a roller is a list of
requests.
-/

namespace Tabletop

/-- Something asked of a roller. -/
inductive RollRequest where
  /-- Roll a text. -/
  | text (text : String) (label : Option String)
  /-- Roll a formula. -/
  | formula (f : Formula) (label : Option String)
  /-- Make a check. -/
  | check (modifier difficulty : Int) (mode : Mode) (label : Option String)
  /-- Find an ability score. -/
  | abilityScore (method : AbilityMethod)
  /-- Find a score for each ability. -/
  | abilityScores (method : AbilityMethod)
  /-- Find the hit points of a character. -/
  | hitPoints (hitDie level : Nat) (constitution : Int)
  /-- Show the last rolls. -/
  | recent (limit : Option Nat)
  /-- Forget all rolls. -/
  | forget

/-- The answer of a roller. -/
inductive RollReply where
  /-- A roll. -/
  | roll (r : Roll)
  /-- A check. -/
  | check (c : Check)
  /-- A number. -/
  | amount (n : Int)
  /-- Numbers. -/
  | amounts (ns : List Int)
  /-- Rolls. -/
  | rolls (rs : List Roll)
  /-- Nothing to tell. -/
  | done

namespace Roller

/-- A request is answered. -/
def answer (r : Roller) : RollRequest → RollReply × Roller
  | .text text label => (.roll (r.roll text label).1, (r.roll text label).2)
  | .formula f label => (.roll (r.rollFormula f label).1, (r.rollFormula f label).2)
  | .check modifier difficulty mode label =>
    let checked := r.check modifier difficulty mode label
    (.check checked.1, checked.2)
  | .abilityScore method => (.amount (r.abilityScore method).1, (r.abilityScore method).2)
  | .abilityScores method => (.amounts (r.abilityScores method).1, (r.abilityScores method).2)
  | .hitPoints hitDie level constitution =>
    let found := r.hitPoints hitDie level constitution
    (.amount found.1, found.2)
  | .recent limit => (.rolls (r.recent limit), r)
  | .forget => (.done, r.forget)

end Roller

end Tabletop
