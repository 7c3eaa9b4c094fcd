import Tabletop.Roll.Roller

/-!
# Tabletop — Roll — Character generation

Ability scores and hit points of a new character.
-/

namespace Tabletop

/-- How an ability score is found. -/
inductive AbilityMethod where
  /-- Four six-sided dice, without the lowest. -/
  | fourD6DropLowest
  /-- Three six-sided dice. -/
  | threeD6
  /-- Eight, before points are spent. -/
  | pointBuy
  deriving DecidableEq, Repr, Inhabited

namespace AbilityMethod

/-- The formula of a method; none where nothing is rolled. -/
def formula? : AbilityMethod → Option Formula
  | .fourD6DropLowest => some ⟨4, 6, 0, some (.highest 3), .normal⟩
  | .threeD6 => some ⟨3, 6, 0, none, .normal⟩
  | .pointBuy => none

end AbilityMethod

/-- The abilities, in the order in which their scores are rolled. -/
def abilityNames : List String := ["STR", "DEX", "CON", "INT", "WIS", "CHA"]

/-- The modifier that an ability score gives: half of what it is above 10, rounded down. -/
def abilityModifier (score : Int) : Int := Amount.clamp (score - 10) / 2

namespace Roller

/-- One ability score. -/
def abilityScore (r : Roller) (method : AbilityMethod) : Int × Roller :=
  match method.formula? with
  | some f =>
    let rolled := r.rollFormula f (some "Ability Score")
    (rolled.1.total, rolled.2)
  | none => (8, r)

/-- Some ability scores, in the order rolled. -/
def scores (r : Roller) (method : AbilityMethod) : (count : Nat) → List Int × Roller
  | 0 => ([], r)
  | count + 1 =>
    let first := r.abilityScore method
    let others := first.2.scores method count
    (first.1 :: others.1, others.2)

/-- A score for each ability. -/
def abilityScores (r : Roller) (method : AbilityMethod) : List Int × Roller :=
  r.scores method abilityNames.length

/-- The hit points after `levels` more levels, of which the first is `level`: each adds a die and
the constitution modifier. -/
def levelUp (hitDie : Nat) (constitution : Int) :
    (levels level : Nat) → Int → Roller → Int × Roller
  | 0, _, total, r => (total, r)
  | levels + 1, level, total, r =>
    let rolled := r.rollFormula ⟨1, hitDie, 0, none, .normal⟩
      (some s!"Hit Points (level {level})")
    levelUp hitDie constitution levels (level + 1)
      (Amount.add (Amount.add total rolled.1.total) constitution) rolled.2

/-- The hit points of a character: the highest face at the first level, a die at each level after
it, the constitution modifier at every level, and at least one in all. -/
def hitPoints (r : Roller) (hitDie level : Nat) (constitution : Int) : Int × Roller :=
  let total := levelUp hitDie constitution (level - 1) 2
    (Amount.add (Amount.ofCount hitDie) constitution) r
  (max total.1 1, total.2)

end Roller

end Tabletop
