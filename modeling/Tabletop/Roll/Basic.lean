import Tabletop.Amount
import Tabletop.Mode

/-!
# Tabletop — Roll

What one roll gave: the faces in the order thrown, which of them counted, the modifier and the
total.  A text that is no formula, and a total that is no amount, are recorded as a roll with an
error.  `Roll.diceText` and `Roll.text` write a roll for a reader, with the dice that did not count
in parentheses.
-/

namespace Tabletop

/-- The record of one roll. -/
structure Roll where
  /-- The formula as it was asked for. -/
  expression : String
  /-- All faces, in the order thrown. -/
  faces : List Nat
  /-- The faces that count. -/
  kept : List Nat
  /-- The faces that do not count. -/
  dropped : List Nat
  /-- What is added to the faces. -/
  modifier : Int
  /-- The sum. -/
  total : Int
  /-- A lone twenty-sided die shows 20. -/
  criticalHit : Bool
  /-- A lone twenty-sided die shows 1. -/
  criticalFail : Bool
  /-- The mode in which the dice were thrown. -/
  mode : Mode
  /-- What the roll was for. -/
  label : Option String
  /-- Why there is no total. -/
  error : Option String
  deriving DecidableEq, Repr

namespace Roll

/-- The record of a roll that gave nothing. -/
def failed (expression : String) (label : Option String) (reason : String) : Roll :=
  { expression, faces := [], kept := [], dropped := [], modifier := 0, total := 0
    criticalHit := false, criticalFail := false, mode := .normal, label, error := some reason }

/-- The roll gave no total. -/
def isError (r : Roll) : Bool := r.error.isSome

/-- The sum of faces, held at the greatest amount. -/
def sumOf (faces : List Nat) : Int :=
  faces.foldl (fun sum face => Amount.add sum (Amount.ofCount face)) 0

/-- The sum of the faces that count. -/
def diceSum (r : Roll) : Int := sumOf r.kept

/-! ### Text -/

/-- The faces, each marked when it is one of the dropped ones. -/
def mark (dropped : List Nat) : List Nat → List (Nat × Bool)
  | [] => []
  | face :: faces =>
    if face ∈ dropped then (face, true) :: mark (dropped.erase face) faces
    else (face, false) :: mark dropped faces

/-- A face; a dropped one in parentheses. -/
def markText : Nat × Bool → String
  | (face, true) => s!"({face})"
  | (face, false) => toString face

/-- A modifier behind dice: nothing for zero. -/
def modifierText (m : Int) : String :=
  if m = 0 then "" else if 0 < m then s!" + {m}" else s!" - {m.natAbs}"

/-- The dice as thrown and the modifier, for instance `[17, (4)] + 5`. -/
def diceText (r : Roll) : String :=
  if r.faces.isEmpty then toString r.modifier
  else "[" ++ ", ".intercalate ((mark r.dropped r.faces).map markText) ++ "]" ++
    modifierText r.modifier

/-- The remark on a critical. -/
def criticalText (r : Roll) : String :=
  if r.criticalHit then " (NAT20)" else if r.criticalFail then " (NAT1)" else ""

/-- The roll on one line. -/
def text (r : Roll) : String :=
  (match r.label with | some label => s!"{label}: " | none => "") ++
    match r.error with
    | some reason => s!"{r.expression} → error: {reason}"
    | none => s!"{r.expression} → {r.diceText} = {r.total}" ++ r.criticalText

instance : ToString Roll := ⟨text⟩

end Roll

end Tabletop
