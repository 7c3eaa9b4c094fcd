import Tabletop.Dice.Basic
import Tabletop.Formula.Basic
import Tabletop.Roll.Basic

/-!
# Tabletop — Roll — Throwing a formula

A formula is thrown in two steps: its dice are drawn and divided into those that count and those
that do not (`Formula.throw`), and the faces that count are added to the modifier
(`Formula.rollWith`).
-/

namespace Tabletop

/-- Faces that were thrown, and which of them count. -/
structure Throw where
  /-- All faces, in the order thrown. -/
  faces : List Nat
  /-- The faces that count. -/
  kept : List Nat
  /-- The faces that do not count. -/
  dropped : List Nat
  /-- The mode in which the dice were thrown. -/
  mode : Mode
  deriving DecidableEq, Repr

/-- The faces in the order in which a keep rule takes them. -/
def KeepRule.sort : KeepRule → List Nat → List Nat
  | .highest _, faces => faces.mergeSort fun a b => decide (b ≤ a)
  | .lowest _, faces => faces.mergeSort fun a b => decide (a ≤ b)

namespace Formula

/-- The faces of a pool, divided by the keep rule. -/
def divide (keep : Option KeepRule) (faces : List Nat) : Throw :=
  match keep with
  | some rule =>
    let sorted := rule.sort faces
    ⟨faces, sorted.take rule.count, sorted.drop rule.count, .normal⟩
  | none => ⟨faces, faces, [], .normal⟩

/-- The dice of a formula, thrown.  Only a lone twenty-sided die knows a mode. -/
def throw (f : Formula) (dice : Dice) : Throw × Dice :=
  if f.isModifierOnly then (⟨[], [], [], .normal⟩, dice)
  else if f.isSingleD20 && f.mode != .normal then
    let thrown := dice.d20 f.mode
    (⟨thrown.1.1, [thrown.1.2], thrown.1.1.erase thrown.1.2, f.mode⟩, thrown.2)
  else
    let thrown := dice.pool f.sides f.count
    (divide f.keep thrown.1, thrown.2)

/-- Why a total is missing. -/
def overflowReason (text : String) : String :=
  s!"total of '{text}' does not fit in a 32-bit integer"

/-- The record of a throw of a formula that was asked for as `text`. -/
def record (f : Formula) (text : String) (label : Option String) (t : Throw) : Roll :=
  match Amount.add? (Roll.sumOf t.kept) f.modifier with
  | none => Roll.failed text label (overflowReason text)
  | some total =>
    { expression := text, faces := t.faces, kept := t.kept, dropped := t.dropped
      modifier := f.modifier, total
      criticalHit := f.isSingleD20 && t.kept == [20]
      criticalFail := f.isSingleD20 && t.kept == [1]
      mode := t.mode, label, error := none }

/-- A formula that was asked for as `text`, rolled. -/
def rollWith (f : Formula) (text : String) (label : Option String) (dice : Dice) : Roll × Dice :=
  let thrown := f.throw dice
  (f.record text label thrown.1, thrown.2)

end Formula

end Tabletop
