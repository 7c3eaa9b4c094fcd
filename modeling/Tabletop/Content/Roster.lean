import Tabletop.Creature.StatBlock
import Tabletop.Amount
import Tabletop.Document.Dialect
import Tabletop.Json.Basic

/-!
# Tabletop — Content — Rosters

A roster is a list of stat blocks, each a record of a document.  A name and hit points must be
given; all else may be left out.  Two rosters come with the library.
-/

namespace Tabletop

namespace StatBlock

/-- The fields of a stat block, in their order. -/
def fieldNames : List String :=
  ["name", "max_hp", "armor_class", "initiative_bonus", "is_player_controlled", "attack_bonus",
   "damage_dice", "damage_bonus", "damage_type", "max_movement"]

/-- The stat block that a value of a document holds. -/
def read? {Value : Type} (d : Dialect Value) (v : Value) : Option StatBlock := do
  let amount? := d.integerWithin? Amount.least Amount.greatest
  let fields ← d.fields? fieldNames v
  let name ← Dialect.required? fields "name" d.text?
  let maxHp ← Dialect.required? fields "max_hp" amount?
  let armorClass ← Dialect.optional? fields "armor_class" defaultArmorClass amount?
  let initiativeBonus ← Dialect.optional? fields "initiative_bonus" 0 amount?
  let isPlayer ← Dialect.optional? fields "is_player_controlled" false d.truth?
  let attackBonus ← Dialect.optional? fields "attack_bonus" 0 amount?
  let damageDice ← Dialect.optional? fields "damage_dice" defaultDamageDice d.text?
  let damageBonus ← Dialect.optional? fields "damage_bonus" 0 amount?
  let damageType ← Dialect.optional? fields "damage_type" .bludgeoning
    (d.oneOf? DamageType.ofName?)
  let maxMovement ← Dialect.optional? fields "max_movement" none
    (d.option? (d.naturalUpTo? Count.greatest))
  return { name, maxHp, armorClass, initiativeBonus, isPlayer, attackBonus, damageDice
           damageBonus, damageType, maxMovement }

/-- A stat block as a JSON value. -/
def toJson (s : StatBlock) : Json :=
  .record
    [("name", s.name), ("max_hp", s.maxHp), ("armor_class", s.armorClass),
     ("initiative_bonus", s.initiativeBonus), ("is_player_controlled", s.isPlayer),
     ("attack_bonus", s.attackBonus), ("damage_dice", s.damageDice),
     ("damage_bonus", s.damageBonus), ("damage_type", s.damageType.name),
     ("max_movement", .ofOption (↑·) s.maxMovement)]

end StatBlock

/-- Those who take part in a fight. -/
abbrev Roster : Type := List StatBlock

namespace Roster

/-- The roster that a value of a document holds. -/
def read? {Value : Type} (d : Dialect Value) (v : Value) : Option Roster :=
  (d.elements? v).bind (Dialect.all? (StatBlock.read? d))

/-- A roster in a document. -/
def schema : Schema Roster := ⟨.list (.record StatBlock.fieldNames), read?⟩

/-! ### Rosters of the library -/

/-- A fighter. -/
def aria : StatBlock :=
  { name := "Aria", maxHp := 25, armorClass := 16, initiativeBonus := 3, isPlayer := true
    attackBonus := 5, damageDice := "1d8", damageBonus := 3, damageType := .slashing
    maxMovement := none }

/-- A cleric in heavy armour. -/
def brotherTomas : StatBlock :=
  { name := "Brother Tomas", maxHp := 20, armorClass := 18, initiativeBonus := 0, isPlayer := true
    attackBonus := 4, damageDice := "1d6", damageBonus := 2, damageType := .bludgeoning
    maxMovement := some 25 }

/-- A goblin whose weapon does the given kind of damage. -/
def goblin (damageType : DamageType) : StatBlock :=
  { name := "Goblin", maxHp := 7, armorClass := 15, initiativeBonus := 2, isPlayer := false
    attackBonus := 4, damageDice := "1d6", damageBonus := 2, damageType, maxMovement := none }

/-- The leader of the goblins. -/
def goblinBoss : StatBlock :=
  { name := "Goblin Boss", maxHp := 21, armorClass := 17, initiativeBonus := 2, isPlayer := false
    attackBonus := 4, damageDice := "2d6", damageBonus := 2, damageType := .slashing
    maxMovement := none }

/-- A bugbear. -/
def bugbear : StatBlock :=
  { name := "Bugbear", maxHp := 27, armorClass := 16, initiativeBonus := 2, isPlayer := false
    attackBonus := 4, damageDice := "2d8", damageBonus := 2, damageType := .piercing
    maxMovement := none }

/-- Two adventurers against three goblins. -/
def goblinAmbush : Roster := [aria, brotherTomas, goblin .slashing, goblin .piercing, goblinBoss]

/-- One against one. -/
def duel : Roster := [aria, bugbear]

/-- The roster of the library with a name. -/
def builtin? (name : String) : Option Roster :=
  [("goblin_ambush", goblinAmbush), ("duel", duel)].lookup name

end Roster

end Tabletop
