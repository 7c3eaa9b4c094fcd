import Tabletop.Text.Blank
import Tabletop.Text.Lowercase

/-!
# Tabletop — Creature — Damage types

The kinds of damage and their names.  A name is read in any case and with blanks around it.
-/

namespace Tabletop

/-- A kind of damage. -/
inductive DamageType where
  | bludgeoning
  | piercing
  | slashing
  | fire
  | cold
  | lightning
  | acid
  | poison
  | psychic
  | radiant
  | necrotic
  | thunder
  | force
  deriving DecidableEq, Repr, Inhabited

namespace DamageType

/-- All kinds of damage. -/
def all : List DamageType :=
  [.bludgeoning, .piercing, .slashing, .fire, .cold, .lightning, .acid, .poison, .psychic,
   .radiant, .necrotic, .thunder, .force]

/-- The name of a kind of damage. -/
def name : DamageType → String
  | .bludgeoning => "bludgeoning"
  | .piercing => "piercing"
  | .slashing => "slashing"
  | .fire => "fire"
  | .cold => "cold"
  | .lightning => "lightning"
  | .acid => "acid"
  | .poison => "poison"
  | .psychic => "psychic"
  | .radiant => "radiant"
  | .necrotic => "necrotic"
  | .thunder => "thunder"
  | .force => "force"

instance : ToString DamageType := ⟨name⟩

/-- The kind of damage of a name. -/
def ofName? (name : String) : Option DamageType := all.find? fun d => d.name == name

/-- A text in the form in which names are looked up. -/
def normalize (text : String) : String :=
  String.ofList (Text.lowercase (Text.trim text.toList))

/-- The kind of damage that a text names; otherwise the complaint about the text. -/
def parse (text : String) : Except String DamageType :=
  match ofName? (normalize text) with
  | some d => .ok d
  | none => .error s!"unknown damage type '{normalize text}'"

theorem mem_all (d : DamageType) : d ∈ all := by cases d <;> decide

theorem ofName?_name (d : DamageType) : ofName? d.name = some d := by cases d <;> rfl

end DamageType

end Tabletop
