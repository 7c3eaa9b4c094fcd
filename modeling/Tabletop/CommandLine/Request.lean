import Tabletop.CommandLine.Arguments
import Tabletop.Encounter.Skirmish
import Tabletop.Roll.Generation
import Tabletop.Text.Numeral

/-!
# Tabletop — Command line — Requests

What can be asked for on the command line: rolls, ability scores, hit points and skirmishes.
-/

namespace Tabletop.CommandLine

/-- Where a roster comes from. -/
inductive RosterSource where
  /-- From the library. -/
  | builtin (name : String)
  /-- From a file. -/
  | file (path : String)
  deriving DecidableEq, Repr

/-- Something asked for on the command line. -/
inductive Request where
  /-- Rolls of a text. -/
  | roll (text : String) (label : Option String) (times : Nat) (seed : Option Nat)
  /-- A score for each ability. -/
  | abilities (method : AbilityMethod) (seed : Option Nat)
  /-- The hit points of a character. -/
  | hitPoints (hitDie level : Nat) (constitution : Int) (seed : Option Nat)
  /-- A skirmish. -/
  | skirmish (roster : RosterSource) (settings : Option String) (maxRounds : Nat)
      (seed : Option Nat) (asJson : Bool)
  deriving DecidableEq, Repr

/-! ### Values of options -/

/-- The value of an option, in a form that a reader understands. -/
def valueOf {α : Type} (read : String → Option α) (g : Given) (name : String) :
    Except Refusal (Option α) :=
  match g.value? name with
  | none => .ok none
  | some text =>
    match read text with
    | some a => .ok (some a)
    | none => .error .misused

/-- The value of an option, which must be given. -/
def requiredOf {α : Type} (read : String → Option α) (g : Given) (name : String) :
    Except Refusal α :=
  (valueOf read g name).bind fun
    | some a => .ok a
    | none => .error .misused

/-- A count, which may have a sign. -/
def readCount? (text : String) : Option Nat :=
  ((Text.readInt? text.toList).bind Int.toNat?).filter (· ≤ Count.greatest)

/-- An amount. -/
def readAmount? (text : String) : Option Int := Text.readAmount? text.toList

/-- A seed, which has no minus sign. -/
def readSeed? (text : String) : Option Nat :=
  (match text.toList with
    | '+' :: ds => Text.readNat? ds
    | ds => Text.readNat? ds).filter (· ≤ Dice.greatestSeed)

/-- A path, which is not empty. -/
def readPath? (text : String) : Option String := if text = "" then none else some text

/-- A method for ability scores. -/
def readMethod? (text : String) : Option AbilityMethod :=
  [("standard", .fourD6DropLowest), ("classic", .threeD6), ("point-buy", .pointBuy)].lookup text

/-! ### Commands -/

/-- An option whose value is in a form that a reader understands. -/
def valued {α : Type} (name : String) (read : String → Option α) : OptionForm :=
  { name, accepts := fun text => (read text).isSome }

/-- The option for a seed. -/
def seedOption : OptionForm := valued "seed" readSeed?

/-- The commands, with what each of them understands. -/
def commands : List (String × Form) :=
  [("roll",
      { options := [{ name := "label" }, valued "times" readCount?, seedOption]
        hasOperand := true }),
   ("abilities", { options := [valued "method" readMethod?, seedOption] }),
   ("hit-points",
      { options := [valued "hit-die" readCount?, valued "level" readCount?,
          { valued "con" readAmount? with allowsHyphens := true }, seedOption] }),
   ("skirmish",
      { options := [valued "roster" readPath?, { name := "builtin" }, valued "config" readPath?,
          valued "max-rounds" readCount?, seedOption, { name := "json", hasValue := false }] })]

/-- What becomes of a question for help: it may name one command, or the question itself. -/
def helpOn : List String → Refusal
  | [] => .help
  | [topic] => if topic = helpName ∨ (commands.lookup topic).isSome then .help else .misused
  | _ => .misused

/-- The roster of the library that is taken where none is named. -/
def defaultRoster : String := "goblin_ambush"

namespace Request

/-- The request that a command makes of what it was given. -/
def ofGiven (command : String) (g : Given) : Except Refusal Request := do
  let seed ← valueOf readSeed? g "seed"
  match command with
  | "roll" =>
    let times ← valueOf readCount? g "times"
    match g.operand with
    | some text => return .roll text (g.value? "label") (times.getD 1) seed
    | none => .error .misused
  | "abilities" =>
    let method ← valueOf readMethod? g "method"
    return .abilities (method.getD .fourD6DropLowest) seed
  | "hit-points" =>
    let hitDie ← requiredOf readCount? g "hit-die"
    let level ← valueOf readCount? g "level"
    let constitution ← valueOf readAmount? g "con"
    return .hitPoints hitDie (level.getD 1) (constitution.getD 0) seed
  | "skirmish" =>
    let file ← valueOf readPath? g "roster"
    let settings ← valueOf readPath? g "config"
    let maxRounds ← valueOf readCount? g "max-rounds"
    let source ← match file, g.value? "builtin" with
      | some _, some _ => .error .misused
      | some path, none => .ok (.file path)
      | none, name => .ok (.builtin (name.getD defaultRoster))
    return .skirmish source settings (maxRounds.getD Encounter.defaultMaxRounds) seed (g.has "json")
  | _ => .error .misused

/-- The request behind a command word. -/
def ofCommand (command : String) (words : List String) : Except Refusal Request :=
  match commands.lookup command with
  | some form => (form.read none .nothing words).bind (ofGiven command)
  | none => .error (if command = helpName then helpOn words else .misused)

/-- The request that the words of a command line make.  Flags may stand before the command. -/
def read : List String → Except Refusal Request
  | [] => .error .misused
  | word :: rest =>
    match Word.ofString word with
    | .plain => ofCommand word rest
    | .separator => .error .misused
    | .letters cs => (Form.takeLetters .nothing cs).bind fun _ => read rest
    | .long name value =>
      if value = none ∧ name = verbose.name then read rest
      else .error (if value = none ∧ name = helpName then .help else .misused)

/-- The files that a request reads. -/
def paths : Request → List String
  | .skirmish roster settings _ _ _ =>
    settings.toList ++ match roster with
      | .file path => [path]
      | .builtin _ => []
  | _ => []

end Request

end Tabletop.CommandLine
