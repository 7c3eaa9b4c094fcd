import Tabletop.CommandLine.Request
import Tabletop.Content.File
import Tabletop.Content.Report
import Tabletop.Json.Writer

/-!
# Tabletop — Command line — Answers

What the program prints for a command line, as a function of the words, the files at hand and a
number for dice without a seed.
-/

namespace Tabletop.CommandLine

/-- What the program does. -/
structure Answer where
  /-- Its exit code: 0 for success, 1 for a failure, 2 for words that are not understood. -/
  exit : Nat
  /-- What it prints. -/
  output : String
  /-- The message for a failure. -/
  complaint : Option String
  deriving DecidableEq, Repr

namespace Answer

/-- A success. -/
def success (output : String) : Answer := ⟨0, output, none⟩

/-- A failure, after something has been printed. -/
def failure (output complaint : String) : Answer := ⟨1, output, some complaint⟩

end Answer

/-- Lines of text. -/
def joinLines (lines : List String) : String := String.join (lines.map (· ++ "\n"))

/-- The roller for a request. -/
def rollerFor (seed : Option Nat) (entropy : Nat) : Roller := .ofDice (.ofSeed (seed.getD entropy))

/-! ### Rolls and characters -/

/-- Rolls of a text, one on a line, up to the first that fails. -/
def rollLines (text : String) (label : Option String) :
    (times : Nat) → (lines : List String) → Roller → Answer
  | 0, lines, _ => .success (joinLines lines.reverse)
  | times + 1, lines, r =>
    let rolled := r.roll text label
    match rolled.1.error with
    | some reason => .failure (joinLines lines.reverse) reason
    | none => rollLines text label times (rolled.1.text :: lines) rolled.2

/-- A number in a column of two characters. -/
def twoColumns (n : Int) : String :=
  let text := toString n
  String.ofList (List.replicate (2 - text.length) ' ') ++ text

/-- The line for an ability. -/
def abilityLine (name : String) (score : Int) : String :=
  s!"{name} {twoColumns score} ({Amount.signed (abilityModifier score)})"

/-- The lines for the abilities of a character. -/
def abilityLines (method : AbilityMethod) (r : Roller) : List String :=
  List.zipWith abilityLine abilityNames (r.abilityScores method).1

/-- The hit points of a character, whose hit die and level must not be zero. -/
def hitPointsAnswer (hitDie level : Nat) (constitution : Int) (r : Roller) : Answer :=
  if hitDie = 0 ∨ level = 0 then .failure "" "hit die and level must both be at least 1"
  else .success (joinLines [toString (r.hitPoints hitDie level constitution).1])

/-! ### Skirmishes -/

/-- The text of a file, whose encoding its mark tells. -/
def fileText (files : Files) (path : String) : Except String String :=
  match files.find? path with
  | none => .error (ContentError.unreadable path).message
  | some bytes => (Text.decode bytes).mapError Text.Utf8Error.message

/-- The settings of a skirmish. -/
def settingsFor (files : Files) : Option String → Except String Settings
  | none => .ok .standard
  | some path =>
    (fileText files path).bind fun text =>
      (Settings.parse (.ofPath path) text).mapError fun _ => s!"config {path}"

/-- The roster of a skirmish. -/
def rosterFor (files : Files) : RosterSource → Except String Roster
  | .builtin name => (Roster.builtin name).mapError ContentError.message
  | .file path =>
    (fileText files path).bind fun text =>
      (Roster.parse (.ofPath path) text).mapError fun _ => s!"roster {path}"

/-- The words for the winner of a skirmish. -/
def verdict : Winner → String
  | .players => "players win"
  | .enemies => "enemies win"
  | .draw => "draw"

/-- The report of a skirmish for a reader. -/
def reportLines (r : SkirmishReport) : List String :=
  r.lines ++ [s!"Result: {verdict r.winner} after {r.rounds} round(s)"]

/-- The report of a skirmish between those of a roster. -/
def skirmishReport (settings : Settings) (roster : Roster) (maxRounds entropy : Nat) :
    Except String SkirmishReport :=
  let e := ((Encounter.ofSettings settings entropy).addAll roster).2
  (e.skirmish maxRounds).1.mapError SkirmishError.message

/-- A skirmish is prepared and fought. -/
def skirmishAnswer (files : Files) (entropy : Nat) (roster : RosterSource)
    (settings : Option String) (maxRounds : Nat) (seed : Option Nat) (asJson : Bool) : Answer :=
  let report := do
    let settings ← settingsFor files settings
    let roster ← rosterFor files roster
    skirmishReport { settings with seed := seed <|> settings.seed } roster maxRounds entropy
  match report with
  | .error complaint => .failure "" complaint
  | .ok r => .success (joinLines (if asJson then [r.toJson.pretty] else reportLines r))

/-! ### Command lines -/

/-- A request is answered. -/
def answer (files : Files) (entropy : Nat) : Request → Answer
  | .roll text label times seed => rollLines text label times [] (rollerFor seed entropy)
  | .abilities method seed => .success (joinLines (abilityLines method (rollerFor seed entropy)))
  | .hitPoints hitDie level constitution seed =>
    hitPointsAnswer hitDie level constitution (rollerFor seed entropy)
  | .skirmish roster settings maxRounds seed asJson =>
    skirmishAnswer files entropy roster settings maxRounds seed asJson

/-- How the program is used. -/
def usageText : String :=
  joinLines
    ["Usage: tabletop [-v] <command>", "",
     "  roll <formula> [--label <text>] [--times <count>] [--seed <seed>]",
     "  abilities [--method standard|classic|point-buy] [--seed <seed>]",
     "  hit-points --hit-die <sides> [--level <level>] [--con <modifier>] [--seed <seed>]",
     "  skirmish [--roster <path> | --builtin <name>] [--config <path>] [--max-rounds <count>]",
     "           [--seed <seed>] [--json]"]

/-- The words of a command line are answered. -/
def run (words : List String) (files : Files) (entropy : Nat) : Answer :=
  match Request.read words with
  | .ok request => answer files entropy request
  | .error .help => .success usageText
  | .error .misused => ⟨2, "", none⟩

end Tabletop.CommandLine
