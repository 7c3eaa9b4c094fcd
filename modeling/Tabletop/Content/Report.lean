import Tabletop.Encounter.Skirmish
import Tabletop.Json.Basic

/-!
# Tabletop — Content — Reports

The report of a skirmish as a JSON value.
-/

namespace Tabletop

/-- The name of a winner. -/
def Winner.name : Winner → String
  | .players => "players"
  | .enemies => "enemies"
  | .draw => "draw"

/-- A survivor as a JSON value. -/
def Survivor.toJson (s : Survivor) : Json :=
  .record [("id", s.id.number), ("name", s.name), ("current_hp", s.current), ("max_hp", s.maximum)]

/-- A summary as a JSON value. -/
def Summary.toJson (s : Summary) : Json :=
  .record
    [("rounds", s.rounds), ("total_actions", s.totalActions),
     ("survivors", .ofList Survivor.toJson s.survivors),
     ("casualties", .ofList (fun (name : String) => (name : Json)) s.casualties)]

/-- A report as a JSON value. -/
def SkirmishReport.toJson (r : SkirmishReport) : Json :=
  .record
    [("winner", r.winner.name), ("rounds", r.rounds),
     ("log", .ofList (fun (line : String) => (line : Json)) r.lines),
     ("summary", r.summary.toJson)]

end Tabletop
