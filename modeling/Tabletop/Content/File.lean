import Tabletop.Content.Format
import Tabletop.Content.Roster
import Tabletop.Content.Settings
import Tabletop.Json.Dialect
import Tabletop.Json.Reader
import Tabletop.Text.Encoding
import Tabletop.Yaml.Dialect

/-!
# Tabletop — Content — Files

Settings and rosters are read from texts and from files.  The files at hand are given as a list of
paths with their bytes, so that reading them is a function of its input.
-/

namespace Tabletop

/-- The files at hand: their paths and bytes. -/
abbrev Files : Type := List (String × ByteArray)

/-- Why settings or a roster cannot be had. -/
inductive ContentError where
  /-- A text holds no settings. -/
  | malformedSettings
  /-- A text holds no roster. -/
  | malformedRoster
  /-- There is no roster of a name. -/
  | unknownRoster (name : String)
  /-- A file is missing, or its bytes are no text. -/
  | unreadable (path : String)
  /-- A file does not hold what is looked for. -/
  | malformedFile (path : String)
  deriving DecidableEq, Repr

/-- The message for settings or a roster that cannot be had. -/
def ContentError.message : ContentError → String
  | .malformedSettings => "failed to parse engine config"
  | .malformedRoster => "failed to parse roster"
  | .unknownRoster name => s!"unknown builtin roster '{name}'"
  | .unreadable path => s!"failed to read {path}"
  | .malformedFile path => s!"failed to parse {path}"

/-- A text of a format is read, in the dialect of the format. -/
def DocumentFormat.read? {α : Type} (format : DocumentFormat) (schema : Schema α) (text : String) :
    Option α :=
  match format with
  | .json => (Json.parse? text).bind (schema.read? Json.dialect)
  | .yaml => (Yaml.parse? text).bind (Yaml.readRoot? schema)

namespace Files

/-- The components of a path, without empty ones and single dots in its middle, which do not change
where it leads. -/
def components (path : String) : List (List Char) :=
  match Text.split '/' path.toList with
  | [] => []
  | first :: rest =>
    let inner := (first :: rest.dropLast).filter fun part => part ≠ [] ∧ part ≠ ['.']
    (if first = [] ∧ rest ≠ [] then [[]] else []) ++ inner ++ rest.getLast?.toList

/-- The bytes of the file that a path leads to. -/
def find? (files : Files) (path : String) : Option ByteArray :=
  (List.find? (fun file => components file.1 == components path) files).map (·.2)

/-- A file is read, in the format that its path tells. -/
def load {α : Type} (files : Files) (schema : Schema α) (path : String) : Except ContentError α :=
  match (files.find? path).map Text.decodeUtf8 with
  | some (.ok text) =>
    match (DocumentFormat.ofPath path).read? schema text with
    | some a => .ok a
    | none => .error (.malformedFile path)
  | _ => .error (.unreadable path)

end Files

namespace Settings

/-- The settings that a text holds. -/
def parse (format : DocumentFormat) (text : String) : Except ContentError Settings :=
  match format.read? schema text with
  | some settings => .ok settings
  | none => .error .malformedSettings

/-- The settings that a file holds. -/
def load (files : Files) (path : String) : Except ContentError Settings :=
  files.load schema path

end Settings

namespace Roster

/-- The roster that a text holds. -/
def parse (format : DocumentFormat) (text : String) : Except ContentError Roster :=
  match format.read? schema text with
  | some roster => .ok roster
  | none => .error .malformedRoster

/-- The roster that a file holds. -/
def load (files : Files) (path : String) : Except ContentError Roster := files.load schema path

/-- The roster of the library with a name. -/
def builtin (name : String) : Except ContentError Roster :=
  match builtin? name with
  | some roster => .ok roster
  | none => .error (.unknownRoster name)

end Roster

end Tabletop
