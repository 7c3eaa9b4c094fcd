import Tabletop.Text.Split

/-!
# Tabletop — Content — Formats

The two formats of settings and rosters.  The name of a file tells its format: JSON if its extension
is `json` in any case, YAML otherwise.
-/

namespace Tabletop

/-- A format of documents. -/
inductive DocumentFormat where
  /-- JSON. -/
  | json
  /-- YAML. -/
  | yaml
  deriving DecidableEq, Repr, Inhabited

/-- The last component of a path: dots alone and empty components do not count. -/
def fileName? (path : List Char) : Option (List Char) :=
  let components := (Text.split '/' path).filter fun part => part ≠ [] ∧ part ≠ ['.']
  components.getLast?.filter fun part => part ≠ ['.', '.']

/-- What stands behind the last dot of a file name; a dot at its start opens no extension. -/
def extension? (name : List Char) : Option (List Char) :=
  match (Text.split '.' name).reverse with
  | [] => none
  | last :: before => if before = [] ∨ before = [[]] then none else some last

namespace DocumentFormat

/-- The format that a path tells. -/
def ofPath (path : String) : DocumentFormat :=
  match (fileName? path.toList).bind extension? with
  | some extension => if extension.map Char.toLower = "json".toList then .json else .yaml
  | none => .yaml

end DocumentFormat

end Tabletop
