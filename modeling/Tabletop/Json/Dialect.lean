import Tabletop.Document.Dialect
import Tabletop.Json.Basic
import Tabletop.Text.Numeral

/-!
# Tabletop — Json — Dialect

How JSON spells records, lists, numbers and names.  A record may also be a list of its fields in
their order, and a name may also be the only key of an object whose value is null.
-/

namespace Tabletop.Json

/-- The texts of the keys of members, if every key spells one. -/
def namedMembers? : List (JsonText × Json) → Option (List (String × Json))
  | [] => some []
  | (some key, value) :: rest => (namedMembers? rest).map ((key, value) :: ·)
  | (none, _) :: _ => none

/-- The known fields of a record. -/
def fields? (known : List String) : Json → Option (List (String × Json))
  | .object members => (namedMembers? members).bind (Dialect.known? known)
  | .array elements => if elements.length ≤ known.length then some (known.zip elements) else none
  | _ => none

/-- The elements of a list. -/
def elements? : Json → Option (List Json)
  | .array elements => some elements
  | _ => none

/-- The text of a string. -/
def text? : Json → Option String
  | .string text => text
  | _ => none

/-- A truth value. -/
def truth? : Json → Option Bool
  | .bool value => some value
  | _ => none

/-- An integer, written as one; a zero has no sign. -/
def integer? : Json → Option Int
  | .number text => if text = "-0" then none else Text.readInt? text.toList
  | _ => none

/-- A natural number. -/
def natural? (value : Json) : Option Nat := (integer? value).bind Int.toNat?

/-- A name, or the only key of an object whose value is null. -/
def choice? : Json → Option String
  | .string text => text
  | .object [(key, .null)] => key
  | _ => none

/-- The value is null. -/
def isNull : Json → Bool
  | .null => true
  | _ => false

/-- The way JSON spells things. -/
def dialect : Dialect Json :=
  { fields?, elements?, text?, truth?, integer?, natural?, choice?
    absent? := fun value => some value.isNull }

end Tabletop.Json
