/-!
# Tabletop — Document — Dialects

What settings and rosters are read from: values of some document format.  A dialect says how a
format spells records, lists, texts, numbers and names, so that the readers of settings and rosters
are written once for all formats.  Every reading gives nothing where a value is not what is asked
for.
-/

namespace Tabletop

/-- How the values of a document format are read. -/
structure Dialect (Value : Type) where
  /-- The known fields of a record; a field may be given once only, and unknown fields are passed
  over. -/
  fields? : (known : List String) → Value → Option (List (String × Value))
  /-- The elements of a list. -/
  elements? : Value → Option (List Value)
  /-- A text. -/
  text? : Value → Option String
  /-- A truth value. -/
  truth? : Value → Option Bool
  /-- An integer. -/
  integer? : Value → Option Int
  /-- A natural number. -/
  natural? : Value → Option Nat
  /-- The name of one of several alternatives. -/
  choice? : Value → Option String
  /-- Whether a value that may be absent is absent. -/
  absent? : Value → Option Bool

/-- What a reader looks into. -/
inductive Shape where
  /-- A record, and in it the fields of some names. -/
  | record (known : List String)
  /-- A list, and in it every element. -/
  | list (element : Shape)

/-- What is read from a value of any dialect: its shape and how it is read. -/
structure Schema (α : Type) where
  /-- The shape. -/
  shape : Shape
  /-- The reader. -/
  read? : {Value : Type} → Dialect Value → Value → Option α

namespace Dialect

variable {Value α : Type}

/-- A natural number up to a bound. -/
def naturalUpTo? (d : Dialect Value) (greatest : Nat) (v : Value) : Option Nat :=
  (d.natural? v).filter (· ≤ greatest)

/-- An integer between bounds. -/
def integerWithin? (d : Dialect Value) (least greatest : Int) (v : Value) : Option Int :=
  (d.integer? v).filter fun n => least ≤ n && n ≤ greatest

/-- A value that may be absent. -/
def option? (d : Dialect Value) (read : Value → Option α) (v : Value) : Option (Option α) :=
  (d.absent? v).bind fun absent => if absent then some none else (read v).map some

/-- One of several alternatives. -/
def oneOf? (d : Dialect Value) (ofName? : String → Option α) (v : Value) : Option α :=
  (d.choice? v).bind ofName?

/-- A field that must be given. -/
def required? (fields : List (String × Value)) (name : String) (read : Value → Option α) :
    Option α :=
  (fields.lookup name).bind read

/-- A field that has a value where it is not given. -/
def optional? (fields : List (String × Value)) (name : String) (other : α)
    (read : Value → Option α) : Option α :=
  match fields.lookup name with
  | some v => read v
  | none => some other

/-- All values of a list. -/
def all? (read : Value → Option α) : List Value → Option (List α)
  | [] => some []
  | v :: rest => (read v).bind fun a => (all? read rest).map (a :: ·)

/-- The known ones of named values, if none of them occurs twice. -/
def known? (known : List String) (named : List (String × Value)) :
    Option (List (String × Value)) :=
  let fields := named.filter fun field => known.contains field.1
  if (fields.map (·.1)).Nodup then some fields else none

end Dialect

end Tabletop
