/-!
# Tabletop — Json

The values of a JSON document.  Objects keep their members in the order written, and numbers keep
their text, since an integer may be larger than any machine word.  `Json.canonical` gives a value
its canonical form: members sorted by key, each key once, the last one written.
-/

namespace Tabletop

/-- The text of a JSON string.  A string whose escapes hold half a surrogate pair is well formed,
but it spells no text. -/
abbrev JsonText := Option String

/-- A value of a JSON document. -/
inductive Json where
  /-- The null value. -/
  | null
  /-- A truth value. -/
  | bool (value : Bool)
  /-- A number, as it is written. -/
  | number (text : String)
  /-- A string. -/
  | string (text : JsonText)
  /-- A list of values. -/
  | array (elements : List Json)
  /-- Keys and values, in the order written. -/
  | object (members : List (JsonText × Json))
  deriving BEq, Repr, Inhabited

namespace Json

instance : Coe String Json := ⟨fun text => .string (some text)⟩

instance : Coe Bool Json := ⟨.bool⟩

instance : Coe Int Json := ⟨fun n => .number (toString n)⟩

instance : Coe Nat Json := ⟨fun n => .number (toString n)⟩

/-- An object from its members. -/
def record (members : List (String × Json)) : Json :=
  .object (members.map fun (key, value) => (some key, value))

/-- A value that may be missing. -/
def ofOption {α : Type} (encode : α → Json) : Option α → Json
  | none => .null
  | some a => encode a

/-- A list of values. -/
def ofList {α : Type} (encode : α → Json) (as : List α) : Json := .array (as.map encode)

/-! ### Canonical form -/

/-- A member in its place among members sorted by key; it replaces one with the same key. -/
def insertMember (key : JsonText) (value : Json) :
    List (JsonText × Json) → List (JsonText × Json)
  | [] => [(key, value)]
  | (other, old) :: rest =>
    if key = other then (key, value) :: rest
    else if key.getD "" < other.getD "" then (key, value) :: (other, old) :: rest
    else (other, old) :: insertMember key value rest

mutual

/-- The canonical form of a value. -/
def canonical : Json → Json
  | .array elements => .array (canonicalElements elements)
  | .object members => .object (canonicalMembers [] members)
  | value => value

/-- The canonical forms of the elements of a list. -/
def canonicalElements : List Json → List Json
  | [] => []
  | value :: rest => canonical value :: canonicalElements rest

/-- The canonical forms of members, put into their places among those that are `sorted`. -/
def canonicalMembers (sorted : List (JsonText × Json)) :
    List (JsonText × Json) → List (JsonText × Json)
  | [] => sorted
  | (key, value) :: rest => canonicalMembers (insertMember key (canonical value) sorted) rest

end

end Json

end Tabletop
