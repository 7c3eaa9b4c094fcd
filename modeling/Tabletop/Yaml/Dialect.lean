import Tabletop.Document.Dialect
import Tabletop.Yaml.Document

/-!
# Tabletop — Yaml — Dialect

How YAML spells records, lists, numbers and names.  An alias is read as the node it stands for.
Numbers and truth values are plain texts, or blocks that are tagged as such; a text is any scalar.
What is not written is an empty record and an empty list.  Since a small document can spell a huge
value by means of aliases, a document is refused if its reader would meet too many of them.
-/

namespace Tabletop.Yaml

/-- A node inside a document. -/
structure Value where
  /-- The nodes with an anchor in the document, from the last to the first. -/
  anchors : List (Nat × Node)
  /-- The node. -/
  node : Node

namespace Value

/-- The root of a document. -/
def ofRoot (root : Node) : Value := ⟨root.anchors, root⟩

/-- The node itself, or the one that an alias stands for. -/
def target? (v : Value) : Option Node :=
  match v.node.bare with
  | .alias number => v.anchors.lookup number
  | node => some node

/-- Another node of the same document. -/
def sibling (v : Value) (node : Node) : Value := ⟨v.anchors, node⟩

/-! ### Records, lists and texts -/

/-- A text. -/
def text? (v : Value) : Option String :=
  match v.target? with
  | some (.scalar text _ _) => some text
  | _ => none

/-- Entries whose keys are texts. -/
def namedEntries? (v : Value) : List (Node × Node) → Option (List (String × Value))
  | [] => some []
  | (key, value) :: rest => do
    let name ← (v.sibling key).text?
    return (name, v.sibling value) :: (← v.namedEntries? rest)

/-- The known fields of a record. -/
def fields? (known : List String) (v : Value) : Option (List (String × Value)) :=
  match v.target? with
  | some (.mapping entries) => (v.namedEntries? entries).bind (Dialect.known? known)
  | some (.scalar "" .plain _) => some []
  | _ => none

/-- The elements of a list. -/
def elements? (v : Value) : Option (List Value) :=
  match v.target? with
  | some (.sequence items) => some (items.map v.sibling)
  | some (.scalar "" .plain _) => some []
  | _ => none

/-! ### Numbers and truth values -/

/-- The text of a value of a kind: a plain text, or a literal block with the tag of the kind. -/
def plainText? (kind : String) (v : Value) : Option (List Char) :=
  match v.target? with
  | some (.scalar text .plain _) => some text.toList
  | some (.scalar text .literal tag) =>
    if tag = some (Tag.shared kind) then some text.toList else none
  | _ => none

/-- A truth value, in one of three cases. -/
def truth? (v : Value) : Option Bool := do
  let text := String.ofList (← v.plainText? "bool")
  if ["true", "True", "TRUE"].contains text then some true
  else if ["false", "False", "FALSE"].contains text then some false
  else none

/-- The value of a digit in a base. -/
def digit? (base : Nat) (c : Char) : Option Nat := (Json.hexValue? c).filter (· < base)

/-- The number that one digit or more spell in a base. -/
def digits? (base : Nat) (cs : List Char) : Option Nat :=
  if cs.isEmpty then none else cs.foldlM (fun n c => (digit? base c).map (base * n + ·)) 0

/-- Several digits of which the first is a zero spell no number. -/
def hasIdleZero (cs : List Char) : Bool :=
  cs.head? == some '0' && 1 < cs.length && cs.all Char.isDigit

/-- A number without its sign: its base may be set by its first two characters. -/
def magnitude? : List Char → Option Nat
  | '0' :: 'x' :: cs => digits? 16 cs
  | '0' :: 'o' :: cs => digits? 8 cs
  | '0' :: 'b' :: cs => digits? 2 cs
  | cs => if hasIdleZero cs then none else digits? 10 cs

/-- A natural number, with an optional plus sign. -/
def readNatural? : List Char → Option Nat
  | '+' :: cs => magnitude? cs
  | cs => magnitude? cs

/-- An integer, with an optional sign. -/
def readInteger? : List Char → Option Int
  | '-' :: cs => (magnitude? cs).map fun n => -(n : Int)
  | cs => (readNatural? cs).map fun n => (n : Int)

/-- An integer. -/
def integer? (v : Value) : Option Int := (v.plainText? "int").bind readInteger?

/-- A natural number. -/
def natural? (v : Value) : Option Nat := (v.plainText? "int").bind readNatural?

/-! ### Names and absent values -/

/-- A word for nothing. -/
def isNullWord (text : String) : Bool := ["null", "Null", "NULL", "~"].contains text

/-- The name of an alternative: a text, or the tag of a value that is nothing. -/
def choice? (v : Value) : Option String :=
  match v.target? with
  | some (.scalar text style tag) =>
    match tag.bind Tag.ownName? with
    | some name => if style = .plain ∧ (text = "" ∨ isNullWord text) then some name else none
    | none => some text
  | _ => none

/-- A plain value that is a word for nothing or not written is absent. -/
def absent? (v : Value) : Option Bool :=
  match v.target? with
  | some (.scalar text .plain none) => some (text == "" || isNullWord text)
  | some (.scalar text .plain (some tag)) =>
    if tag = Tag.shared "null" then if isNullWord text then some true else none else some false
  | some _ => some false
  | none => none

/-! ### Aliases -/

/-- The node is an alias. -/
def isAlias (v : Value) : Bool :=
  match v.node with
  | .alias _ => true
  | _ => false

/-- The entries of a record. -/
def entries (v : Value) : List (Node × Node) :=
  match v.target? with
  | some (.mapping entries) => entries
  | _ => []

/-- The items of a list. -/
def items (v : Value) : List Node :=
  match v.target? with
  | some (.sequence items) => items
  | _ => []

/-- The aliases that a reader of an entry meets: its key, and its value if the key is known. -/
def entryAliases (known : List String) (key value : Value) : Nat :=
  (if key.isAlias then 1 else 0) +
    if value.isAlias && key.text?.any known.contains then 1 else 0

/-- The aliases that a reader of a value meets.  One that is met twice counts twice. -/
def aliasesMet (v : Value) : Shape → Nat
  | .record known =>
    (if v.isAlias then 1 else 0) +
      (v.entries.map fun (key, value) => entryAliases known (v.sibling key) (v.sibling value)).sum
  | .list element =>
    (if v.isAlias then 1 else 0) +
      (v.items.map fun item => aliasesMet (v.sibling item) element).sum

end Value

/-- The way YAML spells things. -/
def dialect : Dialect Value :=
  { fields? := Value.fields?, elements? := Value.elements?, text? := Value.text?
    truth? := Value.truth?, integer? := Value.integer?, natural? := Value.natural?
    choice? := Value.choice?, absent? := Value.absent? }

/-- The number of aliases that a reader may meet for each unit of a document's size. -/
def aliasesPerUnit : Nat := 100

/-- A value is read from the root of a document, unless its reader would meet too many aliases. -/
def readRoot? {α : Type} (schema : Schema α) (root : Node) : Option α :=
  let v := Value.ofRoot root
  if v.aliasesMet schema.shape ≤ aliasesPerUnit * root.size then schema.read? dialect v else none

end Tabletop.Yaml
