/-!
# Tabletop — Yaml — Source

The characters of a YAML document with their places.  Line breaks of every kind become one
character each, so that the readers see a line break as one cell; and a document must hold no
control characters.
-/

namespace Tabletop.Yaml

/-- A place in a document. -/
structure Place where
  /-- The number of bytes before it. -/
  index : Nat
  /-- The number of lines before its own. -/
  line : Nat
  /-- The number of characters before it on its line. -/
  column : Nat

/-- A character at its place. -/
structure Cell where
  /-- The character. -/
  char : Char
  /-- Its place. -/
  place : Place

/-- The column of a cell. -/
def Cell.column (c : Cell) : Nat := c.place.column

/-- A character that a document may hold. -/
def isPrintable (c : Char) : Bool :=
  let n := c.toNat
  n == 0x9 || n == 0xA || n == 0xD || (0x20 ≤ n && n ≤ 0x7E) || n == 0x85 ||
    (0xA0 ≤ n && n ≤ 0xD7FF) || (0xE000 ≤ n && n ≤ 0xFFFD) || 0x10000 ≤ n

/-- A line or paragraph separator, which keeps its character as a line break. -/
def isWideBreak (c : Char) : Bool := c.toNat == 0x2028 || c.toNat == 0x2029

/-- The cells of characters from a place on.  A carriage return with a line feed is one break. -/
def cellsFrom (place : Place) : List Char → List Cell
  | [] => []
  | '\r' :: '\n' :: cs =>
    ⟨'\n', place⟩ :: cellsFrom ⟨place.index + 2, place.line + 1, 0⟩ cs
  | c :: cs =>
    let index := place.index + c.utf8Size
    if c = '\n' ∨ c = '\r' ∨ c.toNat = 0x85 then
      ⟨'\n', place⟩ :: cellsFrom ⟨index, place.line + 1, 0⟩ cs
    else if isWideBreak c then ⟨c, place⟩ :: cellsFrom ⟨index, place.line + 1, 0⟩ cs
    else ⟨c, place⟩ :: cellsFrom ⟨index, place.line, place.column + 1⟩ cs

/-- The cells of a document, if it holds no control characters. -/
def cells? (text : String) : Option (List Cell) :=
  let cs := text.toList
  if cs.all isPrintable then some (cellsFrom ⟨0, 0, 0⟩ cs) else none

/-! ### Classes of cells -/

/-- The cell holds a character. -/
def Cell.is (c : Cell) (char : Char) : Bool := c.char == char

/-- A line break. -/
def Cell.isBreak (c : Cell) : Bool := c.char == '\n' || isWideBreak c.char

/-- A space or a tab. -/
def Cell.isBlank (c : Cell) : Bool := c.char == ' ' || c.char == '\t'

/-- A letter, a digit, a hyphen or an underscore of ASCII. -/
def Cell.isWord (c : Cell) : Bool := c.char.isAlphanum || c.char == '-' || c.char == '_'

/-- The cells begin with a character. -/
def begins (char : Char) (cs : List Cell) : Bool := (cs.head?.map (·.is char)).getD false

/-- The cells begin with one of the characters of a text. -/
def beginsOneOf (chars : String) (cs : List Cell) : Bool :=
  (cs.head?.map fun c => chars.toList.contains c.char).getD false

/-- The cells begin with a blank or a line break, or there are none. -/
def endsWord (cs : List Cell) : Bool := (cs.head?.map fun c => c.isBlank || c.isBreak).getD true

/-- The cells are at their end or at a line break. -/
def endsLine (cs : List Cell) : Bool := (cs.head?.map Cell.isBreak).getD true

/-- The characters of cells. -/
def chars (cs : List Cell) : List Char := cs.map (·.char)

/-- Three equal characters at the start of a line, behind which a word ends. -/
def isDocumentMark (char : Char) (cs : List Cell) : Bool :=
  match cs with
  | a :: b :: c :: rest =>
    a.column == 0 && a.is char && b.is char && c.is char && endsWord rest
  | _ => false

/-- A mark between documents. -/
def isAnyDocumentMark (cs : List Cell) : Bool := isDocumentMark '-' cs || isDocumentMark '.' cs

/-- The cells behind blanks. -/
def skipBlanks (cs : List Cell) : List Cell := cs.dropWhile Cell.isBlank

/-- The cells behind the blanks and the comment at the end of a line and its break; nothing if
something else stands there. -/
def finishLine? (cs : List Cell) : Option (List Cell) :=
  let cs := skipBlanks cs
  let cs := if begins '#' cs then cs.dropWhile (!·.isBreak) else cs
  match cs with
  | [] => some []
  | c :: rest => if c.isBreak then some rest else none

end Tabletop.Yaml
