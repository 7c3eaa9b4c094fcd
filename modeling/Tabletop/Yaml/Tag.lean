import Tabletop.Json.Reader
import Tabletop.Yaml.Source

/-!
# Tabletop — Yaml — Tags

The tags of a YAML document.  A tag is written as a handle, which stands for the first bytes of the
tag, and a suffix, which holds the other ones.  A percent escape gives a byte by its number, so that
a tag need not be a text; a zero byte ends the part of the tag that it stands in.
-/

namespace Tabletop.Yaml

/-- The bytes of a tag. -/
abbrev Tag : Type := List UInt8

namespace Tag

/-- The bytes of a text. -/
def ofString (text : String) : Tag := text.toUTF8.data.toList

/-- The text that the bytes spell. -/
def text? (t : Tag) : Option String := String.fromUTF8? ⟨t.toArray⟩

/-- The bytes before the first zero byte. -/
def untilZero (t : Tag) : Tag := t.takeWhile (· != 0)

/-- The byte of the exclamation mark. -/
def mark : UInt8 := 0x21

/-- A tag that all documents share. -/
def shared (name : String) : Tag := ofString ("tag:yaml.org,2002:" ++ name)

/-- The name that a tag of the document itself spells behind its exclamation mark. -/
def ownName? : Tag → Option String
  | [] => none
  | b :: name => if b = mark then text? name else none

end Tag

/-! ### Characters and escapes -/

/-- A character of a tag.  Brackets and commas belong to tags in angle brackets only. -/
def isTagChar (wide : Bool) (c : Cell) : Bool :=
  c.isWord || ";/?:@&=+$.%!~*'()".toList.contains c.char ||
    (wide && ",[]".toList.contains c.char)

/-- The number of bytes that follow the first byte of a character. -/
def furtherBytes? (n : Nat) : Option Nat :=
  if n < 0x80 then some 0
  else if 0xC0 ≤ n ∧ n < 0xE0 then some 1
  else if 0xE0 ≤ n ∧ n < 0xF0 then some 2
  else if 0xF0 ≤ n ∧ n < 0xF8 then some 3
  else none

/-- The number of bytes that still have to be escapes behind a byte: `further` of them before it. -/
def escapesBehind? (further n : Nat) : Option Nat :=
  match further with
  | 0 => furtherBytes? n
  | further + 1 => if 0x80 ≤ n ∧ n < 0xC0 then some further else none

/-- The bytes of the characters of a tag, of which the first `further` have to be escapes. -/
def tagBytes? : (further : Nat) → List Char → Option Tag
  | 0, [] => some []
  | _ + 1, [] => none
  | further, '%' :: a :: b :: cs => do
    let n := 16 * (← Json.hexValue? a) + (← Json.hexValue? b)
    return n.toUInt8 :: (← tagBytes? (← escapesBehind? further n) cs)
  | 0, c :: cs => if c = '%' then none else (tagBytes? 0 cs).map (c.toNat.toUInt8 :: ·)
  | _ + 1, _ :: _ => none

/-! ### Handles and tags -/

/-- The words at the start of the cells, and what follows. -/
def splitWord (cs : List Cell) : String × List Cell :=
  (String.ofList (chars (cs.takeWhile Cell.isWord)), cs.dropWhile Cell.isWord)

/-- A part of a tag at the start of the cells, and what follows. -/
def tagPart? (wide : Bool) (cs : List Cell) : Option (Tag × List Cell) := do
  return (← tagBytes? 0 (chars (cs.takeWhile (isTagChar wide))), cs.dropWhile (isTagChar wide))

/-- The handle of a tag: a word between exclamation marks, of which the second may be missing. -/
def tagHandle? (cs : List Cell) : Option (String × List Cell) :=
  match cs with
  | [] => none
  | c :: rest =>
    if c.is '!' then
      let (word, rest) := splitWord rest
      if begins '!' rest then some ("!" ++ word ++ "!", rest.tail) else some ("!" ++ word, rest)
    else none

/-- A tag in angle brackets, which has no handle. -/
def verbatimTag? (cs : List Cell) : Option (Tag × List Cell) := do
  let (suffix, rest) ← tagPart? true cs
  if suffix = [] ∨ !begins '>' rest then none
  return (suffix.untilZero, rest.tail)

/-- The handle and the suffix of a tag outside of angle brackets.  What begins like a handle and
does not end like one belongs to the suffix, and a lone exclamation mark is a suffix itself. -/
def shortTag? (cs : List Cell) : Option (String × Tag × List Cell) := do
  let (handle, rest) ← tagHandle? cs
  let (suffix, rest) ← tagPart? false rest
  if handle.length ≠ 1 ∧ handle.endsWith "!" then
    if suffix = [] then none
    return (handle, suffix.untilZero, rest)
  let suffix := (Tag.ofString handle).tail ++ suffix.untilZero
  if suffix = [] then return ("", [Tag.mark], rest) else return ("!", suffix, rest)

/-- The handle and the suffix of a tag, and what follows. -/
def tag? (inFlow : Bool) (cs : List Cell) : Option (String × Tag × List Cell) := do
  let (handle, suffix, rest) ←
    if begins '<' cs.tail then (verbatimTag? (cs.drop 2)).map fun (tag, rest) => ("", tag, rest)
    else shortTag? cs
  if endsWord rest || (inFlow && begins ',' rest) then return (handle, suffix, rest) else none

/-- The meaning of a handle, as a directive gives it: the handle and its first bytes. -/
def tagMeaning? (cs : List Cell) : Option (String × Tag × List Cell) := do
  let (handle, rest) ← tagHandle? cs
  if handle ≠ "!" ∧ !(handle.endsWith "!" && handle.length ≠ 1) then none
  if !(rest.head?.map Cell.isBlank).getD false then none
  let (meaning, rest) ← tagPart? true (skipBlanks rest)
  if meaning = [] ∨ !endsWord rest then none
  return (handle, meaning.untilZero, rest)

end Tabletop.Yaml
