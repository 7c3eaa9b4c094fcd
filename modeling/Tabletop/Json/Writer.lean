import Tabletop.Json.Basic

/-!
# Tabletop — Json — Writing

Two layouts of a JSON value: on one line without any blank (`Json.compress`), and with one member
or element on a line, two blanks deeper on each level (`Json.pretty`).  Characters beyond ASCII are
written as they are.
-/

namespace Tabletop.Json

/-- A digit of base sixteen. -/
def hexDigit (n : Nat) : Char := Char.ofNat (if n < 10 then 0x30 + n else 0x57 + n)

/-- A character inside a string literal. -/
def escapeChar (c : Char) : List Char :=
  if c = '"' then ['\\', '"']
  else if c = '\\' then ['\\', '\\']
  else if c.toNat = 0x8 then ['\\', 'b']
  else if c.toNat = 0x9 then ['\\', 't']
  else if c.toNat = 0xA then ['\\', 'n']
  else if c.toNat = 0xC then ['\\', 'f']
  else if c.toNat = 0xD then ['\\', 'r']
  else if c.toNat < 0x20 then
    ['\\', 'u', '0', '0', hexDigit (c.toNat / 16), hexDigit (c.toNat % 16)]
  else [c]

/-- A text as a string literal. -/
def quote (text : String) : String := String.ofList ('"' :: text.toList.flatMap escapeChar ++ ['"'])

mutual

/-- The pieces of a value on one line. -/
def pieces : Json → List String
  | .null => ["null"]
  | .bool value => [if value then "true" else "false"]
  | .number text => [text]
  | .string text => [quote (text.getD "")]
  | .array elements => "[" :: elementPieces true elements
  | .object members => "\x7b" :: memberPieces true members

/-- The pieces of elements and the closing bracket. -/
def elementPieces (first : Bool) : List Json → List String
  | [] => ["]"]
  | value :: rest =>
    (if first then [] else [","]) ++ pieces value ++ elementPieces false rest

/-- The pieces of members and the closing brace. -/
def memberPieces (first : Bool) : List (JsonText × Json) → List String
  | [] => ["\x7d"]
  | (key, value) :: rest =>
    (if first then [] else [","]) ++ quote (key.getD "") :: ":" :: pieces value ++
      memberPieces false rest

end

/-- A value on one line. -/
def compress (value : Json) : String := String.join (pieces value)

/-- A new line at a depth. -/
def lineAt (depth : Nat) : String := "\n" ++ String.ofList (List.replicate (2 * depth) ' ')

mutual

/-- The pieces of a value laid out at a depth. -/
def prettyPieces (depth : Nat) : Json → List String
  | .array [] => ["[]"]
  | .array (value :: rest) =>
    "[" :: lineAt (depth + 1) :: prettyPieces (depth + 1) value ++ prettyElements depth rest
  | .object [] => ["\x7b\x7d"]
  | .object ((key, value) :: rest) =>
    "\x7b" :: lineAt (depth + 1) :: quote (key.getD "") :: ": " ::
      prettyPieces (depth + 1) value ++ prettyMembers depth rest
  | .null => ["null"]
  | .bool value => [if value then "true" else "false"]
  | .number text => [text]
  | .string text => [quote (text.getD "")]

/-- The pieces of further elements and the closing bracket. -/
def prettyElements (depth : Nat) : List Json → List String
  | [] => [lineAt depth, "]"]
  | value :: rest =>
    "," :: lineAt (depth + 1) :: prettyPieces (depth + 1) value ++ prettyElements depth rest

/-- The pieces of further members and the closing brace. -/
def prettyMembers (depth : Nat) : List (JsonText × Json) → List String
  | [] => [lineAt depth, "\x7d"]
  | (key, value) :: rest =>
    "," :: lineAt (depth + 1) :: quote (key.getD "") :: ": " ::
      prettyPieces (depth + 1) value ++ prettyMembers depth rest

end

/-- A value on many lines. -/
def pretty (value : Json) : String := String.join (prettyPieces 0 value)

end Tabletop.Json
